import Playout.Seq
import Playout.Wire.Packet

/-!
# Control packets

The control channel carries retransmission requests from the receiver (`0x55`, 8 bytes),
sync packets from the sender (`0x54`, 20 bytes) tying an RTP timestamp to NTP time, and
retransmitted audio (`0x56`).
-/

namespace Playout

/-- A request to resend `count` packets starting at `first`. -/
structure ResendRequest where
  requestSeq : UInt16
  first : UInt16
  count : UInt16
deriving Repr, DecidableEq, Inhabited

namespace ResendRequest

def size : Nat := 8

def ofRange (requestSeq : UInt16) (r : SeqRange) : ResendRequest := ⟨requestSeq, r.first, r.count⟩

def range (q : ResendRequest) : SeqRange := ⟨q.first, q.count⟩

def encode (q : ResendRequest) : Bytes :=
  [0x80, 0x80 ||| PayloadType.retransmitRequest.value] ++ Bytes.be16 q.requestSeq ++
    Bytes.be16 q.first ++ Bytes.be16 q.count

/-- Reads a request; the version byte is not checked. -/
def decode (buf : Bytes) : Except PacketError ResendRequest :=
  if buf.length < size then .error (.bufferTooSmall size buf.length)
  else if PayloadType.ofByte (buf.byteAt 1) ≠ some .retransmitRequest then
    .error (.unknownPayloadType (buf.byteAt 1 &&& 0x7f))
  else .ok ⟨buf.u16 2, buf.u16 4, buf.u16 6⟩

end ResendRequest

/-- A sync packet: the sender's RTP timestamp now, its NTP time, and the RTP timestamp that
plays at that NTP time. -/
structure SyncPacket where
  extension : Bool
  rtpTimestamp : UInt32
  ntpTime : UInt64
  rtpTimestampAtNtp : UInt32
deriving Repr, DecidableEq, Inhabited

namespace SyncPacket

def size : Nat := 20

def decode (buf : Bytes) : Except PacketError SyncPacket :=
  if buf.length < size then .error (.bufferTooSmall size buf.length)
  else if PayloadType.ofByte (buf.byteAt 1) ≠ some .sync then
    .error (.unknownPayloadType (buf.byteAt 1 &&& 0x7f))
  else .ok ⟨buf.byteAt 0 &&& 0x10 ≠ 0, buf.u32 4, buf.u64 8, buf.u32 16⟩

def encode (p : SyncPacket) : Bytes :=
  [if p.extension then 0x90 else 0x80, 0x80 ||| PayloadType.sync.value] ++ Bytes.be16 7 ++
    Bytes.be32 p.rtpTimestamp ++ Bytes.be64 p.ntpTime ++ Bytes.be32 p.rtpTimestampAtNtp

end SyncPacket

/-- What arrives on the control port. -/
inductive ControlPacket where
  | sync (p : SyncPacket)
  | resent (datagram : Bytes)
deriving Repr, DecidableEq, Inhabited

/-- Classifies a control datagram; a resent packet is kept whole, prefix included. -/
def ControlPacket.decode (buf : Bytes) : Except PacketError ControlPacket :=
  if buf.length < 4 then .error (.bufferTooSmall 4 buf.length)
  else match PayloadType.ofByte (buf.byteAt 1) with
    | some .sync => .sync <$> SyncPacket.decode buf
    | some .retransmitResponse => .ok (.resent buf)
    | _ => .error (.unknownPayloadType (buf.byteAt 1 &&& 0x7f))

end Playout
