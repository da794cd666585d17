import Playout.Wire.Bytes
import Playout.Text.Format

/-!
# Audio packets

An audio datagram is a 12-byte RTP header (version 2, an audio payload type, sequence
number, timestamp, source id) followed by the payload. A retransmitted packet arrives
behind a 4-byte prefix whose payload type is `0x56`.
-/

namespace Playout

/-- The RTP payload types of the protocol; the marker bit is not part of the type. -/
inductive PayloadType where
  | sync
  | retransmitRequest
  | retransmitResponse
  | audioRealtime
  | audioBuffered
deriving Repr, DecidableEq, Inhabited

namespace PayloadType

def value : PayloadType → UInt8
  | sync => 0x54
  | retransmitRequest => 0x55
  | retransmitResponse => 0x56
  | audioRealtime => 0x60
  | audioBuffered => 0x61

/-- The payload type in the low seven bits of a header byte. -/
def ofByte (b : UInt8) : Option PayloadType :=
  match (b &&& 0x7f).toNat with
  | 0x54 => some sync
  | 0x55 => some retransmitRequest
  | 0x56 => some retransmitResponse
  | 0x60 => some audioRealtime
  | 0x61 => some audioBuffered
  | _ => none

def isAudio : PayloadType → Bool
  | audioRealtime | audioBuffered => true
  | _ => false

end PayloadType

/-- Why a datagram could not be read. -/
inductive PacketError where
  | bufferTooSmall (needed got : Nat)
  | invalidVersion (v : UInt8)
  | unknownPayloadType (t : UInt8)
deriving Repr, DecidableEq, Inhabited

namespace PacketError

def kind : PacketError → String
  | bufferTooSmall .. => "BufferTooSmall"
  | invalidVersion _ => "InvalidVersion"
  | unknownPayloadType _ => "UnknownPayloadType"

def message : PacketError → String
  | bufferTooSmall n h => s!"buffer too small: need {n} bytes, have {h}"
  | invalidVersion v => s!"invalid RTP version: {v}"
  | unknownPayloadType t => "unknown payload type: 0x" ++ Text.hexByte t

end PacketError

/-- A decoded audio datagram. -/
structure AudioPacket where
  sequence : UInt16
  timestamp : UInt32
  ssrc : UInt32
  payload : Bytes
deriving Repr, DecidableEq, Inhabited

namespace AudioPacket

def headerSize : Nat := 12

def resendPrefixSize : Nat := 4

/-- Reads a plain audio datagram: length first, then version, then payload type. -/
def parse (buf : Bytes) : Except PacketError AudioPacket :=
  if buf.length < headerSize then .error (.bufferTooSmall headerSize buf.length)
  else
    let version := (buf.byteAt 0 >>> 6) &&& 3
    if version ≠ 2 then .error (.invalidVersion version)
    else match PayloadType.ofByte (buf.byteAt 1) with
      | some t =>
        if t.isAudio then
          .ok ⟨buf.u16 2, buf.u32 4, buf.u32 8, buf.drop headerSize⟩
        else .error (.unknownPayloadType (buf.byteAt 1 &&& 0x7f))
      | none => .error (.unknownPayloadType (buf.byteAt 1 &&& 0x7f))

/-- A 16-bit word rebuilt from its two bytes. -/
theorem u16_of_bytes (s : UInt16) :
    UInt16.ofNat (s.toNat / 256 % 256) * 256 + UInt16.ofNat (s.toNat % 256) = s := by
  have hs : s.toNat < 65536 := s.toNat_lt
  apply UInt16.toNat_inj.mp
  simp [UInt16.toNat_add, UInt16.toNat_mul]
  omega

/-- A 32-bit word rebuilt from its four bytes. -/
theorem u32_of_bytes (t : UInt32) :
    ((UInt32.ofNat (t.toNat / 16777216 % 256) * 256 + UInt32.ofNat (t.toNat / 65536 % 256)) * 256 +
      UInt32.ofNat (t.toNat / 256 % 256)) * 256 + UInt32.ofNat (t.toNat % 256) = t := by
  have ht : t.toNat < 4294967296 := t.toNat_lt
  apply UInt32.toNat_inj.mp
  simp [UInt32.toNat_add, UInt32.toNat_mul]
  omega

/-- Reads a retransmitted datagram: the audio packet behind the 4-byte prefix. -/
def parseResent (buf : Bytes) : Except PacketError AudioPacket :=
  if buf.length < resendPrefixSize + headerSize then
    .error (.bufferTooSmall (resendPrefixSize + headerSize) buf.length)
  else parse (buf.drop resendPrefixSize)

def encode (sequence : UInt16) (timestamp ssrc : UInt32) (payload : Bytes) : Bytes :=
  [0x80, 0x80 ||| PayloadType.audioRealtime.value] ++ Bytes.be16 sequence ++
    Bytes.be32 timestamp ++ Bytes.be32 ssrc ++ payload

/-- Reading an encoded packet gives back its fields. -/
theorem parse_encode (s : UInt16) (t c : UInt32) (p : Bytes) :
    parse (encode s t c p) = .ok ⟨s, t, c, p⟩ := by
  simp [parse, encode, headerSize, Bytes.be16, Bytes.be32, Bytes.ofNatBE, Bytes.byteAt,
    Bytes.u16, Bytes.u32, Bytes.readBE, List.range_succ, PayloadType.ofByte,
    PayloadType.value, PayloadType.isAudio]
  rw [if_neg (by omega), if_pos (by decide), u16_of_bytes, u32_of_bytes, u32_of_bytes]

/-- Puts a whole audio datagram behind the retransmission prefix. -/
def wrapResent (sequence : UInt16) (packet : Bytes) : Bytes :=
  [0x80, 0x80 ||| PayloadType.retransmitResponse.value] ++ Bytes.be16 sequence ++ packet

/-- Reading a retransmitted packet gives back the fields of the packet inside. -/
theorem parseResent_wrapResent (k s : UInt16) (t c : UInt32) (p : Bytes) :
    parseResent (wrapResent k (encode s t c p)) = .ok ⟨s, t, c, p⟩ := by
  have hlen : ¬ (wrapResent k (encode s t c p)).length < resendPrefixSize + headerSize := by
    simp [wrapResent, encode, resendPrefixSize, headerSize, Bytes.be16, Bytes.be32]
    omega
  rw [parseResent, if_neg hlen]
  have hdrop : (wrapResent k (encode s t c p)).drop resendPrefixSize = encode s t c p := by
    simp [wrapResent, resendPrefixSize, Bytes.be16, Bytes.ofNatBE, List.range_succ]
  rw [hdrop, parse_encode]

end AudioPacket

end Playout
