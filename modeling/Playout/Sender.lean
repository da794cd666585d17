import Playout.Alac.Encoder
import Playout.Cipher.Cbc
import Playout.Stream.Format
import Playout.Wire.Packet
import Playout.Fault

/-!
# The sending side

What a sender does to a frame of PCM before it reaches the player: codec step, AES-CBC over
the whole blocks, then the 12-byte RTP header, with sequence numbers and timestamps that
advance by one and by a packet's frames. Also a test tone: a sine at a given frequency on
the left channel at 12000 of full scale, and half of it on the right.
-/

namespace Playout

/-- The 16-bit sample a float converts to: truncated toward zero, saturated at the
extremes, NaN as zero. -/
def Float.toSample16 (x : Float) : Int :=
  if x.isNaN then 0
  else if 32767.0 ≤ x then 32767
  else if x ≤ -32768.0 then -32768
  else if x < 0.0 then -((-x).toUInt64.toNat : Int)
  else (x.toUInt64.toNat : Int)

/-- Interleaved stereo frames of a sine tone starting at sample position `start`. -/
def tone (frequency : Float) (rate : Nat) (start : UInt32) (frames : Nat) : List Int :=
  (List.range frames).flatMap fun i =>
    let t := Float.ofNat (start + UInt32.ofNat i).toNat / Float.ofNat rate
    let v := Float.toSample16 (Float.sin (2.0 * 3.141592653589793 * frequency * t) * 12000.0)
    [v, Int.tdiv v 2]

/-- How a sender codes frames. -/
inductive FrameCoder where
  | alac (e : Alac.Encoder)
  | l16
deriving Inhabited

/-- A sender of one stream. -/
structure PacketFactory where
  coder : FrameCoder
  cipher : Option CbcCipher
  sampleRate : Nat
  framesPerPacket : UInt32
  ssrc : UInt32 := 0x12345678
  sequence : UInt16 := 0
  timestamp : UInt32 := 0

/-- A packet as sent. -/
structure SentPacket where
  sequence : UInt16
  timestamp : UInt32
  pcm : List Int
  datagram : Bytes

namespace PacketFactory

/-- A sender for a stream; key material that does not make a cipher is left out. -/
def create (p : StreamParams) : PacketFactory :=
  let cipher := match p.aesKey, p.aesIv with
    | some key, some iv => match CbcCipher.create key iv with
      | .ok c => some c
      | .error _ => none
    | _, _ => none
  let coder := match p.codec with
    | .alac _ => FrameCoder.alac (Alac.Encoder.create p.framesPerPacket.toNat)
    | .pcm => .l16
  { coder, cipher, sampleRate := p.sampleRate.toNat, framesPerPacket := p.framesPerPacket }

def startingAt (f : PacketFactory) (sequence : UInt16) (timestamp : UInt32) : PacketFactory :=
  { f with sequence, timestamp }

/-- Big-endian 16-bit samples. -/
def l16 (pcm : List Int) : Bytes := pcm.flatMap fun s => Bytes.be16 (UInt16.ofInt s)

/-- The output buffer of the sender, in bytes; longer output is cut. -/
def maxFrameBytes : Nat := 8192

/-- The coded frame, before enciphering; a fault of the encoder stops the program. -/
def plainPayload (f : PacketFactory) (pcm : List Int) : Except Fault (Bytes × PacketFactory) :=
  match f.coder with
  | .l16 => .ok (l16 pcm, f)
  | .alac e => do
    let (e, bytes) ← e.encode pcm maxFrameBytes
    pure (bytes.take maxFrameBytes, { f with coder := .alac e })

/-- The payload of a frame, enciphered when the stream is. -/
def payload (f : PacketFactory) (pcm : List Int) : Except Fault (Bytes × PacketFactory) := do
  let (plain, f) ← f.plainPayload pcm
  pure (match f.cipher with
    | some c => c.encrypt plain
    | none => plain, f)

/-- A whole datagram with the given sequence number and timestamp, carrying `pcm`. -/
def packet (f : PacketFactory) (sequence : UInt16) (timestamp : UInt32) (pcm : List Int) :
    Except Fault (Bytes × PacketFactory) := do
  let (body, f) ← f.payload pcm
  pure (AudioPacket.encode sequence timestamp f.ssrc body, f)

/-- The next packet, carrying `pcm`. -/
def next (f : PacketFactory) (pcm : List Int) : Except Fault (SentPacket × PacketFactory) := do
  let (datagram, f') ← f.packet f.sequence f.timestamp pcm
  pure (⟨f.sequence, f.timestamp, pcm, datagram⟩,
    { f' with sequence := f.sequence + 1, timestamp := f.timestamp + f.framesPerPacket })

/-- The next packet, carrying a stretch of a tone at the current timestamp. -/
def nextTone (f : PacketFactory) (frequency : Float) : Except Fault (SentPacket × PacketFactory) :=
  f.next (tone frequency f.sampleRate f.timestamp f.framesPerPacket.toNat)

end PacketFactory

end Playout
