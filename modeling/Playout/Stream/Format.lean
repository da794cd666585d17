import Playout.Wire.Bytes
import Playout.Text.Unicode
import Playout.Text.Numeral
import Playout.Clock

/-!
# Stream formats

An ALAC stream is described by eleven numbers, given in the session's `fmtp` attribute
and packed into the decoder's 24-byte magic cookie. A stream is either ALAC with such a
description or raw 16-bit big-endian PCM; it has a sample rate, a packet size in frames,
and optionally an AES key and IV. Playback is always 16-bit stereo.
-/

namespace Playout

/-- Stereo: two samples a frame. -/
def channels : Nat := 2

/-- Why a stream description was refused. -/
inductive FormatError where
  | invalidFmtp (detail : String)
  | unsupported (detail : String)
deriving Repr, DecidableEq, Inhabited

namespace FormatError

def kind : FormatError → String
  | invalidFmtp _ => "InvalidFmtp"
  | unsupported _ => "Unsupported"

def message : FormatError → String
  | invalidFmtp d => "invalid fmtp line: " ++ d
  | unsupported d => "unsupported stream format: " ++ d

end FormatError

/-- The eleven numbers of an ALAC stream description. -/
structure AlacConfig where
  frameLength : UInt32
  compatibleVersion : UInt8
  bitDepth : UInt8
  pb : UInt8
  mb : UInt8
  kb : UInt8
  numChannels : UInt8
  maxRun : UInt16
  maxFrameBytes : UInt32
  avgBitRate : UInt32
  sampleRate : UInt32
deriving Repr, DecidableEq, Inhabited

namespace AlacConfig

/-- The usual description for 16-bit stereo at the given packet size and rate. -/
def create (frameLength sampleRate : UInt32) : AlacConfig :=
  ⟨frameLength, 0, 16, 40, 10, 14, 2, 255, 0, 0, sampleRate⟩

/-- The `i`-th field as a numeral below `bound`. -/
def fmtpField (fields : List String) (i bound : Nat) : Except FormatError Nat :=
  let t := fields.getD i ""
  match Text.parseUnsigned t bound with
  | some v => .ok v
  | none => .error (.invalidFmtp s!"bad field {i}: {t}")

/-- Reads the description from an `fmtp` line: eleven numbers, or twelve with a leading
payload type that is dropped unread. -/
def ofFmtp (line : String) : Except FormatError AlacConfig := do
  let ws := Text.words line
  let fs ← match ws.length with
    | 12 => pure ws.tail
    | 11 => pure ws
    | n => throw (.invalidFmtp s!"expected 11 or 12 fields, got {n}")
  let u8 i := UInt8.ofNat <$> fmtpField fs i 256
  let u16 i := UInt16.ofNat <$> fmtpField fs i 65536
  let u32 i := UInt32.ofNat <$> fmtpField fs i (Nat.pow 2 32)
  pure ⟨← u32 0, ← u8 1, ← u8 2, ← u8 3, ← u8 4, ← u8 5, ← u8 6, ← u16 7, ← u32 8, ← u32 9, ← u32 10⟩

/-- The decoder's 24-byte magic cookie, big-endian. -/
def magicCookie (c : AlacConfig) : Bytes :=
  Bytes.be32 c.frameLength ++ [c.compatibleVersion, c.bitDepth, c.pb, c.mb, c.kb, c.numChannels] ++
    Bytes.be16 c.maxRun ++ Bytes.be32 c.maxFrameBytes ++ Bytes.be32 c.avgBitRate ++
    Bytes.be32 c.sampleRate

end AlacConfig

/-- How packets are coded. -/
inductive Codec where
  | alac (c : AlacConfig)
  | pcm
deriving Repr, DecidableEq, Inhabited

/-- Everything the player needs to know about a stream. -/
structure StreamParams where
  codec : Codec
  sampleRate : UInt32
  framesPerPacket : UInt32
  aesKey : Option Bytes
  aesIv : Option Bytes
deriving Repr, DecidableEq, Inhabited

namespace StreamParams

def alac (c : AlacConfig) : StreamParams := ⟨.alac c, c.sampleRate, c.frameLength, none, none⟩

def pcm (framesPerPacket sampleRate : UInt32) : StreamParams :=
  ⟨.pcm, sampleRate, framesPerPacket, none, none⟩

/-- ALAC, 352 frames a packet at 44.1 kHz. -/
def standard : StreamParams := alac (AlacConfig.create 352 44100)

def withEncryption (p : StreamParams) (key iv : Bytes) : StreamParams :=
  { p with aesKey := some key, aesIv := some iv }

def isEncrypted (p : StreamParams) : Bool := p.aesKey.isSome && p.aesIv.isSome

/-- Samples in one packet's frame, both channels. -/
def frameSamples (p : StreamParams) : Nat := p.framesPerPacket.toNat * channels

/-- The length of one packet in nanoseconds: frames over rate in double precision, then
rounded to the nearest nanosecond. -/
def packetDurationNs (p : StreamParams) : Nat :=
  nanosOfSeconds (Float.ofNat p.framesPerPacket.toNat / Float.ofNat p.sampleRate.toNat)

/-- The checks a stream must pass before a session starts, in order. -/
def validate (p : StreamParams) : Except FormatError Unit := do
  if p.sampleRate = 0 then throw (.unsupported "sample rate is zero")
  if p.framesPerPacket < 2 then throw (.unsupported s!"{p.framesPerPacket} frames per packet")
  if p.aesKey.isSome ≠ p.aesIv.isSome then
    throw (.unsupported "AES key and IV must be supplied together")
  match p.codec with
  | .alac c =>
    if c.bitDepth ≠ 16 ∨ c.numChannels.toNat ≠ channels then
      throw (.unsupported s!"{c.bitDepth}-bit {c.numChannels}-channel ALAC")
    if c.frameLength ≠ p.framesPerPacket then
      throw (.unsupported s!"ALAC frame length {c.frameLength} does not match {p.framesPerPacket} frames per packet")
  | .pcm => pure ()

end StreamParams

end Playout
