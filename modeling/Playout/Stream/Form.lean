import Playout.Stream.Format
import Playout.Data.Read

/-!
# Stream descriptions as values

The value form of a stream: `codec` is `"Pcm"` or `{"Alac": description}`, then the
sample rate, the packet size, and the AES key and IV as arrays of sixteen bytes or null.
-/

namespace Playout

namespace AlacConfig

def toValue (c : AlacConfig) : Value :=
  .obj [("frame_length", .nat c.frameLength.toNat), ("compatible_version", .nat c.compatibleVersion.toNat),
    ("bit_depth", .nat c.bitDepth.toNat), ("pb", .nat c.pb.toNat), ("mb", .nat c.mb.toNat),
    ("kb", .nat c.kb.toNat), ("channels", .nat c.numChannels.toNat), ("max_run", .nat c.maxRun.toNat),
    ("max_frame_bytes", .nat c.maxFrameBytes.toNat), ("avg_bit_rate", .nat c.avgBitRate.toNat),
    ("sample_rate", .nat c.sampleRate.toNat)]

def u8 (v : Value) : ReadResult UInt8 := UInt8.ofNat <$> Read.unsigned "u8" 8 v

def u16 (v : Value) : ReadResult UInt16 := UInt16.ofNat <$> Read.unsigned "u16" 16 v

def u32 (v : Value) : ReadResult UInt32 := UInt32.ofNat <$> Read.unsigned "u32" 32 v

/-- Reads a description; every field is required. -/
def ofValue : Value → ReadResult AlacConfig :=
  Read.record "struct AlacConfig" false
    [⟨"frame_length", fun v c => do pure { c with frameLength := ← u32 v }, none⟩,
     ⟨"compatible_version", fun v c => do pure { c with compatibleVersion := ← u8 v }, none⟩,
     ⟨"bit_depth", fun v c => do pure { c with bitDepth := ← u8 v }, none⟩,
     ⟨"pb", fun v c => do pure { c with pb := ← u8 v }, none⟩,
     ⟨"mb", fun v c => do pure { c with mb := ← u8 v }, none⟩,
     ⟨"kb", fun v c => do pure { c with kb := ← u8 v }, none⟩,
     ⟨"channels", fun v c => do pure { c with numChannels := ← u8 v }, none⟩,
     ⟨"max_run", fun v c => do pure { c with maxRun := ← u16 v }, none⟩,
     ⟨"max_frame_bytes", fun v c => do pure { c with maxFrameBytes := ← u32 v }, none⟩,
     ⟨"avg_bit_rate", fun v c => do pure { c with avgBitRate := ← u32 v }, none⟩,
     ⟨"sample_rate", fun v c => do pure { c with sampleRate := ← u32 v }, none⟩]
    default

end AlacConfig

namespace StreamParams

def codecValue : Codec → Value
  | .alac c => .obj [("Alac", c.toValue)]
  | .pcm => .str "Pcm"

def keyValue : Option Bytes → Value
  | some k => .arr (k.map fun b => .nat b.toNat)
  | none => .null

def toValue (p : StreamParams) : Value :=
  .obj [("codec", codecValue p.codec), ("sample_rate", .nat p.sampleRate.toNat),
    ("frames_per_packet", .nat p.framesPerPacket.toNat), ("aes_key", keyValue p.aesKey),
    ("aes_iv", keyValue p.aesIv)]

def readCodec (v : Value) : ReadResult Codec := do
  let (name, payload) ← Read.variant v
  match name with
  | "Alac" => .alac <$> (AlacConfig.ofValue (← Read.newtypePayload payload))
  | "Pcm" => Read.unitPayload payload *> pure .pcm
  | n => Read.unknownVariant n ["Alac", "Pcm"]

def readKey (v : Value) : ReadResult (Option Bytes) :=
  Read.option (Read.array 16 AlacConfig.u8) v

/-- Reads a stream description; the key and IV may be absent, everything else is
required. -/
def ofValue : Value → ReadResult StreamParams :=
  Read.record "struct StreamParameters" false
    [⟨"codec", fun v p => do pure { p with codec := ← readCodec v }, none⟩,
     ⟨"sample_rate", fun v p => do pure { p with sampleRate := ← AlacConfig.u32 v }, none⟩,
     ⟨"frames_per_packet", fun v p => do pure { p with framesPerPacket := ← AlacConfig.u32 v }, none⟩,
     ⟨"aes_key", fun v p => do pure { p with aesKey := ← readKey v }, some fun p => { p with aesKey := none }⟩,
     ⟨"aes_iv", fun v p => do pure { p with aesIv := ← readKey v }, some fun p => { p with aesIv := none }⟩]
    default

end StreamParams

end Playout
