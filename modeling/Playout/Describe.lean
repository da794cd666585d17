import Playout.Engine.Basic
import Playout.Text.Decimal
import Playout.Text.Unicode

/-!
# Descriptions for diagnostics

The one-line descriptions of the library's values: a record is its name followed by
`field: value` pairs in braces, an elided record ends in `..`, a variant with a payload
wraps it in parentheses, strings are quoted and floats always show a fractional part.
Key material is never shown.
-/

namespace Playout.Describe

/-- `Name { a: x, b: y }`, with `, ..` after the fields when `elided`. -/
def record (name : String) (fields : List (String × String)) (elided : Bool) : String :=
  let parts := fields.map (fun (k, v) => k ++ ": " ++ v) ++ (if elided then [".."] else [])
  if parts.isEmpty then name else name ++ " \x7b " ++ ", ".intercalate parts ++ " \x7d"

def option {α : Type} (f : α → String) : Option α → String
  | some a => "Some(" ++ f a ++ ")"
  | none => "None"

def bool (b : Bool) : String := if b then "true" else "false"

end Describe

def AlacConfig.describe (c : AlacConfig) : String :=
  Describe.record "AlacConfig"
    [("frame_length", toString c.frameLength), ("compatible_version", toString c.compatibleVersion),
     ("bit_depth", toString c.bitDepth), ("pb", toString c.pb), ("mb", toString c.mb),
     ("kb", toString c.kb), ("channels", toString c.numChannels), ("max_run", toString c.maxRun),
     ("max_frame_bytes", toString c.maxFrameBytes), ("avg_bit_rate", toString c.avgBitRate),
     ("sample_rate", toString c.sampleRate)] false

def Codec.describe : Codec → String
  | .alac c => "Alac(" ++ c.describe ++ ")"
  | .pcm => "Pcm"

def StreamParams.describe (p : StreamParams) : String :=
  Describe.record "StreamParameters"
    [("codec", p.codec.describe), ("sample_rate", toString p.sampleRate),
     ("frames_per_packet", toString p.framesPerPacket), ("encrypted", Describe.bool p.isEncrypted)]
    false

def FrameDecoder.describe (d : FrameDecoder) : String :=
  Describe.record "FrameDecoder"
    [("codec", Text.debugQuote d.codecName), ("encrypted", Describe.bool d.isEncrypted),
     ("frame_samples", toString d.frameSamples)] false

/-- A cipher shows nothing of its keys. -/
def CbcCipher.describe (_ : CbcCipher) : String := Describe.record "AesCbcCipher" [] true

def RateCorrection.describe : RateCorrection → String
  | .stuffing => "Stuffing"
  | .disabled => "Disabled"

def PlayoutConfig.describe (c : PlayoutConfig) : String :=
  Describe.record "PlayoutConfig"
    [("buffer_capacity", toString c.bufferCapacity), ("start_fill", toString c.startFill),
     ("default_latency", toString c.defaultLatency), ("rate_correction", c.rateCorrection.describe),
     ("max_resend_span", toString c.maxResendSpan),
     ("initial_volume_db", Decimal.withPoint c.initialVolumeDb)] false

def Phase.describe : Phase → String
  | .buffering => "Buffering"
  | .synchronizing => "Synchronizing"
  | .playing => "Playing"

def Engine.describe (e : Engine) : String :=
  Describe.record "PlayoutEngine"
    [("config", e.config.describe), ("state", Describe.option Phase.describe e.phase)] true

end Playout
