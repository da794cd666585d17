import Playout.Error
import Playout.Stream.Format
import Playout.Data.Read

/-!
# Player configuration

The player's settings: ring size, the fill at which playback may start, the default
latency, whether the clock drift is corrected by stuffing samples, the longest run a
retransmission request may cover, and the initial volume. Settings are read from a map
in which every key is optional, and checked before a session starts.
-/

namespace Playout

/-- How clock drift between sender and output is handled. -/
inductive RateCorrection where
  | stuffing
  | disabled
deriving Repr, DecidableEq, Inhabited

def RateCorrection.name : RateCorrection → String
  | .stuffing => "stuffing"
  | .disabled => "disabled"

/-- The player's settings. -/
structure PlayoutConfig where
  bufferCapacity : Nat := 512
  startFill : Nat := 220
  /-- Output latency in samples when the session names none. -/
  defaultLatency : UInt32 := 88200
  rateCorrection : RateCorrection := .stuffing
  maxResendSpan : UInt16 := 128
  initialVolumeDb : Float := 0.0
deriving Inhabited

/-- A power of two. -/
def isPowerOfTwo (n : Nat) : Bool := n != 0 && n &&& (n - 1) == 0

namespace PlayoutConfig

/-- The checks the settings must pass, in order. -/
def validate (c : PlayoutConfig) : Except PlayoutError Unit := do
  if !isPowerOfTwo c.bufferCapacity || c.bufferCapacity < 4 then
    throw (.invalidConfig s!"buffer capacity {c.bufferCapacity} is not a power of two >= 4")
  if c.bufferCapacity > 32767 then
    throw (.invalidConfig s!"buffer capacity {c.bufferCapacity} exceeds half the sequence space")
  if c.startFill = 0 ∨ c.startFill ≥ c.bufferCapacity then
    throw (.invalidConfig s!"start fill {c.startFill} must be within 1..{c.bufferCapacity}")
  if c.maxResendSpan = 0 then throw (.invalidConfig "max resend span must be non-zero")

def toValue (c : PlayoutConfig) : Value :=
  .obj [("buffer_capacity", .nat c.bufferCapacity), ("start_fill", .nat c.startFill),
    ("default_latency", .nat c.defaultLatency.toNat), ("rate_correction", .str c.rateCorrection.name),
    ("max_resend_span", .nat c.maxResendSpan.toNat), ("initial_volume_db", .float c.initialVolumeDb)]

def readRateCorrection (v : Value) : ReadResult RateCorrection := do
  let (name, payload) ← Read.variant v
  match name with
  | "stuffing" => Read.unitPayload payload *> pure .stuffing
  | "disabled" => Read.unitPayload payload *> pure .disabled
  | n => Read.unknownVariant n ["stuffing", "disabled"]

/-- Reads settings; absent keys keep their defaults and unknown keys are ignored. -/
def ofValue : Value → ReadResult PlayoutConfig :=
  Read.record "struct PlayoutConfig" true
    [⟨"buffer_capacity", fun v c => do pure { c with bufferCapacity := ← Read.unsigned "usize" 64 v }, some id⟩,
     ⟨"start_fill", fun v c => do pure { c with startFill := ← Read.unsigned "usize" 64 v }, some id⟩,
     ⟨"default_latency", fun v c => do
        pure { c with defaultLatency := UInt32.ofNat (← Read.unsigned "u32" 32 v) }, some id⟩,
     ⟨"rate_correction", fun v c => do pure { c with rateCorrection := ← readRateCorrection v }, some id⟩,
     ⟨"max_resend_span", fun v c => do
        pure { c with maxResendSpan := UInt16.ofNat (← Read.unsigned "u16" 16 v) }, some id⟩,
     ⟨"initial_volume_db", fun v c => do pure { c with initialVolumeDb := ← Read.float v }, some id⟩]
    {}

end PlayoutConfig

/-- A session's stream and the latency it asks for. -/
structure SessionConfig where
  stream : StreamParams
  latency : Option UInt32 := none
deriving Inhabited

/-- The stream must be valid and have at least three frames a packet, so that one can be
inserted or dropped. -/
def SessionConfig.validate (s : SessionConfig) : Except PlayoutError Unit := do
  match s.stream.validate with
  | .error e => throw (.invalidConfig e.message)
  | .ok () => pure ()
  if s.stream.framesPerPacket < 3 then
    throw (.invalidConfig s!"frame size {s.stream.framesPerPacket} too small for rate correction")

end Playout
