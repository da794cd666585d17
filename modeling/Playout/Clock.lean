import Playout.Word
import Playout.Fault
import Playout.Text.Decimal

/-!
# Clocks and fixed-point time

Local time is a 64-bit count in units of `2^-32` seconds (32.32 fixed point), which wraps.
Conversions to and from durations and sample counts truncate as noted. The reference
clock maps an RTP timestamp to local time from one anchor pair, extrapolating by the
signed 32-bit timestamp distance at the stream's sample rate.
-/

namespace Playout

/-- One second in 32.32 fixed point. -/
def fixedOneSecond : Nat := Nat.pow 2 32

/-- `secs + nanos / 10^9` seconds in fixed point; the seconds wrap at `2^32`. -/
def durationToFixed (secs : UInt64) (nanos : Nat) : UInt64 :=
  (secs <<< 32) + UInt64.ofNat (nanos * Nat.pow 2 32 / 1000000000)

/-- Whole seconds and nanoseconds of a fixed-point time, the nanoseconds truncated. -/
def fixedToDuration (t : UInt64) : UInt64 × Nat :=
  (t >>> 32, (t.toNat % Nat.pow 2 32) * 1000000000 / Nat.pow 2 32)

/-- `samples / rate` seconds in fixed point: the sample count is shifted left by 32 in a
signed 64-bit word (high bits are lost) and divided with truncation toward zero. -/
def samplesToFixed (samples : Int) (rate : Nat) : Int :=
  Int.tdiv (wrapSigned 64 (samples * Nat.pow 2 32)) rate

/-- `samplesToFixed`, which has no value at rate zero. -/
def samplesToFixedChecked (samples : Int) (rate : Nat) : Except Fault Int :=
  if rate = 0 then .error .divideByZero else .ok (samplesToFixed samples rate)

/-- Samples in a fixed-point span, rounded to nearest (halves up), as a signed 64-bit word. -/
def fixedToSamples (t : Int) (rate : Nat) : Int :=
  wrapSigned 64 ((t * rate + Nat.pow 2 31) / Nat.pow 2 32)

/-- `t + d`, clamped to the range of a 64-bit word. -/
def addSaturating (t : UInt64) (d : Int) : UInt64 :=
  let s := (t.toNat : Int) + d
  if s < 0 then 0 else if s ≥ Nat.pow 2 64 then UInt64.ofNat (Nat.pow 2 64 - 1) else UInt64.ofNat s.toNat

/-- Nanoseconds in `x` seconds, rounded to nearest with ties to even; `x` finite and
non-negative. -/
def nanosOfSeconds (x : Float) : Nat :=
  let b := Decimal.Binary.ofBits x.toBits
  if 0 ≤ b.q then b.m * Nat.pow 2 b.q.toNat * 1000000000
  else
    let s := (-b.q).toNat
    let num := b.m * 1000000000
    let fl := num / Nat.pow 2 s
    let rem := num % Nat.pow 2 s
    if 2 * rem > Nat.pow 2 s ∨ (2 * rem = Nat.pow 2 s ∧ fl % 2 = 1) then fl + 1 else fl

/-- A clock that moves only when told to. -/
structure ManualClock where
  now : UInt64
deriving Repr, DecidableEq, Inhabited

namespace ManualClock

def set (_ : ManualClock) (t : UInt64) : ManualClock := ⟨t⟩

/-- Moves the clock forward by a duration; the time wraps. -/
def advance (c : ManualClock) (secs : UInt64) (nanos : Nat) : ManualClock :=
  ⟨c.now + durationToFixed secs nanos⟩

end ManualClock

/-- An RTP timestamp and the local time it plays at. -/
structure Anchor where
  rtpTimestamp : UInt32
  localTime : UInt64
deriving Repr, DecidableEq, Inhabited

/-- Maps RTP timestamps to local time at a fixed sample rate. -/
structure ReferenceClock where
  sampleRate : UInt32
  anchor : Option Anchor := none
deriving Repr, DecidableEq, Inhabited

namespace ReferenceClock

def setAnchor (c : ReferenceClock) (ts : UInt32) (time : UInt64) : ReferenceClock :=
  { c with anchor := some ⟨ts, time⟩ }

def clear (c : ReferenceClock) : ReferenceClock := { c with anchor := none }

def isAnchored (c : ReferenceClock) : Bool := c.anchor.isSome

/-- The local time of `ts`, if anchored: the anchor's time plus the signed timestamp
distance in fixed point, clamped to the word. -/
def predict (c : ReferenceClock) (ts : UInt32) : Except Fault (Option UInt64) :=
  match c.anchor with
  | none => .ok none
  | some a => do
    let offset ← samplesToFixedChecked (signed32 (ts - a.rtpTimestamp)) c.sampleRate.toNat
    pure (some (addSaturating a.localTime offset))

end ReferenceClock

end Playout
