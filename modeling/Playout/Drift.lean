import Playout.Random.ChaCha
import Playout.Word

/-!
# Drift correction

The sender's clock and the output's clock drift apart; the buffer fill shows it. The
controller learns the usual fill over a warm-up of 1000 frames, then filters the fill
error through three second-order low-pass sections into a playback rate near one. Each
frame a sample pair is inserted or dropped with the probability that the rate asks for
over one frame.
-/

namespace Playout

/-- A second-order section in direct form II: feed-forward `b`, feedback `a`, and the two
delayed intermediate values. -/
structure Biquad where
  b0 : Float
  b1 : Float
  b2 : Float
  a1 : Float
  a2 : Float
  h0 : Float := 0.0
  h1 : Float := 0.0
deriving Inhabited

/-- π in double precision. -/
def pi : Float := 3.141592653589793

namespace Biquad

/-- A low-pass section with corner `freq` (in units of the frame rate) and quality `q`. -/
def lowPass (freq q : Float) (frameSize sampleRate : Nat) : Biquad :=
  let w0 := 2.0 * pi * freq * Float.ofNat frameSize / Float.ofNat sampleRate
  let alpha := Float.sin w0 / (2.0 * q)
  let a0 := 1.0 + alpha
  let cos := Float.cos w0
  let b0 := (1.0 - cos) / (2.0 * a0)
  { b0, b1 := (1.0 - cos) / a0, b2 := b0, a1 := -2.0 * cos / a0, a2 := (1.0 - alpha) / a0 }

/-- Filters one input. -/
def filter (f : Biquad) (input : Float) : Float × Biquad :=
  let w := input - f.a1 * f.h0 - f.a2 * f.h1
  let out := f.b1 * f.h0 + f.b2 * f.h1 + f.b0 * w
  (out, { f with h1 := f.h0, h0 := w })

def reset (f : Biquad) : Biquad := { f with h0 := 0.0, h1 := 0.0 }

end Biquad

/-- `x^n` by repeated squaring over the bits of `|n|`, inverted for negative `n`. -/
def powi (x : Float) (n : Int) : Float :=
  let r := go x n.natAbs 1.0 64
  if n < 0 then 1.0 / r else r
where
  go (a : Float) (b : Nat) (r : Float) : Nat → Float
    | 0 => r
    | fuel + 1 =>
      let r := if b % 2 = 1 then r * a else r
      if b / 2 = 0 then r else go (a * a) (b / 2) r fuel

/-- The chance that a frame of `frameSize` frames at `rate` needs a pair inserted or
dropped: `1 - (1 - |rate - 1|)^n` with `n` the frame size as a signed 32-bit word. -/
def stuffProbability (rate : Float) (frameSize : Nat) : Float :=
  let n : Int := wrapSigned 32 frameSize
  1.0 - powi (1.0 - Float.abs (rate - 1.0)) n

/-- For a draw in `[0, 1)`: drop a pair (`-1`) when playing fast, insert one (`1`) when
slow, if the draw falls under the probability; otherwise nothing. -/
def stuffForDraw (rate : Float) (frameSize : Nat) (draw : Float) : Int :=
  if draw < stuffProbability rate frameSize then (if rate > 1.0 then -1 else 1) else 0

/-- The drift controller. -/
structure DriftController where
  frameSize : Nat
  errorLpf : Biquad
  derivativeLpf : Biquad
  driftLpf : Biquad
  warmup : Nat := 0
  desiredFill : Float := 0.0
  error : Float := 0.0
  lastError : Float := 0.0
  drift : Float := 0.0
  rate : Float := 1.0
  rng : ChaChaRng
deriving Inhabited

namespace DriftController

/-- Frames of warm-up. -/
def warmupFrames : Nat := 1000

def create (frameSize sampleRate : Nat) (rng : ChaChaRng) : DriftController :=
  { frameSize
    errorLpf := Biquad.lowPass (1.0 / 10.0) 0.25 frameSize sampleRate
    derivativeLpf := Biquad.lowPass (1.0 / 2.0) 0.2 frameSize sampleRate
    driftLpf := Biquad.lowPass (1.0 / 180.0) 0.3 frameSize sampleRate
    rng }

def isWarmedUp (d : DriftController) : Bool := d.warmup ≥ warmupFrames

/-- Takes one fill reading and returns the playback rate. During warm-up the reading goes
into the average fill and the rate stays put. -/
def update (d : DriftController) (fill : Nat) : Float × DriftController :=
  let fill := Float.ofNat fill
  if d.warmup < warmupFrames then
    (d.rate, { d with desiredFill := d.desiredFill + fill / Float.ofNat warmupFrames, warmup := d.warmup + 1 })
  else
    let (error, errorLpf) := d.errorLpf.filter (fill - d.desiredFill)
    let (derivative, derivativeLpf) := d.derivativeLpf.filter (error - d.lastError)
    let adjustment := 1e-4 * error
    let (drift, driftLpf) := d.driftLpf.filter (0.1 * (adjustment + derivative) + d.drift)
    let rate := 1.0 + adjustment + drift
    (rate, { d with error, errorLpf, derivativeLpf, lastError := error, drift, driftLpf, rate })

/-- Takes one fill reading and draws whether to insert or drop a pair this frame. -/
def correction (d : DriftController) (fill : Nat) : Int × DriftController :=
  let (rate, d) := d.update fill
  let (draw, rng) := d.rng.nextUnit
  (stuffForDraw rate d.frameSize draw, { d with rng })

/-- Back to the start of warm-up, keeping the random source. -/
def reset (d : DriftController) : DriftController :=
  { d with
    errorLpf := d.errorLpf.reset, derivativeLpf := d.derivativeLpf.reset
    driftLpf := d.driftLpf.reset, warmup := 0, desiredFill := 0.0, error := 0.0
    lastError := 0.0, drift := 0.0, rate := 1.0 }

end DriftController

end Playout
