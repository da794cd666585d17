import Playout.Random.ChaCha
import Playout.Volume

/-!
# Sample stuffing and software volume

A frame is copied to the output scaled by the 16.16 volume factor. Below unity gain a
triangular dither from a linear congruential generator is added before the shift. To
correct drift one stereo pair is inserted (the average of its neighbours) or dropped at a
random split point strictly inside the frame.
-/

namespace Playout

/-- The stuffer's random state and dither history. -/
structure Stuffer where
  rng : ChaChaRng
  lcg : UInt32
  ditherA : Int := 0
  ditherB : Int := 0
deriving Inhabited

namespace Stuffer

/-- A stuffer whose dither generator is seeded by the first word of `rng`. -/
def create (rng : ChaChaRng) : Stuffer :=
  let (lcg, rng) := rng.nextU32
  { rng, lcg }

def nextDither (s : Stuffer) : Int × Stuffer :=
  let lcg := s.lcg * 1103515245 + 12345
  (((lcg >>> 16) &&& 0xffff).toNat, { s with lcg })

/-- A 16-bit sample of `sample * volume / 2^16`, dithered below unity gain and clamped. -/
def scale (s : Stuffer) (sample volume : Int) : Int × Stuffer :=
  let out := sample * volume
  let (out, s) :=
    if volume < unityGain then
      let (d, s) := s.nextDither
      let s := { s with ditherB := s.ditherA, ditherA := d }
      (out - d + s.ditherB, s)
    else (out, s)
  (max (-32768) (min 32767 (out / 65536)), s)

/-- Scales samples in order, appending to `acc`. -/
def scaleAll (s : Stuffer) (volume : Int) (acc : Array Int) : List Int → Array Int × Stuffer
  | [] => (acc, s)
  | x :: xs =>
    let (y, s) := s.scale x volume
    scaleAll s volume (acc.push y) xs

/-- Scales a frame, inserting a pair when `stuff > 0` and dropping one when `stuff < 0`.
Frames of fewer than three pairs are only scaled. -/
def apply (s : Stuffer) (frame : List Int) (stuff volume : Int) : List Int × Stuffer :=
  let pairs := frame.length / 2
  if stuff = 0 ∨ pairs < 3 then
    let (out, s) := s.scaleAll volume #[] frame
    (out.toList, s)
  else
    let (split, rng) := s.rng.rangeInclusive 1 (pairs - 2)
    let s := { s with rng }
    let cut := split * 2
    let (out, s) := s.scaleAll volume #[] (frame.take cut)
    if stuff > 0 then
      let mid (ch : Nat) : Int := (frame.getD (cut - 2 + ch) 0 + frame.getD (cut + ch) 0) / 2
      let (a, s) := s.scale (mid 0) volume
      let (b, s) := s.scale (mid 1) volume
      let (out, s) := s.scaleAll volume ((out.push a).push b) (frame.drop cut)
      (out.toList, s)
    else
      let (out, s) := s.scaleAll volume out (frame.drop (cut + 2))
      (out.toList, s)

end Stuffer

end Playout
