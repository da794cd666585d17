import Playout.Alac.Frame

/-!
# Apple Lossless encoding

Frames of 16-bit stereo are coded as one channel pair. The encoder tries five mid/side
weightings on an eighth of the frame and keeps the one whose residuals code shortest,
then tries four and eight predictor taps; a frame that would not come out shorter than
its verbatim form is stored verbatim. Predictor coefficients and the mixing buffers are
kept from frame to frame, which is why the encoder is a state: the coefficients written
into a frame's header are the ones it starts from, so any decoder can follow. A frame
with more samples than the frame size, or an output buffer too small for the largest
frame, is a fault.
-/

namespace Playout.Alac

/-- Bits written so far, most significant first. -/
structure BitWriter where
  bits : Array Bool := #[]
deriving Inhabited

namespace BitWriter

/-- Appends the low `n` bits of `v`. -/
def write (w : BitWriter) (v : Nat) (n : Nat) : BitWriter :=
  { bits := (List.range n).foldl (fun acc i => acc.push (v / Nat.pow 2 (n - 1 - i) % 2 = 1)) w.bits }

def size (w : BitWriter) : Nat := w.bits.size

/-- The bytes written, the last one padded with zeros. -/
def bytes (w : BitWriter) : List UInt8 :=
  (List.range ((w.bits.size + 7) / 8)).map fun i =>
    UInt8.ofNat ((List.range 8).foldl (fun acc j =>
      2 * acc + (if w.bits.getD (8 * i + j) false then 1 else 0)) 0)

end BitWriter

/-- The starting coefficients of every tap count: a fixed second-order shape. -/
def initialTaps : Array Int :=
  #[38 * 512 / 16, -29 * 512 / 16, -2 * 512 / 16] ++ Array.replicate 13 0

/-- The quantisation shift of the encoder's predictor. -/
def encoderShift : Nat := 9

/-- Adapts the coefficients after one residual, nearest taps first, until the remaining
error `del0` changes sign; `dir` is the sign of the residual. -/
def adaptTaps (input : Array Int) (j order : Nat) (top dir : Int) :
    Nat → Array Int → Int → Array Int
  | 0, coefs, _ => coefs
  | i + 1, coefs, del0 =>
    let dd := word (top - input.getD (j - 1 - i) 0)
    let sgn := dir * sign dd
    let coefs := coefs.modify i fun c => wrapSigned 16 (c - sgn)
    let del0 := word (del0 - word (((order - i : Nat) : Int) * sar (word (sgn * dd)) encoderShift))
    if dir * del0 ≤ 0 then coefs else adaptTaps input j order top dir i coefs del0

/-- The adaptive predictor of `order` taps run over the first `num` samples of `input`,
writing residuals into `out`; the first `order + 1` residuals are plain differences and
are written whatever `num` is. Returns the residual buffer and the adapted coefficients. -/
def predict (input out : Array Int) (num : Nat) (coefs : Array Int) (order width : Nat) :
    Array Int × Array Int :=
  let out := out.setIfInBounds 0 (input.getD 0 0)
  let diff (out : Array Int) (j : Nat) :=
    out.setIfInBounds j (wrapSigned width (input.getD j 0 - input.getD (j - 1) 0))
  let out := (List.range order).foldl (fun out i => diff out (i + 1)) out
  let half : Int := Nat.pow 2 encoderShift / 2
  (List.range (num - min num (order + 1))).foldl (fun (out, coefs) i =>
    let j := i + order + 1
    let top := input.getD (j - order - 1) 0
    let sum := (List.range order).foldl (fun s k =>
      word (s - coefs.getD k 0 * word (top - input.getD (j - 1 - k) 0))) 0
    let del := wrapSigned width (input.getD j 0 - top - sar (word (sum + half)) encoderShift)
    let out := out.setIfInBounds j del
    let dir := sign del
    (out, if dir = 0 then coefs else adaptTaps input j order top dir order coefs del)) (out, coefs)

/-- Escape code for a Golomb value: nine ones and the value in `width` bits. -/
def writeEscape (w : BitWriter) (n width : Nat) : BitWriter := (w.write 511 9).write n width

/-- One adaptive Golomb code, the inverse of `golomb`: `n / m` ones, a zero, then the
remainder plus one in `k` bits, or only `k - 1` zero bits when the remainder is zero; an
escape when the prefix would reach nine or the code would exceed 25 bits. -/
def writeGolomb (w : BitWriter) (m k n width : Nat) : BitWriter :=
  let q := n / m
  if q < escapePrefix then
    let r := n - m * q
    let (len, low) := if r = 0 then (k - 1, 0) else (k, r + 1)
    if q + 1 + len ≤ 25 then (w.write (Nat.pow 2 q - 1) q |>.write 0 1).write low len
    else writeEscape w n width
  else writeEscape w n width

/-- Codes the first `num` residuals of `pc`, the inverse of `residuals`. -/
def writeResiduals (r : ResidualCoding) (pc : Array Int) (num : Nat) (w : BitWriter) : BitWriter :=
  go (num + 1) r.mean 0 0 w
where
  go : Nat → Nat → Nat → Nat → BitWriter → BitWriter
  | 0, _, _, _, w => w
  | fuel + 1, mean, zmode, c, w =>
    if num ≤ c then w
    else
      let k := min (Nat.log2 (mean / 512 + 3)) r.limit
      let del := pc.getD c 0
      let code := ((2 * (del.natAbs : Int) - (if del < 0 then 1 else 0) - zmode) % Nat.pow 2 32).toNat
      let w := writeGolomb w (Nat.pow 2 k - 1) k code r.width
      let c := c + 1
      let mean :=
        if 0xffff < code then 0xffff
        else (r.rate * (code + zmode) + mean - (r.rate * mean % Nat.pow 2 32) / 512) % Nat.pow 2 32
      if mean * 4 % Nat.pow 2 32 < 512 ∧ c < num then
        let zeros := ((List.range (num - c)).takeWhile fun i => pc.getD (c + i) 0 = 0).length
        let zeros := min zeros 65535
        let k := leadingZeros mean - 24 + (mean + 16) / 64
        let m := (Nat.pow 2 k - 1) &&& (Nat.pow 2 r.limit - 1)
        let w := writeGolomb w m k zeros 16
        go fuel 0 (if 65535 ≤ zeros then 0 else 1) (c + zeros) w
      else go fuel mean 0 c w

/-- The encoder's state for one stream. -/
structure Encoder where
  frameSize : Nat
  /-- Coefficients by tap count, for the mid (or left) and side (or right) channels. -/
  tapsU : Array (Array Int)
  tapsV : Array (Array Int)
  lastMixRes : Nat
  mixU : Array Int
  mixV : Array Int
  predU : Array Int
  predV : Array Int
deriving Inhabited

/-- Residual coding of the encoder: mean 10, rate 40, Golomb parameters up to 14. -/
def encoderCoding (width : Nat) : ResidualCoding := ⟨10, 40, 14, width⟩

namespace Encoder

def create (frameSize : Nat) : Encoder :=
  { frameSize
    tapsU := Array.replicate 16 initialTaps, tapsV := Array.replicate 16 initialTaps
    lastMixRes := 0
    mixU := Array.replicate frameSize 0, mixV := Array.replicate frameSize 0
    predU := Array.replicate frameSize 0, predV := Array.replicate frameSize 0 }

/-- Mixes the first `num` frames: with weight zero the channels stay apart, otherwise
the first channel is the weighted mean and the second the difference. -/
def mix (e : Encoder) (pcm : Array Int) (num mixBits mixRes : Nat) : Encoder :=
  (List.range num).foldl (fun e j =>
    let l := pcm.getD (2 * j) 0
    let r := pcm.getD (2 * j + 1) 0
    let (u, v) := if mixRes = 0 then (l, r)
      else (sar (word (mixRes * l + (Nat.pow 2 mixBits - mixRes : Nat) * r)) mixBits, word (l - r))
    { e with mixU := e.mixU.setIfInBounds j u, mixV := e.mixV.setIfInBounds j v }) e

/-- Runs the predictors of `order` taps over the first `num` mixed frames. -/
def runPredictors (e : Encoder) (num order width : Nat) : Encoder :=
  let (predU, tu) := predict e.mixU e.predU num (e.tapsU.getD (order - 1) #[]) order width
  let (predV, tv) := predict e.mixV e.predV num (e.tapsV.getD (order - 1) #[]) order width
  { e with
    predU, predV
    tapsU := e.tapsU.setIfInBounds (order - 1) tu, tapsV := e.tapsV.setIfInBounds (order - 1) tv }

/-- Bits the residuals of the first `num` predicted frames take, per channel. -/
def residualBits (e : Encoder) (num width : Nat) : Nat × Nat :=
  ((writeResiduals (encoderCoding width) e.predU num {}).size,
    (writeResiduals (encoderCoding width) e.predV num {}).size)

/-- The verbatim form of a pair element after its tag. -/
def verbatim (pcm : Array Int) (num : Nat) (isPartial : Bool) (w : BitWriter) : BitWriter :=
  let w := (w.write 0 12).write (if isPartial then 9 else 1) 4
  let w := if isPartial then w.write num 32 else w
  (List.range (2 * num)).foldl (fun w i => w.write ((pcm.getD i 0) % Nat.pow 2 16).toNat 16) w

/-- Codes one channel pair of `num` frames after its tag. -/
def encodePair (e : Encoder) (pcm : Array Int) (num : Nat) (w : BitWriter) : Encoder × BitWriter :=
  let depth := 16
  let width := depth + 1
  let mixBits := 2
  let isPartial := num ≠ e.frameSize
  -- the mid/side weighting whose residuals on an eighth of the frame are shortest
  let (e, best, _) := (List.range 5).foldl (fun (e, best, least) mixRes =>
    let e := (e.mix pcm (num / 8) mixBits mixRes).runPredictors (num / 8) 8 width
    let (b1, b2) := e.residualBits (num / 8) width
    if b1 + b2 < least then (e, mixRes, b1 + b2) else (e, best, least)) (e, e.lastMixRes, Nat.pow 2 31)
  let e := { e with lastMixRes := best }
  let e := e.mix pcm num mixBits best
  -- the tap counts, four or eight, that code each channel shortest
  let (e, (orderU, costU), (orderV, costV)) := [4, 8].foldl (fun (e, bu, bv) order =>
    let e := (List.range 8).foldl (fun e _ => e.runPredictors (num / 32) order width) e
    let (b1, b2) := e.residualBits (num / 8) width
    let bu := if 8 * b1 + 16 * order < bu.2 then (order, 8 * b1 + 16 * order) else bu
    let bv := if 8 * b2 + 16 * order < bv.2 then (order, 8 * b2 + 16 * order) else bv
    (e, bu, bv)) (e, (4, Nat.pow 2 31), (4, Nat.pow 2 31))
  let countBits := if isPartial then 32 else 0
  let escapeBits := num * depth * 2 + countBits + 16
  if escapeBits ≤ costU + costV + 64 + countBits then (e, verbatim pcm num isPartial w)
  else
    let start := w.size
    let w0 := w
    let w := (w.write 0 12).write (if isPartial then 8 else 0) 4
    let w := if isPartial then w.write num 32 else w
    let w := (w.write mixBits 8).write best 8
    let header (w : BitWriter) (order : Nat) (taps : Array Int) : BitWriter :=
      let w := (w.write encoderShift 8).write (4 * 32 + order) 8
      (List.range order).foldl (fun w i => w.write ((taps.getD i 0) % Nat.pow 2 16).toNat 16) w
    let w := header w orderU (e.tapsU.getD (orderU - 1) #[])
    let w := header w orderV (e.tapsV.getD (orderV - 1) #[])
    let (predU, tu) := predict e.mixU e.predU num (e.tapsU.getD (orderU - 1) #[]) orderU width
    let e := { e with predU, tapsU := e.tapsU.setIfInBounds (orderU - 1) tu }
    let w := writeResiduals (encoderCoding width) e.predU num w
    let (predV, tv) := predict e.mixV e.predV num (e.tapsV.getD (orderV - 1) #[]) orderV width
    let e := { e with predV, tapsV := e.tapsV.setIfInBounds (orderV - 1) tv }
    let w := writeResiduals (encoderCoding width) e.predV num w
    if escapeBits ≤ w.size - start then (e, verbatim pcm num isPartial w0) else (e, w)

/-- The output room the encoder asks for, in bytes: the two 16-bit samples of every frame
of a full packet, and one more. -/
def maxOutputBytes (e : Encoder) : Nat := 4 * e.frameSize + 1

/-- Encodes one frame of interleaved stereo samples for an output of `room` bytes. There
must be no more frames than the frame size and the room `maxOutputBytes` asks; and since the
first predictor tried has eight taps, a frame size of eight or less has no room for the
samples they read. -/
def encode (e : Encoder) (pcm : List Int) (room : Nat) : Except Fault (Encoder × List UInt8) := do
  if e.frameSize < pcm.length / 2 then throw .framesOverCapacity
  if room < e.maxOutputBytes then throw .outputTooSmall
  if e.frameSize ≤ 8 then throw (.indexOutOfBounds e.frameSize e.frameSize)
  let w := ({} : BitWriter).write 1 3 |>.write 0 4
  let (e, w) := e.encodePair pcm.toArray (pcm.length / 2) w
  pure (e, (w.write 7 3).bytes)

end Encoder

end Playout.Alac
