import Playout.Alac.Bits
import Playout.Stream.Format

/-!
# Apple Lossless frames

A frame is a run of elements, each introduced by a three-bit tag: a single channel or a
low-frequency channel, a channel pair, data and fill elements that are passed over, and an
end mark. A channel's samples are stored either verbatim or as adaptive Golomb residuals
of an adaptive linear predictor. A pair may be stored as a weighted mid/side mix, and low
bytes that do not compress may be kept verbatim beside the compressed part.

Samples are 32-bit words carrying `bitDepth` significant bits; the output is their top
16 bits, so a 16-bit stream comes out unchanged. The arithmetic is that of 32-bit words:
sums of products wrap, while an addition, subtraction or product that leaves the range of
a word, a sample count past the frame length, or a predictor longer than the samples it
predicts is a fault.

Elements carry the centre channel first; the output is ordered front left, front right,
centre and so on, so each decoded channel is placed by the layout of the channel count.
-/

namespace Playout.Alac

/-- A 32-bit two's complement word. -/
def word (x : Int) : Int := wrapSigned 32 x

/-- Arithmetic right shift. -/
def sar (x : Int) (n : Nat) : Int := x / Nat.pow 2 n

/-- Leading zeros of a 32-bit word. -/
def leadingZeros (x : Nat) : Nat := if x = 0 then 32 else 31 - Nat.log2 x

/-- `x` when it is a signed word, the fault `f` otherwise. -/
def checked (f : Fault) (x : Int) : Except AlacError Int :=
  if -(Nat.pow 2 31 : Int) ≤ x ∧ x < Nat.pow 2 31 then .ok x else .error (.fault f)

/-- `x` when it is an unsigned word, the fault `f` otherwise. -/
def checkedNat (f : Fault) (x : Nat) : Except AlacError Nat :=
  if x < Nat.pow 2 32 then .ok x else .error (.fault f)

def wordAdd (a b : Int) : Except AlacError Int := checked .addOverflow (a + b)

def wordSub (a b : Int) : Except AlacError Int := checked .subOverflow (a - b)

def wordMul (a b : Int) : Except AlacError Int := checked .mulOverflow (a * b)

/-- The low `width` bits of `x` as a signed number: a predicted sample keeps only the bits
of its channel, whatever carries out of them. -/
def extend (width : Nat) (x : Int) : Int := wrapSigned width x

/-- Even codes stand for non-negative residuals, odd codes for negative ones. -/
def unfold (code : Nat) : Int :=
  if code % 2 = 0 then ((code / 2 : Nat) : Int) else -((code / 2 : Nat) : Int) - 1

/-- How one channel's residuals are coded: the starting mean, the adaptation rate, the
largest Golomb parameter and the width of an escaped residual. -/
structure ResidualCoding where
  mean : Nat
  rate : Nat
  limit : Nat
  width : Nat

/-- The running mean after a code: it moves a `rate`-weighted step toward `512 * code`. -/
def nextMean (rate mean code : Nat) : Except AlacError Nat := do
  let raised ← checkedNat .addOverflow (mean + (← checkedNat .mulOverflow (code * rate)))
  let decay ← checkedNat .mulOverflow (mean * rate)
  pure (raised - decay / 512)

/-- The residuals of `count` samples. After each code the running mean moves toward it;
when the mean falls low, a run of zeros follows, coded with its own parameter and cut at
the end of the frame, and the code after a short run is one less than its value. -/
def residuals (r : ResidualCoding) (count : Nat) : BitRead (Array Int) :=
  go count r.mean 0 #[]
where
  go : Nat → Nat → Nat → Array Int → BitRead (Array Int)
  | 0, _, _, out => pure out
  | fuel + 1, mean, toggle, out => do
    if count ≤ out.size then return out
    let k := min (Nat.log2 (mean / 512 + 3)) r.limit
    let code ← lift (checkedNat .addOverflow ((← golomb (Nat.pow 2 k - 1) k r.width) + toggle))
    let out := out.push (unfold code)
    let mean ← if 0xffff < code then pure 0xffff else lift (nextMean r.rate mean code)
    if mean * 4 % Nat.pow 2 32 < 512 ∧ out.size < count then
      let k := min (leadingZeros mean - 24 + (mean + 16) / 64) r.limit
      let zeros ← golomb (Nat.pow 2 k - 1) k 16
      let out := out ++ Array.replicate (min zeros (count - out.size)) 0
      go fuel 0 (if zeros < 0xffff then 1 else 0) out
    else go fuel mean 0 out

/-- `-1`, `0` or `1` by the sign of `x`. -/
def sign (x : Int) : Int := if 0 < x then 1 else if x < 0 then -1 else 0

/-- Running sums of the residuals, each kept to `width` bits: the first-order predictor. -/
def integrate (width : Nat) (res : Array Int) : Array Int :=
  (List.range res.size).foldl (fun out j =>
    if j = 0 then out.push (res.getD 0 0)
    else out.push (extend width (res.getD j 0 + out.getD (j - 1) 0)))
    #[]

/-- Adapts the coefficients after one sample, from the tap of the farthest sample to the
nearest, until the remaining error `del0` changes sign; `dir` is the sign of the
residual. -/
def adapt (out : Array Int) (j order shift : Nat) (top dir : Int) :
    Nat → Array Int → Int → Except AlacError (Array Int)
  | 0, coefs, _ => pure coefs
  | i + 1, coefs, del0 => do
    -- tap `i` weighs the sample `i + 1` places back
    let dd ← wordSub top (out.getD (j - 1 - i) 0)
    let sgn := dir * sign dd
    let coefs := coefs.set! i (← wordSub (coefs.getD i 0) sgn)
    let step ← wordMul ((order - i : Nat) : Int) (sar (← wordMul sgn dd) shift)
    let del0 ← wordSub del0 step
    if dir * del0 ≤ 0 then pure coefs else adapt out j order shift top dir i coefs del0

/-- Undoes the adaptive linear predictor with the given starting coefficients and
quantisation `shift`. The first `order + 1` samples are running sums; each later one adds
to its residual the sample `order + 1` places back and the weighted differences of the
samples between, and the sum wraps. There must be more samples than taps. -/
def unpredict (width shift : Nat) (coefs : Array Int) (res : Array Int) :
    Except AlacError (Array Int) := do
  let order := coefs.size
  let num := res.size
  let head := integrate width (res.extract 0 (order + 1))
  if num ≤ order then throw (.fault (.indexOutOfBounds num (max num 1)))
  let half : Int := Nat.pow 2 shift / 2
  let (out, _) ← (List.range (num - (order + 1))).foldlM (fun (out, coefs) i => do
      let j := i + order + 1
      let top := out.getD (j - order - 1) 0
      let sum ← (List.range order).foldlM (fun s k => do
        pure (word (s + coefs.getD k 0 * (← wordSub (out.getD (j - 1 - k) 0) top)))) 0
      let del := res.getD j 0
      let value := extend width (del + top + sar (← wordAdd sum half) shift)
      let out := out.push value
      let dir := sign del
      let coefs ← if dir = 0 then pure coefs else adapt out j order shift top dir order coefs del
      pure (out, coefs)) (head, coefs)
  pure out

/-- One channel's predictor settings from an element header. -/
structure Predictor where
  mode : Nat
  shift : Nat
  /-- The adaptation rate of the channel's residual coder. -/
  rate : Nat
  coefs : Array Int

def predictor (pb : Nat) : BitRead Predictor := do
  let mode ← bits 4
  let shift ← bits 4
  let factor ← bits 3
  let order ← bits 5
  let mut coefs := #[]
  for _ in List.range order do
    coefs := coefs.push (← signedBits 16)
  pure ⟨mode, shift, factor * pb / 4, coefs⟩

/-- A channel's samples from its residuals. Modes other than 0 and 15 are malformed.
Without taps the residuals are the samples; mode 15 and 31 taps integrate once before the
linear predictor. A predicted sample is at most a word wide. -/
def Predictor.apply (p : Predictor) (width : Nat) (res : Array Int) :
    Except AlacError (Array Int) := do
  if p.mode ≠ 0 ∧ p.mode ≠ 15 then throw (.malformed "invalid mode")
  if p.coefs.size = 0 then return res
  if 32 < width then throw (.fault .subOverflow)
  let res := if p.mode = 15 ∨ p.coefs.size = 31 then integrate width res else res
  unpredict width p.shift p.coefs res

/-- Undoes the weighted mid/side mix of a pair. -/
def unmix (mixBits : Nat) (mixRes : Int) (u v : Array Int) :
    Except AlacError (Array Int × Array Int) :=
  (u.zip v).foldlM (fun (l, r) (a, b) => do
    let sum ← wordAdd a b
    let weighted ← wordMul b mixRes
    if 32 ≤ mixBits then throw (.fault .shiftRightOverflow)
    let x ← wordSub sum (sar weighted mixBits)
    pure (l.push x, r.push (← wordSub x b))) (#[], #[])

/-- `samples` rows of `chans` interleaved fields, each read by `field`, into columns. -/
def columns (samples chans : Nat) (field : BitRead Int) : BitRead (Array (Array Int)) := do
  let mut cols := Array.replicate chans #[]
  for _ in List.range samples do
    for c in List.range chans do
      let v ← field
      cols := cols.modify c (·.push v)
  pure cols

/-- Decodes the element that follows its tag: one channel, or two for a pair. Returns its
number of samples and its channels. -/
def element (cfg : AlacConfig) (pair : Bool) : BitRead (Nat × Array (Array Int)) := do
  let _instance ← bits 4
  if (← bits 12) ≠ 0 then throw (.malformed "unused header bits not 0")
  let isPartial ← bits 1
  let shift := 8 * (← bits 2)
  let verbatim ← bits 1
  let depth := cfg.bitDepth.toNat
  if 24 ≤ shift ∨ depth ≤ shift then throw (.malformed "invalid shift value")
  let count ← if isPartial = 1 then bits 32 else pure cfg.frameLength.toNat
  -- each channel holds `room` samples, and the low bytes of the stream's channels as many
  -- per channel
  let room := cfg.frameLength.toNat
  let lowRoom := cfg.numChannels.toNat * room
  let tooMany : BitRead Unit :=
    if room < count then throw (.fault (.sliceEndOutOfRange count room)) else pure ()
  let chans := if pair then 2 else 1
  if verbatim = 1 then
    tooMany
    pure (count, ← columns count chans (signedBits depth))
  else
    let width := depth - shift + (if pair then 1 else 0)
    let mixBits ← bits 8
    let mixRes ← signedBits 8
    if !pair ∧ (mixBits ≠ 0 ∨ mixRes ≠ 0) then
      throw (.malformed "invalid mixing information for mono channel")
    let mut preds := #[]
    for _ in List.range chans do
      preds := preds.push (← predictor cfg.pb.toNat)
    let low ← if 0 < shift then
        if lowRoom < chans * count then
          throw (.fault (.sliceEndOutOfRange (chans * count) lowRoom))
        columns count chans (Int.ofNat <$> bits shift)
      else pure #[]
    tooMany
    let mut chs := #[]
    for p in preds do
      let res ← residuals ⟨cfg.mb.toNat, p.rate, cfg.kb.toNat, width⟩ count
      chs := chs.push (← lift (p.apply width res))
    if pair ∧ mixRes ≠ 0 then
      -- the mix runs over whole channels, silent past `count`
      if count = 0 ∧ 0 < room ∧ 32 ≤ mixBits then throw (.fault .shiftRightOverflow)
      let (l, r) ← lift (unmix mixBits mixRes (chs.getD 0 #[]) (chs.getD 1 #[]))
      chs := #[l, r]
    if 0 < shift then
      chs := (chs.zip low).map fun (hi, lo) =>
        (hi.zip lo).map fun (h, l) => word (h * Nat.pow 2 shift + l)
    pure (count, chs)

/-- Where each decoded channel goes among the outputs, by the number of channels. -/
def channelOrder : Nat → List Nat
  | 1 => [0]
  | 2 => [0, 1]
  | 3 => [2, 0, 1]
  | 4 => [2, 0, 1, 3]
  | 5 => [2, 0, 1, 3, 4]
  | 6 => [2, 0, 1, 4, 5, 3]
  | 7 => [2, 0, 1, 5, 6, 4, 3]
  | _ => [2, 4, 5, 0, 1, 6, 7, 3]

/-- The output channels, how many channels are decoded so far, and the sample count of the
last element. -/
structure Planes where
  channels : Array (Array Int)
  next : Nat
  frames : Nat

/-- Stores an element's channels as the next decoded channels. -/
def Planes.put (p : Planes) (order : List Nat) (count : Nat) (chs : Array (Array Int)) :
    Planes :=
  { channels := chs.foldl (fun (acc : Array (Array Int) × Nat) ch =>
      (acc.1.set! (order.getD acc.2 0) ch, acc.2 + 1)) (p.channels, p.next) |>.1
    next := p.next + chs.size
    frames := count }

/-- Reads elements until the end mark, until every channel is filled, or until a pair
finds a single channel left. -/
def elements (cfg : AlacConfig) : Nat → Planes → BitRead Planes
  | 0, p => pure p
  | fuel + 1, p => do
    let chans := cfg.numChannels.toNat
    let order := channelOrder chans
    let tag ← bits 3
    -- the end mark, or a pair with room for one channel only, ends the frame
    if tag = 7 ∨ (tag = 1 ∧ chans < p.next + 2) then return p
    let p ← match tag with
      | 0 | 3 => do
        let (count, chs) ← element cfg false
        pure (p.put order count chs)
      | 1 => do
        let (count, chs) ← element cfg true
        pure (p.put order count chs)
      | 4 => do
        let _instance ← bits 4
        let aligned ← bits 1
        let count ← bits 8
        let count ← if count = 255 then (count + ·) <$> bits 8 else pure count
        if aligned = 1 then align
        skip (8 * count)
        pure p
      | 6 => do
        let count ← bits 4
        let count ← if count = 15 then (fun x => count + x - 1) <$> bits 8 else pure count
        skip (8 * count)
        pure p
      | _ => throw (.malformed "unsupported element")
    if chans ≤ p.next then pure p else elements cfg fuel p

/-- Checks a stream description before decoding with it. -/
def check (cfg : AlacConfig) : Except AlacError Unit := do
  if 0 < cfg.compatibleVersion then throw (.unsupported "not compatible with alac version 0")
  if 32 < cfg.bitDepth then throw (.malformed "invalid bit depth")
  if cfg.numChannels < 1 ∨ 8 < cfg.numChannels then throw (.unsupported "more than 8 channels")

/-- The top 16 bits of a sample of `depth` significant bits. -/
def toSample16 (depth : Nat) (s : Int) : Int :=
  sar (word (s * Nat.pow 2 (32 - depth))) 16

/-- Decodes one frame into interleaved 16-bit samples; channels the frame leaves out are
silent. -/
def decode (cfg : AlacConfig) (data : List UInt8) : Except AlacError (List Int) := do
  let chans := cfg.numChannels.toNat
  let arr := data.toArray
  let start : Planes := ⟨Array.replicate chans #[], 0, 0⟩
  let (p, _) ← (elements cfg (8 * arr.size + 1) start).run arr |>.run 0
  let depth := cfg.bitDepth.toNat
  pure ((List.range p.frames).flatMap fun i =>
    (List.range chans).map fun c => toSample16 depth ((p.channels.getD c #[]).getD i 0))

end Playout.Alac
