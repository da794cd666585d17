import Playout.Data.Value

/-!
# Numbers of request text

How a number written in request text becomes a value. Without a fraction or an exponent,
a non-negative number that fits in 64 unsigned bits and a negative one that fits in 64
signed bits stay integers; minus zero and every other number become doubles.

The double is found the quick way rather than the nearest way. The significand collects
decimal digits while it fits in 64 bits; later digits of the integer part only raise the
decimal exponent, and later digits of the fraction are dropped. The significand is rounded
to a double and then multiplied or divided by the double nearest to a power of ten, in
steps of `10^308` below that. So `999999999999999.9` reads as `1e15`. A result that
overflows is out of range and there is no value.
-/

namespace Playout.Number

/-- The largest 64-bit unsigned number. -/
def maxU64 : Nat := Nat.pow 2 64 - 1

/-- The largest 32-bit signed number. -/
def maxI32 : Nat := Nat.pow 2 31 - 1

/-- Appending `digit` to `acc` would pass `limit`. -/
def overflows (acc digit limit : Nat) : Bool :=
  acc ≥ limit / 10 && (acc > limit / 10 || digit > limit % 10)

/-- The double nearest to `10^k`, ties to even; it is finite for `k` up to 308. -/
def powerOfTen (k : Nat) : Float :=
  let n := Nat.pow 10 k
  let s := Nat.log2 n
  if s ≤ 52 then
    Float.ofBits (UInt64.ofNat ((s + 1023) * Nat.pow 2 52 + (n * Nat.pow 2 (52 - s) - Nat.pow 2 52)))
  else
    let sh := s - 52
    let q := n / Nat.pow 2 sh
    let r := n % Nat.pow 2 sh
    let half := Nat.pow 2 (sh - 1)
    let q := if r > half ∨ (r = half ∧ q % 2 = 1) then q + 1 else q
    let (q, sh) := if q = Nat.pow 2 53 then (q / 2, sh + 1) else (q, sh)
    Float.ofBits (UInt64.ofNat ((sh + 52 + 1023) * Nat.pow 2 52 + (q - Nat.pow 2 52)))

/-- `f * 10^e` the quick way: one step by a power of ten up to `10^308`, and for smaller
exponents steps of `10^308` down first. Overflow has no value. -/
def scale (f : Float) : Nat → Int → Option Float
  | 0, _ => some f
  | fuel + 1, e =>
    if e.natAbs ≤ 308 then
      if 0 ≤ e then
        let g := f * powerOfTen e.toNat
        if g.isInf then none else some g
      else some (f / powerOfTen e.natAbs)
    else if f == 0.0 then some f
    else if 0 ≤ e then none
    else scale (f / powerOfTen 308) fuel (e + 308)

/-- The double of `significand * 10^exponent` with the given sign. -/
def fromParts (negative : Bool) (significand : Nat) (exponent : Int) : Option Float := do
  let f ← scale (UInt64.ofNat significand).toFloat (exponent.natAbs / 308 + 2) exponent
  pure (if negative then -f else f)

/-- Decimal digits as naturals, or nothing when one is not a digit. -/
def digits (cs : List Char) : Option (List Nat) :=
  cs.mapM fun c => if c.isDigit then some (c.toNat - '0'.toNat) else none

/-- Collects digits into a significand while it fits in 64 bits. Returns the significand
and the digits that did not fit. -/
def collect : Nat → List Nat → Nat × List Nat
  | acc, [] => (acc, [])
  | acc, d :: ds => if overflows acc d maxU64 then (acc, d :: ds) else collect (10 * acc + d) ds

/-- The exponent digits as a number, or nothing when it passes the 32-bit signed range. -/
def exponentValue : Nat → List Nat → Option Nat
  | acc, [] => some acc
  | acc, d :: ds => if overflows acc d maxI32 then none else exponentValue (10 * acc + d) ds

/-- `x` kept within the 32-bit signed range. -/
def saturate (x : Int) : Int := max (-(Nat.pow 2 31 : Int)) (min x maxI32)

/-- The value of a number token: an optional minus, integer digits, an optional fraction
and an optional exponent. Nothing for a token that is not a number or is out of range. -/
def read (text : String) : Option Value := do
  let (negative, body) := match text.toList with
    | '-' :: rest => (true, rest)
    | rest => (false, rest)
  let (mant, expo) := match body.span fun c => c ≠ 'e' ∧ c ≠ 'E' with
    | (m, _ :: x) => (m, some x)
    | (m, []) => (m, none)
  let (intPart, frac) := match mant.span (· ≠ '.') with
    | (i, _ :: f) => (i, some f)
    | (i, []) => (i, none)
  let intDigits ← digits intPart
  if intDigits.isEmpty ∨ (intDigits.length > 1 ∧ intDigits.head? = some 0) then none
  let (sig, extraInt) := collect 0 intDigits
  let fracDigits ← match frac with
    | some f => if f.isEmpty then none else digits f
    | none => pure []
  -- digits of the integer part that did not fit raise the exponent; those of the fraction
  -- that fit lower it
  let (sig, dropped) := collect sig fracDigits
  let start : Int := (extraInt.length : Int) - (fracDigits.length - dropped.length : Nat)
  match frac, expo with
  | none, none =>
    if !extraInt.isEmpty then .float <$> fromParts negative sig start
    else if !negative then pure (.int sig)
    else if sig = 0 ∨ sig > Nat.pow 2 63 then .float <$> fromParts negative sig 0
    else pure (.int (-(sig : Int)))
  | _, none => .float <$> fromParts negative sig start
  | _, some x =>
    let (expNegative, xs) := match x with
      | '+' :: r => (false, r)
      | '-' :: r => (true, r)
      | r => (false, r)
    let xd ← digits xs
    if xd.isEmpty then none
    match exponentValue 0 xd with
    | some v =>
      .float <$> fromParts negative sig (saturate (if expNegative then start - v else start + v))
    | none =>
      if sig ≠ 0 ∧ !expNegative then none
      else pure (.float (if negative then -0.0 else 0.0))

end Playout.Number
