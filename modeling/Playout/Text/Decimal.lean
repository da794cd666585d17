/-!
# Shortest decimals of binary64 values

A finite double stands for the interval of reals that round to it. The shortest decimal
in that interval, and of those the closest to the value, is what a reader needs to get the
same double back. The search below tries grids `10^(k-1)`, `10^(k-2)`, ... from the
leading digit down and tests the two grid neighbours of the value with exact arithmetic.
Two layouts follow: the plain positional form, and the form that keeps a fractional part
and switches to an exponent far from one. Both settle a value halfway between two shortest
decimals upward; the compact form of messages takes the even one.
-/

namespace Playout.Decimal

/-- A finite non-negative binary64 value `m * 2^q`. -/
structure Binary where
  m : Nat
  q : Int
  /-- The gap to the value below is half the gap to the value above. -/
  narrowBelow : Bool
deriving Repr, DecidableEq

/-- The value of a finite bit pattern, sign dropped. -/
def Binary.ofBits (b : UInt64) : Binary :=
  let e := ((b >>> 52) &&& 0x7FF).toNat
  let f := (b &&& 0xFFFFFFFFFFFFF).toNat
  if e == 0 then ⟨f, -1074, false⟩ else ⟨Nat.pow 2 52 + f, (e : Int) - 1075, f == 0 && e > 1⟩

/-- The decimal `digits * 10^exp`. -/
structure Dec where
  digits : Nat
  exp : Int
deriving Repr, DecidableEq, Inhabited

/-- Compares `a * 10^i` with `n * 2^j`, exactly. -/
def cmpScaled (a : Nat) (i : Int) (n : Nat) (j : Int) : Ordering :=
  compare (a * Nat.pow 10 i.toNat * Nat.pow 2 (-j).toNat) (n * Nat.pow 2 j.toNat * Nat.pow 10 (-i).toNat)

/-- `d` lies among the reals that round to `x` (to nearest, ties to even). -/
def Binary.readsBack (x : Binary) (d : Dec) : Bool :=
  let lo := if x.narrowBelow then 4 * x.m - 1 else 4 * x.m - 2
  let hi := 4 * x.m + 2
  let incl := x.m % 2 == 0
  let cl := cmpScaled d.digits d.exp lo (x.q - 2)
  let ch := cmpScaled d.digits d.exp hi (x.q - 2)
  (cl == .gt || (incl && cl == .eq)) && (ch == .lt || (incl && ch == .eq))

/-- The value `x / 10^g` as a fraction `num / den` of naturals. -/
def Binary.over (x : Binary) (g : Int) : Nat × Nat :=
  (x.m * Nat.pow 2 x.q.toNat * Nat.pow 10 (-g).toNat, Nat.pow 2 (-x.q).toNat * Nat.pow 10 g.toNat)

/-- `x < 10^k`. -/
def Binary.below (x : Binary) (k : Int) : Bool :=
  let (num, den) := x.over k
  num < den

/-- Moves an estimate of the scale up while `10^k ≤ x`. -/
def scaleUp (x : Binary) : Nat → Int → Int
  | 0, k => k
  | fuel + 1, k => if x.below k then k else scaleUp x fuel (k + 1)

/-- Moves an estimate of the scale down while `x < 10^(k-1)`. -/
def scaleDown (x : Binary) : Nat → Int → Int
  | 0, k => k
  | fuel + 1, k => if x.below (k - 1) then scaleDown x fuel (k - 1) else k

/-- The least `k` with `x < 10^k`, for `x ≠ 0`: an estimate from the binary logarithm,
corrected by exact comparisons. -/
def Binary.scale (x : Binary) : Int :=
  let est := ((Nat.log2 x.m : Int) + x.q) * 30103 / 100000
  scaleDown x 4 (scaleUp x 4 est)

/-- Which of two grid neighbours equally near the value is taken. -/
inductive Tie where
  /-- the one with an even last digit -/
  | even
  /-- the one of larger magnitude -/
  | up
deriving Repr, DecidableEq

/-- The decimal on the grid `10^g` nearest to `x` that reads back, if one does; of two
equally near, the one `tie` picks. -/
def Binary.onGrid (x : Binary) (tie : Tie) (g : Int) : Option Dec :=
  let (num, den) := x.over g
  let lo := num / den
  let hi := lo + 1
  match x.readsBack ⟨lo, g⟩, x.readsBack ⟨hi, g⟩ with
  | true, true =>
    if 2 * num < (2 * lo + 1) * den ∨
        (2 * num = (2 * lo + 1) * den ∧ tie = .even ∧ lo % 2 = 0) then
      some ⟨lo, g⟩
    else some ⟨hi, g⟩
  | true, false => some ⟨lo, g⟩
  | false, true => some ⟨hi, g⟩
  | false, false => none

/-- Moves trailing zeros of the digits into the exponent. -/
def Dec.strip : Nat → Dec → Dec
  | 0, d => d
  | fuel + 1, d =>
    if d.digits ≠ 0 ∧ d.digits % 10 = 0 then Dec.strip fuel ⟨d.digits / 10, d.exp + 1⟩ else d

/-- The exact decimal value of `x`. -/
def Binary.exact (x : Binary) : Dec :=
  if 0 ≤ x.q then ⟨x.m * Nat.pow 2 x.q.toNat, 0⟩ else ⟨x.m * Nat.pow 5 (-x.q).toNat, x.q⟩

/-- The shortest decimal that reads back as `x`, closest to `x` among those, a tie settled
by `tie`; zero is `0 * 10^0`. -/
def Binary.shortest (x : Binary) (tie : Tie) : Dec :=
  if x.m = 0 then ⟨0, 0⟩
  else
    let k := x.scale
    let found := (List.range 17).findSome? fun n => x.onGrid tie (k - (n + 1 : Nat))
    Dec.strip 400 (found.getD x.exact)

/-- The decimal digits of a natural, most significant first. -/
def digitsOf (n : Nat) : String := toString n

/-- `"0"` repeated `n` times. -/
def zeros (n : Nat) : String := String.ofList (List.replicate n '0')

/-- Positional layout of `ds * 10^(e - ds.length)`, where `e` is the position of the point
after the leading digit; `minFrac` fractional digits at least. -/
def positional (ds : String) (e : Int) (minFrac : Nat) : String :=
  let n := ds.length
  if e ≤ 0 then
    let frac := zeros (-e).toNat ++ ds
    "0." ++ frac ++ zeros (minFrac - frac.length)
  else if e.toNat < n then
    let ip := String.ofList (ds.toList.take e.toNat)
    let fp := String.ofList (ds.toList.drop e.toNat)
    ip ++ "." ++ fp ++ zeros (minFrac - fp.length)
  else
    ds ++ zeros (e.toNat - n) ++ (if minFrac = 0 then "" else "." ++ zeros minFrac)

/-- Exponent layout `d.ddd` followed by `e` and the exponent of the leading digit, which
carries a `+` when it is positive and `plus` is set. -/
def scientific (plus : Bool) (ds : String) (e : Int) : String :=
  let lead := String.ofList (ds.toList.take 1)
  let rest := String.ofList (ds.toList.drop 1)
  (if rest.isEmpty then lead else lead ++ "." ++ rest) ++ "e" ++
    (if plus ∧ 0 < e - 1 then "+" else "") ++ toString (e - 1)

/-- The sign and the special values around a layout of the finite magnitude. -/
def render (tie : Tie) (x : Float) (finite : Dec → String) : String :=
  if x.isNaN then "NaN"
  else
    let neg := x.toBits >>> 63 == 1
    let sign := if neg then "-" else ""
    if x.isInf then sign ++ "inf"
    else sign ++ finite ((Binary.ofBits x.toBits).shortest tie)

/-- The position of the point after the leading digit of `d`. -/
def Dec.point (d : Dec) : Int := d.exp + (digitsOf d.digits).length

/-- Plain positional text with no exponent: `1`, `0.1`, `1000000000000000000000`. -/
def plain (x : Float) : String :=
  render .up x fun d => if d.digits = 0 then "0" else positional (digitsOf d.digits) d.point 0

/-- Positional text that always shows a fractional part, switching to an exponent below
`1e-4` and from `1e16` on: `1.0`, `0.0001`, `1e-5`, `1e16`. -/
def withPoint (x : Float) : String :=
  render .up x fun d =>
    if d.digits = 0 then "0.0"
    else if d.point < -3 ∨ 16 < d.point then scientific false (digitsOf d.digits) d.point
    else positional (digitsOf d.digits) d.point 1

/-- Positional text with a fractional part while the leading digit is between `1e-5` and
`1e15`, exponent form outside, with a signed exponent when it is positive: `8.0`, `0.0001`,
`1e-5`, `1e+16`, `1.5e+20`. -/
def compact (x : Float) : String :=
  render .even x fun d =>
    let ds := digitsOf d.digits
    if d.digits = 0 then "0.0"
    else if 0 ≤ d.exp ∧ d.point ≤ 16 then ds ++ zeros d.exp.toNat ++ ".0"
    else if 0 < d.point ∧ d.point ≤ 16 then positional ds d.point 0
    else if -5 < d.point ∧ d.point ≤ 0 then positional ds d.point 0
    else scientific true ds d.point

/-- The exact decimal expansion of a finite double, with a fractional part:
`0.1000000000000000055511151231257827021181583404541015625` for `0.1`. -/
def exact (x : Float) : String :=
  let sign := if x.toBits >>> 63 == 1 then "-" else ""
  let d := Dec.strip 400 (Binary.ofBits x.toBits).exact
  if d.digits = 0 then sign ++ "0.0" else sign ++ positional (digitsOf d.digits) d.point 1

/-- Plain positional text, with `.0` appended when it shows no point. -/
def plainPointed (x : Float) : String :=
  let s := plain x
  if x.isNaN ∨ x.isInf ∨ s.contains '.' then s else s ++ ".0"

end Playout.Decimal
