/-!
# Decimal numerals

Reading of an unsigned decimal numeral: an optional `+`, then one or more ASCII digits,
leading zeros allowed, and a value below the bound of the target width.
-/

namespace Playout.Text

/-- The value of a string of ASCII digits, or `none` if it is empty or holds anything else. -/
def digitsValue (cs : List Char) : Option Nat :=
  if cs.isEmpty then none
  else cs.foldl (fun acc c => acc.bind fun v =>
    if c.isDigit then some (10 * v + (c.toNat - 48)) else none) (some 0)

/-- An unsigned numeral below `bound`. -/
def parseUnsigned (s : String) (bound : Nat) : Option Nat :=
  let cs := match s.toList with
    | '+' :: rest => rest
    | cs => cs
  match digitsValue cs with
  | some v => if v < bound then some v else none
  | none => none

end Playout.Text
