/-!
# Two's complement words

Fixed-width words and the signed integers they stand for. Wrapping arithmetic is done on
the unsigned words; a signed reading is taken only where an order is decided.

Powers in definitions are written `Nat.pow b n` rather than `b ^ n`: the function names one
term, while the notation picks whichever power instance is in scope, so the definitions
read the same under any imports. `Nat.pow_eq` turns them back into `^`.
-/

namespace Playout

/-! The powers of two that bound the words, as numerals for `omega`. -/

theorem pow_two_16 : Nat.pow 2 16 = 65536 := rfl

theorem pow_two_31 : Nat.pow 2 31 = 2147483648 := rfl

theorem pow_two_32 : Nat.pow 2 32 = 4294967296 := rfl

theorem pow_two_63 : Nat.pow 2 63 = 9223372036854775808 := rfl

theorem pow_two_64 : Nat.pow 2 64 = 18446744073709551616 := rfl

/-- Reading of a bit pattern of width `w` as a two's complement integer. -/
def signedOf (w : Nat) (x : Nat) : Int :=
  if x < Nat.pow 2 (w - 1) then x else (x : Int) - Nat.pow 2 w

theorem signedOf_of_lt {w x : Nat} (h : x < Nat.pow 2 (w - 1)) : signedOf w x = x := by
  rw [signedOf, if_pos h]

def signed16 (x : UInt16) : Int := signedOf 16 x.toNat

/-- A 16-bit word reads as a number in `[-2^15, 2^15)`. -/
theorem signed16_bounds (x : UInt16) : -32768 ≤ signed16 x ∧ signed16 x < 32768 := by
  have hx : x.toNat < 65536 := x.toNat_lt
  have h1 : Nat.pow 2 (16 - 1) = 32768 := rfl
  unfold signed16 signedOf
  rw [h1, pow_two_16]
  split
  · omega
  · omega

def signed32 (x : UInt32) : Int := signedOf 32 x.toNat

def signed64 (x : UInt64) : Int := signedOf 64 x.toNat

/-- The integer `i` reduced to a two's complement word of width `w`. -/
def wrapSigned (w : Nat) (i : Int) : Int := signedOf w (i % Nat.pow 2 w).toNat

end Playout
