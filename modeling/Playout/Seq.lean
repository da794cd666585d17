import Playout.Word

/-!
# Sequence numbers

RTP sequence numbers are 16 bits wide and wrap, so order between two of them is
decided by the signed 16-bit distance, never by the raw values.
-/

namespace Playout

/-- Signed distance from `a` to `b`: `b - a` taken modulo `2^16` and read as an `i16`. -/
def Seq.diff (a b : UInt16) : Int := signed16 (b - a)

@[simp] theorem Seq.diff_self (a : UInt16) : Seq.diff a a = 0 := by
  simp [Seq.diff, signed16, signedOf]

/-- Two sequence numbers are never more than half the number space apart. -/
theorem Seq.diff_bounds (a b : UInt16) : -32768 ≤ Seq.diff a b ∧ Seq.diff a b < 32768 :=
  signed16_bounds (b - a)

/-- `b` comes strictly after `a`. -/
def Seq.after (a b : UInt16) : Bool := decide (0 < Seq.diff a b)

/-- `b` is `a` or comes after it. -/
def Seq.atOrAfter (a b : UInt16) : Bool := decide (0 ≤ Seq.diff a b)

@[simp] theorem Seq.atOrAfter_self (a : UInt16) : Seq.atOrAfter a a = true := by
  simp [Seq.atOrAfter]

/-- An inclusive run of `count` sequence numbers starting at `first`, possibly crossing the
wrap point. -/
structure SeqRange where
  first : UInt16
  count : UInt16
deriving Repr, DecidableEq, Inhabited

namespace SeqRange

/-- The run from `first` to `last` inclusive, or `none` when `last` precedes `first`. -/
def inclusive (first last : UInt16) : Option SeqRange :=
  let d := Seq.diff first last
  if d < 0 then none else some ⟨first, UInt16.ofNat d.toNat + 1⟩

/-- A run exists exactly when `last` does not precede `first`. -/
theorem inclusive_isSome (first last : UInt16) :
    (inclusive first last).isSome = decide (0 ≤ Seq.diff first last) := by
  by_cases h : Seq.diff first last < 0
  · simp [inclusive, h]
  · simp [inclusive, h]
    omega

/-- The last member; an empty run reports its first number. -/
def last (r : SeqRange) : UInt16 :=
  r.first + (if r.count = 0 then 0 else r.count - 1)

/-- Membership, with order decided by the wrapping distance. -/
def contains (r : SeqRange) (s : UInt16) : Bool :=
  decide (r.count ≠ 0) && Seq.atOrAfter r.first s && Seq.atOrAfter s r.last

/-- The members in order. -/
def members (r : SeqRange) : List UInt16 :=
  (List.range r.count.toNat).map fun i => r.first + UInt16.ofNat i

@[simp] theorem members_length (r : SeqRange) : r.members.length = r.count.toNat := by
  simp [members]

end SeqRange

end Playout
