import Playout.Buffer
import Playout.Config
import Mathlib.Data.Nat.ModEq

/-!
# Wrapping distance

Everything the buffer decides about order goes through `Seq.diff`, the difference of two
sequence numbers read as a signed 16-bit number. The proofs only ever use two facts about it:
it lies in the signed half-range, and it carries the first number to the second modulo `2^16`.
Those two facts determine it (`Seq.diff_eq_iff`), so each statement below is arithmetic that
`omega` settles once they are in scope.

Slots are sequence numbers modulo the capacity. When the capacity divides `2^16`, two numbers
at distances below the capacity from a common start share a slot only if they are equal
(`Seq.eq_of_slot_eq`): a window shorter than the ring never folds onto itself.
-/

namespace Playout

namespace Seq

theorem diff_spec (a b : UInt16) :
    -32768 ≤ diff a b ∧ diff a b < 32768 ∧ (b.toNat : Int) = (a.toNat + diff a b) % 65536 := by
  have ha := a.toNat_lt
  have hb := b.toNat_lt
  have hsub := UInt16.toNat_sub b a
  have h1 : Nat.pow 2 (16 - 1) = 32768 := rfl
  unfold diff signed16 signedOf
  rw [h1, pow_two_16, hsub]
  split <;> omega

/-- The distance is the one number of the half-range that carries `a` to `b`. -/
theorem diff_eq_iff {a b : UInt16} {d : Int} :
    diff a b = d ↔ -32768 ≤ d ∧ d < 32768 ∧ (b.toNat : Int) = (a.toNat + d) % 65536 := by
  obtain ⟨lo, hi, h⟩ := diff_spec a b
  constructor
  · rintro rfl
    exact ⟨lo, hi, h⟩
  · rintro ⟨lo', hi', h'⟩
    omega

theorem eq_of_diff_eq {a b c : UInt16} (h : diff a b = diff a c) : b = c := by
  obtain ⟨-, -, hb⟩ := diff_spec a b
  obtain ⟨-, -, hc⟩ := diff_spec a c
  rw [← UInt16.toNat_inj]
  omega

@[simp] theorem diff_eq_zero {a b : UInt16} : diff a b = 0 ↔ a = b := by
  constructor
  · intro h
    exact (eq_of_diff_eq (h.trans (diff_self a).symm)).symm
  · rintro rfl
    exact diff_self a

theorem diff_add {a b c : UInt16} (lo : -32768 ≤ diff a b + diff b c)
    (hi : diff a b + diff b c < 32768) : diff a c = diff a b + diff b c := by
  obtain ⟨-, -, hb⟩ := diff_spec a b
  obtain ⟨-, -, hc⟩ := diff_spec b c
  exact diff_eq_iff.2 ⟨lo, hi, by omega⟩

theorem diff_add_of_nonneg {a b c : UInt16} (hab : 0 ≤ diff a b) (hbc : 0 ≤ diff b c)
    (hac : -1 ≤ diff a c) : diff a b + diff b c = diff a c := by
  obtain ⟨-, h1, e1⟩ := diff_spec a b
  obtain ⟨-, h2, e2⟩ := diff_spec b c
  obtain ⟨-, h3, e3⟩ := diff_spec a c
  omega

/-- Going back is the negated distance, except at the one distance that has no negation. -/
theorem diff_swap {a b : UInt16} (h : diff a b ≠ -32768) : diff b a = -diff a b := by
  obtain ⟨lo, hi, hb⟩ := diff_spec a b
  have ha := a.toNat_lt
  exact diff_eq_iff.2 ⟨by omega, by omega, by omega⟩

theorem diff_add_ofNat (a : UInt16) {k : Nat} (hk : k < 32768) :
    diff a (a + UInt16.ofNat k) = k := by
  have ha := a.toNat_lt
  have hsum : (a + UInt16.ofNat k).toNat = (a.toNat + k % 65536) % 65536 := by
    rw [UInt16.toNat_add, UInt16.toNat_ofNat']
  exact diff_eq_iff.2 ⟨by omega, by omega, by omega⟩

theorem diff_succ_left {a b : UInt16} (h : diff a b ≠ -32768) : diff (a + 1) b = diff a b - 1 := by
  have step : diff a (a + 1) = 1 := diff_add_ofNat a (k := 1) (by omega)
  have back : diff (a + 1) a = -1 := by
    rw [diff_swap (by omega), step]
  have lo := (diff_spec a b).1
  have hi := (diff_spec a b).2.1
  rw [diff_add (b := a) (by omega) (by omega), back]
  omega

@[simp] theorem atOrAfter_iff {a b : UInt16} : atOrAfter a b = true ↔ 0 ≤ diff a b := by
  simp [atOrAfter]

@[simp] theorem after_iff {a b : UInt16} : after a b = true ↔ 0 < diff a b := by
  simp [after]

/-! ## Slots -/

theorem exists_pow_of_isPowerOfTwo {n : Nat} (h : isPowerOfTwo n = true) : ∃ k, n = 2 ^ k := by
  have hn : n ≠ 0 ∧ n &&& (n - 1) = 0 := by
    simpa [isPowerOfTwo] using h
  exact Nat.ne_zero_and_sub_one_eq_zero_iff_isPowerOfTwo.1 hn

theorem and_pred_eq_mod {n : Nat} (h : isPowerOfTwo n = true) (x : Nat) :
    x &&& (n - 1) = x % n := by
  obtain ⟨k, rfl⟩ := exists_pow_of_isPowerOfTwo h
  exact Nat.and_two_pow_sub_one_eq_mod x k

theorem dvd_of_isPowerOfTwo {n : Nat} (h : isPowerOfTwo n = true) (hn : n ≤ 65536) :
    n ∣ 65536 := by
  obtain ⟨k, rfl⟩ := exists_pow_of_isPowerOfTwo h
  have hk : k ≤ 16 := (Nat.pow_le_pow_iff_right (a := 2) (by omega)).1 (by simpa using hn)
  simpa using Nat.pow_dvd_pow 2 hk

/-- Numbers within a capacity of a common start that share a slot are equal. -/
theorem eq_of_slot_eq {cap : Nat} (hcap : cap ∣ 65536) {r t u : UInt16}
    (ht : 0 ≤ diff r t) (ht' : diff r t < cap) (hu : 0 ≤ diff r u) (hu' : diff r u < cap)
    (h : t.toNat % cap = u.toNat % cap) : t = u := by
  obtain ⟨-, -, hrt⟩ := diff_spec r t
  obtain ⟨-, -, hru⟩ := diff_spec r u
  have et : t.toNat = (r.toNat + (diff r t).toNat) % 65536 := by omega
  have eu : u.toNat = (r.toNat + (diff r u).toNat) % 65536 := by omega
  rw [et, eu, Nat.mod_mod_of_dvd _ hcap, Nat.mod_mod_of_dvd _ hcap] at h
  have same : (diff r t).toNat = (diff r u).toNat :=
    Nat.ModEq.eq_of_lt_of_lt (Nat.ModEq.add_left_cancel' _ h) (by omega) (by omega)
  exact eq_of_diff_eq (a := r) (by omega)

end Seq

theorem SeqRange.inclusive_between {w s : UInt16} (h : 1 < Seq.diff w s) :
    SeqRange.inclusive (w + 1) (s - 1) = some ⟨w + 1, UInt16.ofNat (Seq.diff w s - 1).toNat⟩ := by
  obtain ⟨-, hi, hs⟩ := Seq.diff_spec w s
  have hw := w.toNat_lt
  have hsucc : (w + 1).toNat = (w.toNat + 1) % 65536 := UInt16.toNat_add w 1
  have hpred := UInt16.toNat_sub s 1
  have hinner : Seq.diff (w + 1) (s - 1) = Seq.diff w s - 2 :=
    Seq.diff_eq_iff.2 ⟨by omega, by omega, by simp only [UInt16.toNat_one] at hpred; omega⟩
  have hcount : UInt16.ofNat (Seq.diff w s - 2).toNat + 1 = UInt16.ofNat (Seq.diff w s - 1).toNat := by
    rw [← UInt16.toNat_inj, UInt16.toNat_add, UInt16.toNat_ofNat', UInt16.toNat_ofNat']
    simp only [UInt16.toNat_one]
    omega
  simp [SeqRange.inclusive, hinner, hcount]
  omega

end Playout
