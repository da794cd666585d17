import Playout.Proofs.SeqDistance

/-!
# Runs of sequence numbers

A run lists its members by adding `0, 1, ..., count - 1` to its first number, while membership
is decided by two signed comparisons, one against each end. A comparison sees a number only
within half the number space, so `contains` finds exactly the members that lie fewer than `2^15`
steps from both ends (`contains_iff`). For a run of at most `2^15` numbers that is every member;
in a longer run the members at both ends, among them the first number itself, are missed.

A run built by `inclusive` never has more than `2^15` numbers, so for those the two views agree.
-/

namespace Playout

namespace SeqRange

variable {r : SeqRange} {s : UInt16}

theorem mem_members : s ∈ r.members ↔ ∃ i < r.count.toNat, s = r.first + UInt16.ofNat i := by
  simp [members, eq_comm]

theorem count_ne_zero_iff : r.count ≠ 0 ↔ r.count.toNat ≠ 0 := by
  rw [Ne, Ne, ← UInt16.toNat_inj, UInt16.toNat_zero]

theorem last_toNat (h : r.count ≠ 0) : r.last.toNat = (r.first.toNat + (r.count.toNat - 1)) % 65536 := by
  have hpos : 1 ≤ r.count := by
    rw [UInt16.le_iff_toNat_le, UInt16.toNat_one]
    exact Nat.one_le_iff_ne_zero.2 (count_ne_zero_iff.1 h)
  simp [last, h, UInt16.toNat_add, UInt16.toNat_sub_of_le _ _ hpos]

theorem add_ofNat_toNat (i : Nat) : (r.first + UInt16.ofNat i).toNat = (r.first.toNat + i) % 65536 := by
  rw [UInt16.toNat_add, UInt16.toNat_ofNat', Nat.add_mod_mod]

/-- `contains` finds exactly the members fewer than `2^15` steps from the first number and from
the last. -/
theorem contains_iff : r.contains s = true ↔
    ∃ i < r.count.toNat, i < 32768 ∧ r.count.toNat ≤ i + 32768 ∧ s = r.first + UInt16.ofNat i := by
  have hf := r.first.toNat_lt
  have hc := r.count.toNat_lt
  simp only [contains, Bool.and_eq_true, decide_eq_true_eq, Seq.atOrAfter_iff]
  constructor
  · rintro ⟨⟨hne, hd⟩, he⟩
    obtain ⟨-, hdlt, hs⟩ := Seq.diff_spec r.first s
    obtain ⟨-, helt, hl⟩ := Seq.diff_spec s r.last
    have hlast := last_toNat hne
    have hpos := count_ne_zero_iff.1 hne
    -- both distances are below `2^15`, so they add up to `count - 1` without wrapping
    refine ⟨(Seq.diff r.first s).toNat, by omega, by omega, by omega, ?_⟩
    rw [← UInt16.toNat_inj, add_ofNat_toNat]
    omega
  · rintro ⟨i, hi, hhalf, hend, rfl⟩
    have hne : r.count ≠ 0 := count_ne_zero_iff.2 (by omega)
    have hlast := last_toNat hne
    have hsi := add_ofNat_toNat (r := r) i
    refine ⟨⟨hne, ?_⟩, ?_⟩
    · rw [Seq.diff_add_ofNat _ hhalf]
      omega
    · rw [(Seq.diff_eq_iff (d := r.count.toNat - 1 - i)).2 ⟨by omega, by omega, by omega⟩]
      omega

theorem mem_members_of_contains (h : r.contains s = true) : s ∈ r.members := by
  obtain ⟨i, hi, -, -, rfl⟩ := contains_iff.1 h
  exact mem_members.2 ⟨i, hi, rfl⟩

/-- The two views of a run agree exactly when it spans at most half the number space. -/
theorem contains_iff_mem_members_iff : (∀ s, r.contains s = true ↔ s ∈ r.members) ↔ r.count.toNat ≤ 32768 := by
  constructor
  · intro hall
    -- the member `2^15` steps in is too far from the first number to be seen
    by_contra hlong
    have hmem : r.first + UInt16.ofNat 32768 ∈ r.members := mem_members.2 ⟨32768, by omega, rfl⟩
    obtain ⟨i, -, hhalf, -, heq⟩ := contains_iff.1 ((hall _).2 hmem)
    have hf := r.first.toNat_lt
    have hi := congrArg UInt16.toNat heq
    rw [add_ofNat_toNat, add_ofNat_toNat] at hi
    omega
  · intro hshort s
    refine ⟨mem_members_of_contains, fun hmem => ?_⟩
    obtain ⟨i, hi, rfl⟩ := mem_members.1 hmem
    exact contains_iff.2 ⟨i, hi, by omega, by omega, rfl⟩

theorem members_getLast? (h : 0 < r.count.toNat) : r.members.getLast? = some r.last := by
  have hlast := last_toNat ((count_ne_zero_iff (r := r)).2 (by omega))
  simp only [members, List.getLast?_map, List.getLast?_range, Option.map_eq_some_iff]
  refine ⟨r.count.toNat - 1, by simp; omega, ?_⟩
  rw [← UInt16.toNat_inj, add_ofNat_toNat, hlast]

theorem inclusive_eq_some {first last : UInt16} {r : SeqRange} (h : inclusive first last = some r) :
    0 ≤ Seq.diff first last ∧ r = ⟨first, UInt16.ofNat (Seq.diff first last).toNat + 1⟩ := by
  unfold inclusive at h
  dsimp only at h
  split at h
  · cases h
  · cases h
    exact ⟨by omega, rfl⟩

theorem inclusive_count {first last : UInt16} (hd : 0 ≤ Seq.diff first last) :
    (UInt16.ofNat (Seq.diff first last).toNat + 1).toNat = (Seq.diff first last).toNat + 1 := by
  have hlt := (Seq.diff_spec first last).2.1
  rw [UInt16.toNat_add, UInt16.toNat_ofNat', UInt16.toNat_one]
  omega

/-- A run built from its two ends lists the numbers from one end to the other, in order. -/
theorem inclusive_members {first last : UInt16} {r : SeqRange} (h : inclusive first last = some r) :
    r.members = (List.range ((Seq.diff first last).toNat + 1)).map (first + UInt16.ofNat ·) ∧
      r.last = last := by
  obtain ⟨hd, rfl⟩ := inclusive_eq_some h
  have hcount := inclusive_count hd
  obtain ⟨-, hlt, hl⟩ := Seq.diff_spec first last
  refine ⟨by simp [members, hcount], ?_⟩
  have hne : UInt16.ofNat (Seq.diff first last).toNat + 1 ≠ 0 := by
    rw [Ne, ← UInt16.toNat_inj, hcount]
    simp
  rw [← UInt16.toNat_inj, last_toNat hne, hcount]
  show (first.toNat + ((Seq.diff first last).toNat + 1 - 1)) % 65536 = last.toNat
  omega

/-- Membership and enumeration of a run. Within half the number space `contains` finds exactly
the members, and past it the two views part; `last` is the last member of every run that has
any. `inclusive` builds a run exactly when the last number does not precede the first, a run that
lists the numbers from the first to the last. -/
theorem contains_agrees_with_members (r : SeqRange) :
    (r.count.toNat ≤ 32768 → ∀ s, r.contains s = true ↔ s ∈ r.members) ∧
    (0 < r.count.toNat → r.members.getLast? = some r.last) ∧
    (∀ r' : SeqRange, (∀ s, r'.contains s = true ↔ s ∈ r'.members) ↔ r'.count.toNat ≤ 32768) ∧
    (∀ first last, (inclusive first last).isSome = true ↔ 0 ≤ Seq.diff first last) ∧
    (∀ first last r', inclusive first last = some r' →
      r'.members = (List.range ((Seq.diff first last).toNat + 1)).map (first + UInt16.ofNat ·) ∧
        r'.last = last) :=
  ⟨contains_iff_mem_members_iff.2, members_getLast?, fun _ => contains_iff_mem_members_iff,
    fun first last => by simp [inclusive_isSome], fun _ _ _ => inclusive_members⟩

/-- Half the number space from `65535`, across the wrap: `contains` agrees with the members. -/
theorem contains_agrees_across_wrap :
    (⟨65535, 32768⟩ : SeqRange).count.toNat ≤ 32768 ∧
      ∀ s, (⟨65535, 32768⟩ : SeqRange).contains s = true ↔ s ∈ (⟨65535, 32768⟩ : SeqRange).members :=
  ⟨by decide, (contains_agrees_with_members ⟨65535, 32768⟩).1 (by decide)⟩

/-- A run of `2^15 + 1` numbers from zero: `contains` misses its first number and the number
`2^15` steps in, both of which it lists. -/
theorem contains_misses_long_run :
    (⟨0, 32769⟩ : SeqRange).contains 0 = false ∧ (0 : UInt16) ∈ (⟨0, 32769⟩ : SeqRange).members ∧
      (⟨0, 32769⟩ : SeqRange).contains 32768 = false ∧
      (32768 : UInt16) ∈ (⟨0, 32769⟩ : SeqRange).members :=
  ⟨by decide, mem_members.2 ⟨0, by decide, rfl⟩, by decide, mem_members.2 ⟨32768, by decide, rfl⟩⟩

end SeqRange

end Playout
