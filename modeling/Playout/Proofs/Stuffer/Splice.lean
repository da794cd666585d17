import Playout.Proofs.Engine.Output

/-!
# The splice law of the stuffer

To correct drift the stuffer edits a frame at one pair boundary and scales every sample of the
result, in order, by the 16.16 volume factor. The boundary is a draw from the stuffer's random
generator: after `split` pairs, with `1 ≤ split ≤ pairs - 2`, so the first and the last pair of
the frame are never touched. An insertion puts there the average of the pairs on either side,
channel by channel and rounded down; a deletion drops the pair after the boundary.

Scaling a sample `x` by `v` is `x * v / 2^16`, rounded down and clamped to 16 bits, exactly at
unity gain and above. Below unity, a dither is added first: the previous 16-bit draw of a linear
congruential generator minus the new one, less than `2^16` either way, so the scaled sample is
off by at most one.

* `Stuffer.apply_is_scaled_splice`: the output of every stuffing decision, at every volume.
-/

namespace Playout

namespace ChaChaRng

theorem rangeInclusive_loop_mem (low range zone : Nat) (hrange : 0 < range)
    (hfit : low + range ≤ Nat.pow 2 64) :
    ∀ (g : ChaChaRng) (tries : Nat), low ≤ (rangeInclusive.loop low range zone g tries).1 ∧
      (rangeInclusive.loop low range zone g tries).1 < low + range := by
  intro g tries
  induction tries generalizing g with
  | zero => exact ⟨Nat.le_refl _, by simp [rangeInclusive.loop]; omega⟩
  | succ tries ih =>
    rw [rangeInclusive.loop]
    rcases hdraw : g.nextU64 with ⟨v, g'⟩
    dsimp only
    split
    · -- the high half of a draw times the range is below the range
      have hoff : v.toNat * range / Nat.pow 2 64 < range :=
        (Nat.div_lt_iff_lt_mul (Nat.two_pow_pos 64)).mpr (by
          rw [Nat.mul_comm range]
          exact Nat.mul_lt_mul_of_pos_right v.toNat_lt hrange)
      rw [pow_two_64] at hoff hfit ⊢
      rw [Nat.mod_eq_of_lt (by omega)]
      omega
    · exact ih g'

theorem rangeInclusive_mem (g : ChaChaRng) {low high : Nat} (hle : low ≤ high)
    (hhigh : high < Nat.pow 2 64) :
    low ≤ (g.rangeInclusive low high).1 ∧ (g.rangeInclusive low high).1 ≤ high := by
  unfold rangeInclusive
  dsimp only
  by_cases hzero : (high - low + 1) % Nat.pow 2 64 = 0
  · -- a range of the whole 64-bit space: every draw is in it
    rw [if_pos hzero]
    rcases hdraw : g.nextU64 with ⟨v, g'⟩
    have hv : v.toNat < Nat.pow 2 64 := v.toNat_lt
    rw [pow_two_64] at hzero hv hhigh
    dsimp only
    omega
  · rw [if_neg hzero]
    have hrange : (high - low + 1) % Nat.pow 2 64 = high - low + 1 := Nat.mod_eq_of_lt (by
      rw [pow_two_64] at hzero hhigh ⊢
      omega)
    rw [hrange]
    have hloop := rangeInclusive_loop_mem low (high - low + 1)
      ((high - low + 1) * Nat.pow 2 (64 - (Nat.log2 (high - low + 1) + 1)) - 1) (by omega) (by omega)
      g (Nat.pow 2 67)
    omega

end ChaChaRng

namespace Stuffer

/-! ## Splices -/

/-- The frame cut after `split` pairs: when `stuff > 0` the average of the pairs on either side of
the cut, rounded down channel by channel, is inserted there; otherwise the pair after the cut is
dropped. -/
def splice (frame : List Int) (stuff : Int) (split : Nat) : List Int :=
  if 0 < stuff then
    frame.take (2 * split) ++
      [(frame.getD (2 * split - 2) 0 + frame.getD (2 * split) 0) / 2,
        (frame.getD (2 * split - 1) 0 + frame.getD (2 * split + 1) 0) / 2] ++
      frame.drop (2 * split)
  else frame.take (2 * split) ++ frame.drop (2 * split + 2)

/-- The frames a stuffing decision may turn `frame` into: the frame itself when there is nothing
to do or it has fewer than three pairs, else a splice at a boundary at least one pair from
either end. -/
def IsSplice (frame : List Int) (stuff : Int) (S : List Int) : Prop :=
  if stuff = 0 ∨ frame.length / 2 < 3 then S = frame
  else ∃ split, 1 ≤ split ∧ split ≤ frame.length / 2 - 2 ∧ S = splice frame stuff split

section Splice

variable {frame : List Int} {stuff : Int} {S : List Int}

theorem IsSplice.length (h : IsSplice frame stuff S) (hp : 3 ≤ frame.length / 2) :
    (S.length : Int) = frame.length + 2 * stuff.sign := by
  unfold IsSplice at h
  split at h
  · rename_i hnone
    have hzero : stuff = 0 := by omega
    simp [h, hzero]
  · obtain ⟨split, hlo, hhi, rfl⟩ := h
    unfold splice
    split
    · rename_i hpos
      simp [Int.sign_eq_one_of_pos hpos]
      omega
    · rename_i hneg
      have hlt : stuff < 0 := by omega
      simp [Int.sign_eq_neg_one_of_neg hlt]
      omega

theorem IsSplice.keeps_ends (h : IsSplice frame stuff S) (hp : 3 ≤ frame.length / 2) :
    frame.take 2 <+: S ∧ frame.drop (2 * (frame.length / 2 - 1)) <:+ S := by
  unfold IsSplice at h
  split at h
  · subst h
    exact ⟨List.take_prefix _ _, List.drop_suffix _ _⟩
  · obtain ⟨split, hlo, hhi, rfl⟩ := h
    -- the edit lies between the first pair and the last one
    have hfirst : frame.take 2 <+: frame.take (2 * split) := List.take_prefix_take_left (by omega)
    have hlast (k : Nat) (hk : k ≤ 2 * (frame.length / 2 - 1)) :
        frame.drop (2 * (frame.length / 2 - 1)) <:+ frame.drop k := by
      rw [show 2 * (frame.length / 2 - 1) = k + (2 * (frame.length / 2 - 1) - k) by omega,
        ← List.drop_drop]
      exact List.drop_suffix _ _
    unfold splice
    split
    · exact ⟨hfirst.trans (List.prefix_append_of_prefix (List.prefix_append _ _)),
        (hlast (2 * split) (by omega)).trans (List.suffix_append _ _)⟩
    · exact ⟨hfirst.trans (List.prefix_append _ _),
        (hlast (2 * split + 2) (by omega)).trans (List.suffix_append _ _)⟩

theorem isSample_mem_splice (hframe : ∀ x ∈ frame, IsSample x) (split : Nat) :
    ∀ y ∈ splice frame stuff split, IsSample y := by
  have hget (i : Nat) : IsSample (frame.getD i 0) := by
    rw [List.getD_eq_getElem?_getD]
    cases hi : frame[i]? with
    | none => decide
    | some x => exact hframe x (List.mem_of_getElem? hi)
  -- an average of two samples is a sample
  have havg (i j : Nat) : IsSample ((frame.getD i 0 + frame.getD j 0) / 2) := by
    obtain ⟨hi₁, hi₂⟩ := hget i
    obtain ⟨hj₁, hj₂⟩ := hget j
    constructor <;> omega
  intro y hy
  unfold splice at hy
  split at hy
  · simp only [List.mem_append, List.mem_cons, List.not_mem_nil, or_false] at hy
    rcases hy with (hy | rfl | rfl) | hy
    · exact hframe y (List.mem_of_mem_take hy)
    · exact havg _ _
    · exact havg _ _
    · exact hframe y (List.mem_of_mem_drop hy)
  · rcases List.mem_append.mp hy with hy | hy
    · exact hframe y (List.mem_of_mem_take hy)
    · exact hframe y (List.mem_of_mem_drop hy)

theorem IsSplice.samples (h : IsSplice frame stuff S) (hframe : ∀ x ∈ frame, IsSample x) :
    ∀ y ∈ S, IsSample y := by
  unfold IsSplice at h
  split at h
  · exact h ▸ hframe
  · obtain ⟨split, -, -, rfl⟩ := h
    exact isSample_mem_splice hframe split

end Splice

/-! ## Scaling sample by sample -/

/-- A sample scaled by the 16.16 factor `v` without dither: rounded down, clamped to 16 bits. -/
def scaleExact (v x : Int) : Int := max (-32768) (min 32767 (x * v / 65536))

/-- The samples `xs` scaled in order, the dither running on from stuffer `s`. -/
def scaleSamples (s : Stuffer) (v : Int) (xs : List Int) : List Int := (s.scaleAll v #[] xs).1.toList

/-- The last dither draw is a 16-bit value, as every draw of the generator is. -/
def DitherBounded (s : Stuffer) : Prop := 0 ≤ s.ditherA ∧ s.ditherA < 65536

theorem scaleAll_cons (s : Stuffer) (v : Int) (acc : Array Int) (x : Int) (xs : List Int) :
    s.scaleAll v acc (x :: xs) = (s.scale x v).2.scaleAll v (acc.push (s.scale x v).1) xs := rfl

theorem scaleAll_append (s : Stuffer) (v : Int) (acc : Array Int) (xs ys : List Int) :
    s.scaleAll v acc (xs ++ ys) = (s.scaleAll v acc xs).2.scaleAll v (s.scaleAll v acc xs).1 ys := by
  induction xs generalizing s acc with
  | nil => rfl
  | cons x xs ih => exact ih _ _

theorem scaleAll_acc (s : Stuffer) (v : Int) (acc : Array Int) (xs : List Int) :
    s.scaleAll v acc xs = (acc ++ (s.scaleAll v #[] xs).1, (s.scaleAll v #[] xs).2) := by
  induction xs generalizing s acc with
  | nil => simp [scaleAll]
  | cons x xs ih =>
    rw [scaleAll_cons, scaleAll_cons, ih _ (acc.push _), ih _ (#[].push _)]
    simp

theorem scaleSamples_cons (s : Stuffer) (v x : Int) (xs : List Int) :
    scaleSamples s v (x :: xs) = (s.scale x v).1 :: scaleSamples (s.scale x v).2 v xs := by
  unfold scaleSamples
  rw [scaleAll_cons, scaleAll_acc]
  simp

theorem scale_rng (s : Stuffer) (rng : ChaChaRng) (x v : Int) :
    ({ s with rng } : Stuffer).scale x v = ((s.scale x v).1, { (s.scale x v).2 with rng }) := by
  unfold scale
  by_cases hv : v < unityGain
  · simp only [hv, if_true]
    rfl
  · simp only [hv, if_false]

theorem scaleAll_rng (s : Stuffer) (rng : ChaChaRng) (v : Int) (acc : Array Int) (xs : List Int) :
    ({ s with rng } : Stuffer).scaleAll v acc xs =
      ((s.scaleAll v acc xs).1, { (s.scaleAll v acc xs).2 with rng }) := by
  induction xs generalizing s acc with
  | nil => rfl
  | cons x xs ih =>
    rw [scaleAll_cons, scale_rng, scaleAll_cons]
    exact ih _ _

theorem scale_of_unity_le (s : Stuffer) (x : Int) {v : Int} (hv : unityGain ≤ v) :
    s.scale x v = (scaleExact v x, s) := by
  unfold scale
  simp only [show ¬v < unityGain by omega, if_false]
  rfl

theorem nextDither_snd (s : Stuffer) :
    s.nextDither.2 = { s with lcg := s.lcg * 1103515245 + 12345 } := rfl

theorem nextDither_ditherA (s : Stuffer) : s.nextDither.2.ditherA = s.ditherA := by
  rw [nextDither_snd]

theorem nextDither_lt (s : Stuffer) : s.nextDither.1 < 65536 := by
  unfold nextDither
  have hmask : ((s.lcg * 1103515245 + 12345) >>> 16 &&& 0xffff).toNat ≤ 0xffff := by
    rw [UInt32.toNat_and]
    exact Nat.and_le_right
  simp only
  omega

theorem nextDither_nonneg (s : Stuffer) : 0 ≤ s.nextDither.1 := by
  unfold nextDither
  simp

theorem scale_below_unity (s : Stuffer) (x : Int) {v : Int} (hv : v < unityGain) :
    s.scale x v =
      (max (-32768) (min 32767 ((x * v - s.nextDither.1 + s.nextDither.2.ditherA) / 65536)),
        { s.nextDither.2 with ditherB := s.nextDither.2.ditherA, ditherA := s.nextDither.1 }) := by
  unfold Stuffer.scale
  simp only [hv, if_true]

theorem DitherBounded.scale {s : Stuffer} (hs : s.DitherBounded) (x : Int) {v : Int}
    (hv : v < unityGain) : |(s.scale x v).1 - scaleExact v x| ≤ 1 ∧ (s.scale x v).2.DitherBounded := by
  have hlt := nextDither_lt s
  have hnonneg := nextDither_nonneg s
  obtain ⟨ha, ha'⟩ := hs
  rw [scale_below_unity s x hv, nextDither_ditherA]
  refine ⟨?_, hnonneg, hlt⟩
  unfold scaleExact
  rw [abs_sub_le_iff]
  -- the dither is the old draw minus the new one, less than 2^16 either way
  generalize x * v = p
  constructor <;> omega

theorem DitherBounded.scale_any {s : Stuffer} (hs : s.DitherBounded) (x v : Int) :
    (s.scale x v).2.DitherBounded := by
  by_cases hv : v < unityGain
  · exact (hs.scale x hv).2
  · rw [scale_of_unity_le s x (by omega)]
    exact hs

theorem DitherBounded.scaleAll {s : Stuffer} (hs : s.DitherBounded) (v : Int) (acc : Array Int)
    (xs : List Int) : (s.scaleAll v acc xs).2.DitherBounded := by
  induction xs generalizing s acc with
  | nil => exact hs
  | cons x xs ih => exact ih (hs.scale_any x v) _

theorem length_scaleSamples (s : Stuffer) (v : Int) (xs : List Int) :
    (scaleSamples s v xs).length = xs.length := by
  induction xs generalizing s with
  | nil => rfl
  | cons x xs ih => rw [scaleSamples_cons, List.length_cons, ih, List.length_cons]

theorem scaleSamples_of_unity_le (s : Stuffer) {v : Int} (hv : unityGain ≤ v) (xs : List Int) :
    scaleSamples s v xs = xs.map (scaleExact v) := by
  induction xs with
  | nil => rfl
  | cons x xs ih => rw [scaleSamples_cons, scale_of_unity_le s x hv, ih, List.map_cons]

theorem DitherBounded.scaleSamples {s : Stuffer} (hs : s.DitherBounded) {v : Int} (hv : v < unityGain)
    (xs : List Int) :
    List.Forall₂ (fun y x => |y - scaleExact v x| ≤ 1) (Stuffer.scaleSamples s v xs) xs := by
  induction xs generalizing s with
  | nil => exact .nil
  | cons x xs ih =>
    obtain ⟨hnear, hs'⟩ := hs.scale x hv
    rw [scaleSamples_cons]
    exact .cons hnear (ih hs')

theorem scaleSamples_unity (s : Stuffer) {xs : List Int} (h : ∀ x ∈ xs, IsSample x) :
    scaleSamples s unityGain xs = xs := by
  simp [scaleSamples, scaleAll_unity s #[] h]

/-! ## Applying a decision -/

theorem create_ditherBounded (rng : ChaChaRng) : (create rng).DitherBounded :=
  ⟨le_refl 0, by show (0 : Int) < 65536; decide⟩

theorem apply_spliced (s : Stuffer) {frame : List Int} {stuff : Int} (hstuff : stuff ≠ 0)
    (hp : 3 ≤ frame.length / 2) (v : Int) {split : Nat} {rng : ChaChaRng}
    (hr : s.rng.rangeInclusive 1 (frame.length / 2 - 2) = (split, rng)) (hsplit : 1 ≤ split) :
    s.apply frame stuff v =
      ((({ s with rng } : Stuffer).scaleAll v #[] (splice frame stuff split)).1.toList,
        (({ s with rng } : Stuffer).scaleAll v #[] (splice frame stuff split)).2) := by
  have hcut : split * 2 = 2 * split := Nat.mul_comm split 2
  have hleft : 2 * split - 2 + 1 = 2 * split - 1 := by omega
  unfold apply
  rw [if_neg (by omega)]
  dsimp only
  rw [hr]
  dsimp only
  rw [hcut]
  unfold splice
  -- the model scales the part before the cut, the edit and the rest one after the other
  split
  · rw [scaleAll_append, scaleAll_append, ← hleft]
    rfl
  · rw [scaleAll_append]

theorem apply_eq_scaleSamples (s : Stuffer) {frame : List Int} (hlen : frame.length < Nat.pow 2 64)
    (stuff v : Int) : ∃ S, IsSplice frame stuff S ∧ (s.apply frame stuff v).1 = scaleSamples s v S := by
  by_cases hnone : stuff = 0 ∨ frame.length / 2 < 3
  · refine ⟨frame, by rw [IsSplice, if_pos hnone], ?_⟩
    unfold apply
    rw [if_pos hnone]
    rfl
  · have hp : 3 ≤ frame.length / 2 := by omega
    rcases hr : s.rng.rangeInclusive 1 (frame.length / 2 - 2) with ⟨split, rng⟩
    -- the boundary is drawn from `1 ..= pairs - 2`
    have hmem := s.rng.rangeInclusive_mem (show 1 ≤ frame.length / 2 - 2 by omega) (by omega)
    rw [hr] at hmem
    refine ⟨splice frame stuff split, ?_, ?_⟩
    · rw [IsSplice, if_neg hnone]
      exact ⟨split, hmem.1, hmem.2, rfl⟩
    · rw [apply_spliced s (by omega) hp v hr hmem.1, scaleAll_rng]
      rfl

/-- Every stuffer the player uses keeps its dither to 16 bits: it starts with none, and every
frame it applies leaves a 16-bit draw. -/
theorem DitherBounded.apply {s : Stuffer} (hs : s.DitherBounded) (frame : List Int) (stuff v : Int) :
    (s.apply frame stuff v).2.DitherBounded := by
  unfold Stuffer.apply
  dsimp only
  by_cases hnone : stuff = 0 ∨ frame.length / 2 < 3
  · rw [if_pos hnone]
    exact hs.scaleAll v #[] frame
  · rw [if_neg hnone]
    rcases hr : s.rng.rangeInclusive 1 (frame.length / 2 - 2) with ⟨split, rng⟩
    dsimp only
    -- the draw changes the split generator only
    have hs' : ({ s with rng } : Stuffer).DitherBounded := hs
    rcases hfirst : ({ s with rng } : Stuffer).scaleAll v #[] (frame.take (split * 2)) with ⟨out, s₁⟩
    have h₁ : s₁.DitherBounded := by
      have h := hs'.scaleAll v #[] (frame.take (split * 2))
      rwa [hfirst] at h
    dsimp only
    by_cases hpos : stuff > 0
    · rw [if_pos hpos]
      exact ((h₁.scale_any _ v).scale_any _ v).scaleAll v _ _
    · rw [if_neg hpos]
      exact h₁.scaleAll v _ _

/-- Applying the stuffing decision `stuff` at volume `v` to a frame of `n` samples (`n / 2`
pairs) scales a splice of the frame sample by sample, the dither running on: the frame itself
when `stuff = 0` or there are fewer than three pairs, else the frame edited at a boundary after
`split` pairs, `1 ≤ split ≤ n / 2 - 2`, whatever the generator draws. With three pairs or more
the output has `n + 2 * sign stuff` samples, and the splice keeps the first and the last pair.
A sample `x` of the splice comes out as `scaleExact v x` at unity gain and above and within one
of it below, so at unity gain a frame of 16-bit samples comes out as the splice itself. -/
theorem apply_is_scaled_splice (s : Stuffer) (hs : s.DitherBounded) (frame : List Int)
    (hlen : frame.length < Nat.pow 2 64) (stuff v : Int) :
    ∃ S, IsSplice frame stuff S ∧ (s.apply frame stuff v).1 = scaleSamples s v S ∧
      (3 ≤ frame.length / 2 →
        ((s.apply frame stuff v).1.length : Int) = frame.length + 2 * stuff.sign ∧
          frame.take 2 <+: S ∧ frame.drop (2 * (frame.length / 2 - 1)) <:+ S) ∧
      (unityGain ≤ v → scaleSamples s v S = S.map (scaleExact v)) ∧
      (v < unityGain → List.Forall₂ (fun y x => |y - scaleExact v x| ≤ 1) (scaleSamples s v S) S) ∧
      (v = unityGain → (∀ x ∈ frame, IsSample x) → (s.apply frame stuff v).1 = S) := by
  obtain ⟨S, hS, hout⟩ := apply_eq_scaleSamples s hlen stuff v
  refine ⟨S, hS, hout, fun hp => ⟨?_, hS.keeps_ends hp⟩, fun hv => scaleSamples_of_unity_le s hv S,
    fun hv => hs.scaleSamples hv S, fun hv hframe => ?_⟩
  · rw [hout, length_scaleSamples, hS.length hp]
  · rw [hout, hv, scaleSamples_unity s (hS.samples hframe)]

/-- A pair inserted into a ramp of four pairs just below unity gain, from a fresh stuffer. -/
theorem apply_is_scaled_splice_ramp :
    let s := create (ChaChaRng.ofSeed 2)
    let frame : List Int := [0, 0, 10, -10, 20, -20, 30, -30]
    let v := unityGain - 1
    (s.DitherBounded ∧ frame.length < Nat.pow 2 64) ∧
      ∃ S, IsSplice frame 1 S ∧ (s.apply frame 1 v).1 = scaleSamples s v S ∧
        (3 ≤ frame.length / 2 →
          ((s.apply frame 1 v).1.length : Int) = frame.length + 2 * (1 : Int).sign ∧
            frame.take 2 <+: S ∧ frame.drop (2 * (frame.length / 2 - 1)) <:+ S) ∧
        (unityGain ≤ v → scaleSamples s v S = S.map (scaleExact v)) ∧
        (v < unityGain → List.Forall₂ (fun y x => |y - scaleExact v x| ≤ 1) (scaleSamples s v S) S) ∧
        (v = unityGain → (∀ x ∈ frame, IsSample x) → (s.apply frame 1 v).1 = S) := by
  intro s frame v
  exact ⟨⟨create_ditherBounded _, by decide⟩,
    apply_is_scaled_splice s (create_ditherBounded _) frame (by decide) 1 v⟩

end Stuffer

end Playout
