import Mathlib
import Playout.Volume

/-!
# The fixed-point gain stays within unity

The software gain is `65536 * g` truncated to an integer, for the linear gain `g` clamped to
`[0, 1]`. In floating point the clamp lets NaN and `-0.0` through, and those give zero. For a
number in `(0, 1]` the product is exact, since multiplying by a power of two only moves the
exponent, and its truncation is at most `2^16`.

The argument follows the IEEE model of floats: a number unpacks to a canonical mantissa and
exponent, a product that loses no bit rounds exactly, packing and unpacking a canonical number
gives it back, and conversion to an integer shifts the mantissa down to exponent zero.
-/

namespace Playout

open Float.Model Float.Model.UnpackedFloat

/-! ## Shifting a mantissa -/

namespace ExtendedMantissa

theorem shiftRight_zero (em : ExtendedMantissa) : em >>> 0 = em := rfl

theorem shiftRight_succ (em : ExtendedMantissa) (k : Nat) : em >>> (k + 1) = (em >>> k).shiftRightOne := rfl

theorem mantissa_shiftRight (em : ExtendedMantissa) (k : Nat) : (em >>> k).mantissa = em.mantissa / 2 ^ k := by
  induction k with
  | zero => simp [shiftRight_zero]
  | succ k ih =>
    rw [shiftRight_succ]
    show (em >>> k).mantissa / 2 = _
    rw [ih, Nat.div_div_eq_div_mul, Nat.pow_succ]

theorem shiftRight_exact (n k : Nat) : (⟨2 ^ k * n, false, false⟩ : ExtendedMantissa) >>> k = ⟨n, false, false⟩ := by
  induction k generalizing n with
  | zero => simp [shiftRight_zero]
  | succ k ih =>
    rw [shiftRight_succ, Nat.pow_succ, Nat.mul_assoc, ih]
    simp [ExtendedMantissa.shiftRightOne]

end ExtendedMantissa

theorem log2_two_pow_mul {n : Nat} (hn : n ≠ 0) (s : Nat) : (2 ^ s * n).log2 = s + n.log2 := by
  have hpos : 2 ^ s * n ≠ 0 := Nat.mul_ne_zero (by positivity) hn
  have hlo : 2 ^ (s + n.log2) ≤ 2 ^ s * n := by
    rw [Nat.pow_add]
    exact Nat.mul_le_mul_left _ (Nat.log2_self_le hn)
  have hhi : 2 ^ s * n < 2 ^ (s + n.log2 + 1) := by
    rw [Nat.add_assoc, Nat.pow_add]
    exact Nat.mul_lt_mul_of_pos_left Nat.lt_log2_self (by positivity)
  have h₁ := (Nat.le_log2 hpos).2 hlo
  have h₂ := (Nat.log2_lt hpos).2 hhi
  omega

theorem log2_eq_of_le_of_lt {n k : Nat} (hlo : 2 ^ k ≤ n) (hhi : n < 2 ^ (k + 1)) : n.log2 = k := by
  have hn : n ≠ 0 := by
    have := Nat.one_le_two_pow (n := k)
    omega
  have h₁ := (Nat.le_log2 hn).2 hlo
  have h₂ := (Nat.log2_lt hn).2 hhi
  omega

/-! ## Canonical numbers -/

/-- A finite double as unpacking gives it: its exponent is the one its leading bit calls for,
and it does not overflow. -/
def Canonical (n : Nat) (e : Int) : Prop :=
  e = Format.binary64.targetExponent (totalExponent n e) ∧ e ≤ 971

theorem targetExponent_binary64 (t : Int) : Format.binary64.targetExponent t = max (t - 53) (-1074) := rfl

theorem totalExponent_eq (n : Nat) (e : Int) : totalExponent n e = n.log2 + 1 + e := rfl

/-- A canonical number is normal, with 53 significant bits, or subnormal at the least exponent. -/
theorem Canonical.cases {n : Nat} {e : Int} (h : Canonical n e) :
    (n.log2 = 52 ∧ -1074 ≤ e ∧ e ≤ 971) ∨ (n.log2 < 52 ∧ e = -1074) := by
  obtain ⟨he, hmax⟩ := h
  rw [targetExponent_binary64, totalExponent_eq] at he
  omega

theorem toNat_one_append (v : BitVec 52) : (1#1 ++ v).toNat = 2 ^ 52 + v.toNat := by
  rw [BitVec.toNat_append, ← Nat.shiftLeft_add_eq_or_of_lt v.isLt, Nat.shiftLeft_eq]
  simp

theorem canonical_of_unpack {b : BitVec 64} {s : Sign} {m : Nat} {e : Int} {hm : 0 < m}
    (h : UnpackedFloat.unpack Format.binary64 b = .finite s m e hm) : Canonical m e := by
  have hlt : (@unpackExponent Format.binary64 b).toNat < 2048 := BitVec.isLt _
  have hv : (@unpackMantissa Format.binary64 b).toNat < 2 ^ 52 := BitVec.isLt _
  unfold UnpackedFloat.unpack at h
  dsimp only at h
  split at h
  · split at h <;> cases h
  · rename_i hmax
    split at h
    · rename_i hzero
      split at h
      · cases h
      · cases h
        -- a subnormal number: below `2^52` at the least exponent
        have hexp : (@unpackExponent Format.binary64 b).toNat = 0 := by rw [hzero]; rfl
        have hlog : (@unpackMantissa Format.binary64 b).toNat.log2 < 52 :=
          (Nat.log2_lt (by omega)).2 hv
        refine ⟨?_, ?_⟩
        · rw [targetExponent_binary64, totalExponent_eq, hexp]
          simp only [Format.exponentBias]
          omega
        · rw [hexp]
          simp only [Format.exponentBias]
          omega
    · rename_i hzero
      cases h
      -- a normal number: the implicit bit on top of 52 stored bits
      have hexp : (@unpackExponent Format.binary64 b).toNat ≠ 0 := by
        intro h0
        exact hzero (BitVec.eq_of_toNat_eq (by simpa using h0))
      have hexp' : (@unpackExponent Format.binary64 b).toNat ≠ 2047 := by
        intro h0
        exact hmax (BitVec.eq_of_toNat_eq (by simpa using h0))
      have hlog : (1#1 ++ @unpackMantissa Format.binary64 b).toNat.log2 = 52 := by
        rw [toNat_one_append]
        exact log2_eq_of_le_of_lt (by omega) (by omega)
      refine ⟨?_, ?_⟩
      · rw [targetExponent_binary64, totalExponent_eq, hlog]
        simp only [Format.exponentBias]
        omega
      · simp only [Format.exponentBias]
        omega

theorem unpack_pack_canonical {n : Nat} {e : Int} (hn : 0 < n) (h : Canonical n e) :
    UnpackedFloat.unpack Format.binary64 (UnpackedFloat.pack Format.binary64 (.finite .positive n e hn)) =
      .finite .positive n e hn := by
  rcases h.cases with ⟨hlog, hlo, hhi⟩ | ⟨hlog, rfl⟩
  · -- a normal number keeps its biased exponent and drops its implicit bit
    have hnlo : 2 ^ 52 ≤ n := (Nat.le_log2 (by omega)).1 (by omega)
    have hnhi : n < 2 ^ 53 := (Nat.log2_lt (by omega)).1 (by omega)
    unfold UnpackedFloat.pack
    dsimp only
    rw [if_neg (by simp [Format.exponentBias]; omega), if_pos (by simp [Format.mantissaBits, hlog])]
    unfold UnpackedFloat.unpack
    simp only [unpackMantissa_packComponents, unpackExponent_packComponents, unpackSign_packComponents,
      Sign.ofBitVec_toBitVec]
    have hb : (e + ↑Format.binary64.exponentBias + ((52 : Nat) : Int)).toNat = (e + 1075).toNat := by
      simp only [Format.exponentBias]
      omega
    have hexp : (BitVec.ofNat 11 (e + 1075).toNat).toNat = (e + 1075).toNat := by
      rw [BitVec.toNat_ofNat]
      omega
    have hmant : (1#1 ++ BitVec.ofNat 52 n).toNat = n := by
      rw [toNat_one_append, BitVec.toNat_ofNat]
      omega
    -- the stored exponent is neither all ones nor zero
    have hstored : ∀ c : BitVec 11, c.toNat ≠ (e + 1075).toNat → BitVec.ofNat 11 (e + 1075).toNat ≠ c :=
      fun c hc => BitVec.toNat_ne.2 (by rw [hexp]; exact hc.symm)
    rw [hb, if_neg (hstored _ (by simp; omega)), if_neg (hstored _ (by simp; omega))]
    simp only [hmant, hexp, finite.injEq, true_and]
    simp only [Format.exponentBias]
    omega
  · -- a subnormal number is stored as it is, under a zero exponent
    have hnhi : n < 2 ^ 52 := (Nat.log2_lt (by omega)).1 hlog
    unfold UnpackedFloat.pack
    dsimp only
    rw [if_neg (by simp [Format.exponentBias]), if_neg (by simp [Format.mantissaBits]; omega)]
    unfold UnpackedFloat.unpack
    simp only [unpackMantissa_packComponents, unpackExponent_packComponents, unpackSign_packComponents,
      Sign.ofBitVec_toBitVec]
    have hmant : (BitVec.ofNat 52 n).toNat = n := by
      rw [BitVec.toNat_ofNat]
      omega
    rw [if_neg (by decide), if_pos trivial, dif_neg (BitVec.toNat_ne.2 (by rw [hmant]; simp; omega))]
    simp only [hmant, finite.injEq, true_and]
    simp [Format.exponentBias]

/-! ## Exact products -/

theorem totalExponent_two_pow_mul {n : Nat} (hn : 0 < n) (s : Nat) (E : Int) :
    totalExponent (2 ^ s * n) E = totalExponent n (E + s) := by
  simp only [totalExponent, log2_two_pow_mul (Nat.pos_iff_ne_zero.1 hn)]
  push_cast
  ring

/-- A mantissa with `s` zero bits below the exponent its leading bit calls for rounds exactly. -/
theorem roundWithAccuracy_exact {spec : Format} {sign : Sign} {n s : Nat} {E : Int} (hn : 0 < n)
    (hs : (s : Int) = spec.targetExponent (totalExponent (2 ^ s * n) E) - E) :
    roundWithAccuracy spec sign (2 ^ s * n) E .exact = .finite sign n (E + s) hn := by
  have htotal := (totalExponent_two_pow_mul hn s E).symm
  have hts : (spec.targetExponent (totalExponent (2 ^ s * n) E) - E).toNat = s := by omega
  have hexact : ∀ m, ExtendedMantissa.ofMantissaAndAccuracy m .exact = ⟨m, false, false⟩ := fun _ => rfl
  have hround : (⟨n, false, false⟩ : ExtendedMantissa).roundedMantissa = n := rfl
  have hsecond : (spec.targetExponent (totalExponent n (E + s)) - (E + s)).toNat = 0 := by
    rw [htotal]
    omega
  unfold roundWithAccuracy shiftToTargetExponent shiftToExponent
  dsimp only
  -- the first shift drops only zeros, and the second has nothing left to drop
  simp only [hts, hexact, ExtendedMantissa.shiftRight_exact, hround, hsecond, ExtendedMantissa.shiftRight_zero]
  rw [dif_neg (Nat.pos_iff_ne_zero.1 hn)]
  simp

/-- Converting a number below the units to an integer shifts its mantissa down to them. -/
theorem roundToInt_of_nonpos {n : Nat} {e : Int} (he : e ≤ 0) :
    roundToInt .positive n e = ((n / 2 ^ (-e).toNat : Nat) : Int) := by
  have hdown : (e - 0).toNat = 0 := by omega
  have hup : (0 - (e - ((e - 0).toNat : Nat))).toNat = (-e).toNat := by omega
  unfold roundToInt decreaseExponent shiftToExponent
  dsimp only
  rw [hup, ExtendedMantissa.mantissa_shiftRight, hdown, Nat.shiftLeft_zero]
  rfl

/-! ## Scaling by `2^16` -/

/-- Scaling a canonical number of at most one by `2^16` is exact, and it truncates to at most
`2^16`. -/
theorem toInt_scale_le {m : Nat} {e : Int} (hm : 0 < m) (hc : Canonical m e) (he : e ≤ -52)
    (hle : m ≤ 2 ^ (-e).toNat) :
    (UnpackedFloat.unpack .binary64 (UnpackedFloat.pack .binary64 (UnpackedFloat.mul .binary64
      (.finite .positive (2 ^ 52) (-36) (by decide)) (.finite .positive m e hm)))).toInt 0 (UInt32.size - 1) ≤ 65536 := by
  -- the product's mantissa `2^52 * m` has `s` zero bits below the exponent it calls for
  have hcases := hc.cases
  have hT : Format.binary64.targetExponent (totalExponent (2 ^ 52 * m) (-36 + e)) - (-36 + e) =
      max (m.log2 : Int) (-1038 - e) := by
    rw [targetExponent_binary64, totalExponent_eq, log2_two_pow_mul (Nat.pos_iff_ne_zero.1 hm)]
    omega
  obtain ⟨s, hs, hs52⟩ : ∃ s : Nat, (s : Int) = max (m.log2 : Int) (-1038 - e) ∧ s ≤ 52 :=
    ⟨(max (m.log2 : Int) (-1038 - e)).toNat, by omega, by omega⟩
  have hpos : 0 < 2 ^ (52 - s) * m := Nat.mul_pos (by positivity) hm
  have hsplit : 2 ^ 52 * m = 2 ^ s * (2 ^ (52 - s) * m) := by
    rw [← Nat.mul_assoc, ← Nat.pow_add, Nat.add_sub_cancel' hs52]
  have hmul : UnpackedFloat.mul .binary64 (.finite .positive (2 ^ 52) (-36) (by decide)) (.finite .positive m e hm) =
      .finite .positive (2 ^ (52 - s) * m) (-36 + e + s) hpos := by
    show roundWithAccuracy .binary64 .positive (2 ^ 52 * m) (-36 + e) .exact = _
    simp only [hsplit]
    exact roundWithAccuracy_exact hpos (by rw [← hsplit, hT, hs])
  -- the product is canonical: rounding put it at the exponent its leading bit calls for
  have hcanon : Canonical (2 ^ (52 - s) * m) (-36 + e + s) := by
    have htarget := totalExponent_two_pow_mul hpos s (-36 + e)
    rw [← hsplit] at htarget
    refine ⟨?_, by omega⟩
    rw [← htarget]
    omega
  rw [hmul, unpack_pack_canonical hpos hcanon]
  show roundToInt .positive (2 ^ (52 - s) * m) (-36 + e + s) ≤ 65536
  rw [roundToInt_of_nonpos (by omega)]
  -- `2^(52 - s) * m ≤ 2^(52 - s - e)`, which is `2^16` units at exponent `-36 + e + s`
  obtain ⟨a, ha⟩ : ∃ a : Nat, (a : Int) = -e := ⟨(-e).toNat, by omega⟩
  have hexp : (-(-36 + e + s)).toNat = 36 + a - s := by omega
  have hma : m ≤ 2 ^ a := by rwa [show (-e).toNat = a by omega] at hle
  have hbound : 2 ^ (52 - s) * m ≤ 2 ^ (36 + a - s) * 65536 := by
    calc 2 ^ (52 - s) * m ≤ 2 ^ (52 - s) * 2 ^ a := Nat.mul_le_mul_left _ hma
      _ = 2 ^ (36 + a - s) * 2 ^ 16 := by rw [← Nat.pow_add, ← Nat.pow_add]; congr 1; omega
  rw [hexp]
  exact_mod_cast Nat.div_le_of_le_mul hbound

/-! ## The gain -/

theorem toNat_ofNatClamp_le (n : Nat) : (UInt32.ofNatClamp n).toNat ≤ n := by
  unfold UInt32.ofNatClamp
  split
  · simp
  · simp only [UInt32.toNat_ofNatLT]
    omega

theorem float_lt_iff (a b : Float) : a < b ↔ a.toModel.unpack.lt b.toModel.unpack = true := by
  simp only [LT.lt, Float.lt, Float.Model.lt]
  exact ⟨of_decide_eq_true, decide_eq_true⟩

/-- A positive number that is not above one has an exponent of at most `-52`, and of exactly
`-52` only for one itself. -/
theorem le_one_of_not_lt {m : Nat} {e : Int} {hm : 0 < m}
    (h : ¬ (UnpackedFloat.finite .positive (2 ^ 52) (-52) (by decide)).lt (.finite .positive m e hm) = true) :
    e ≤ -52 ∧ (e = -52 → m ≤ 2 ^ 52) := by
  simp only [UnpackedFloat.lt, UnpackedFloat.compare] at h
  constructor
  · by_contra hgt
    have hcmp : compare (-52 : Int) e = .lt := compare_lt_iff_lt.2 (by omega)
    simp [hcmp] at h
  · rintro rfl
    by_contra hgt
    have hcmp : compare (2 ^ 52 : Nat) m = .lt := compare_lt_iff_lt.2 (by omega)
    simp only [compare_eq_iff_eq.2 rfl, hcmp] at h
    exact h rfl

theorem scale_toUInt32 (l : Float) :
    (65536.0 * l).toUInt32 = (UnpackedFloat.unpack .binary64 (UnpackedFloat.pack .binary64
      (UnpackedFloat.mul .binary64 (.finite .positive (2 ^ 52) (-36) (by decide)) l.toModel.unpack))).toUInt32 :=
  rfl

/-- A linear gain of at most one scales to at most unity in fixed point: zero, NaN and the
numbers of `(0, 1]` all land in `[0, 2^16]`. -/
theorem scale_le_of_not_lt {l : Float} (hlo : ¬ l < 0.0) (hhi : ¬ l > 1.0) :
    (65536.0 * l).toUInt32.toNat ≤ 65536 := by
  rw [float_lt_iff] at hlo
  rw [gt_iff_lt, float_lt_iff] at hhi
  rw [scale_toUInt32]
  have hcanon : ∀ {s m e hm}, l.toModel.unpack = .finite s m e hm → Canonical m e :=
    fun h => canonical_of_unpack h
  generalize l.toModel.unpack = u at hlo hhi hcanon
  cases u with
  | notANumber => decide +kernel
  | infinity s =>
    cases s
    · exact absurd rfl hlo
    · exact absurd rfl hhi
  | zero s => cases s <;> decide +kernel
  | finite s m e hm =>
    cases s
    · exact absurd rfl hlo
    · -- a positive number: at most one, so `m ≤ 2^(-e)`
      obtain ⟨he, hone⟩ := le_one_of_not_lt hhi
      have hc : Canonical m e := hcanon rfl
      have hle : m ≤ 2 ^ (-e).toNat := by
        rcases hc.cases with ⟨hlog, -, -⟩ | ⟨hlog, rfl⟩
        · have hm53 : m < 2 ^ 53 := (Nat.log2_lt (by omega)).1 (by omega)
          by_cases h52 : e = -52
          · rw [h52]
            exact hone h52
          · calc m ≤ 2 ^ 53 := hm53.le
              _ ≤ 2 ^ (-e).toNat := Nat.pow_le_pow_right (by decide) (by omega)
        · have hm52 : m < 2 ^ 52 := (Nat.log2_lt (by omega)).1 hlog
          calc m ≤ 2 ^ 52 := hm52.le
            _ ≤ 2 ^ (-(-1074 : Int)).toNat := Nat.pow_le_pow_right (by decide) (by decide)
      have hint := toInt_scale_le hm hc he hle
      exact (toNat_ofNatClamp_le _).trans (by omega)

/-- The fixed-point gain of any linear gain lies between zero and unity. -/
theorem linearToFixed_mem (l : Float) : 0 ≤ linearToFixed l ∧ linearToFixed l ≤ unityGain := by
  refine ⟨Int.natCast_nonneg _, ?_⟩
  unfold linearToFixed clampF unityGain
  by_cases hlo : l < 0.0
  · rw [if_pos hlo]
    decide +kernel
  · by_cases hhi : l > 1.0
    · rw [if_neg hlo, if_pos hhi]
      decide +kernel
    · rw [if_neg hlo, if_neg hhi]
      exact_mod_cast scale_le_of_not_lt hlo hhi

end Playout
