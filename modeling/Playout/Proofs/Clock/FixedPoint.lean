import Playout.Proofs.Engine.LeadIn

/-!
# Fixed-point clock conversions

Local time is 32.32 fixed point. A sample count becomes a span by a division that truncates
toward zero, and a span becomes samples again by rounding to nearest, halves up. The first drops
less than one unit, and a unit is `rate / 2^32` of a sample: up to `2^31` samples a second that
is at most half a sample, so the round trip gives every count back (`samples_round_trip_of_le`).
At higher rates the drop can reach half a sample, and then the count comes back one sample
nearer zero, except that a drop of exactly half a sample rounds back up to a count that is not
negative (`samples_round_trip`): two samples at `3221225471` a second come back as one
(`samples_round_trip_short_near_two_pow_32`).

The reference clock places a timestamp `n` samples past its anchor at the anchor's time plus the
span of `n` samples, for every `n` of the signed 32-bit range, across the wrap of the timestamp
(`predict_after_anchor`). A duration goes to fixed point and back to the same seconds, at most
one nanosecond short (`duration_round_trip`).
-/

namespace Playout

/-! ## Sample counts -/

/-- What the truncating division drops when `n` samples are measured in fixed point at `rate`,
in units of `1 / rate` of a fixed-point unit, that is of `2^-32` samples. -/
def spanRemainder (n : Int) (rate : Nat) : Nat := n.natAbs * Nat.pow 2 32 % rate

/-- `n` samples come back whole from fixed point at `rate`: the part of a sample that the
measure dropped is below one half, or exactly one half for a count that rounding up leads back
to, one that is not negative. -/
def RoundTripExact (n : Int) (rate : Nat) : Prop :=
  spanRemainder n rate < Nat.pow 2 31 ∨ (spanRemainder n rate = Nat.pow 2 31 ∧ 0 ≤ n)

instance instDecidableRoundTripExact (n : Int) (rate : Nat) : Decidable (RoundTripExact n rate) :=
  inferInstanceAs (Decidable (_ ∨ _))

theorem fixedSpan_mul_rate (m rate : Nat) :
    (fixedSpan m rate : Int) * rate = m * Nat.pow 2 32 - spanRemainder m rate := by
  have hsplit : fixedSpan m rate * rate + spanRemainder m rate = m * Nat.pow 2 32 := by
    unfold fixedSpan spanRemainder
    rw [Int.natAbs_natCast, Nat.mul_comm _ rate]
    exact Nat.div_add_mod _ _
  omega

@[simp] theorem spanRemainder_zero (rate : Nat) : spanRemainder 0 rate = 0 := by
  simp [spanRemainder]

theorem spanRemainder_neg (n : Int) (rate : Nat) : spanRemainder (-n) rate = spanRemainder n rate := by
  unfold spanRemainder
  rw [Int.natAbs_neg]

theorem samplesToFixed_neg {m : Nat} (rate : Nat) (small : m < Nat.pow 2 31) :
    samplesToFixed (-(m : Int)) rate = -(fixedSpan m rate : Int) := by
  unfold samplesToFixed fixedSpan
  rw [wrapSigned_of_mem (by rw [pow_two_63, pow_two_32]; rw [pow_two_31] at small; omega) (by rw [pow_two_63, pow_two_32]; omega)]
  rw [Int.neg_mul, Int.neg_tdiv, ← Int.natCast_mul, ← Int.ofNat_tdiv]

/-- The samples in a span of `t` units, while `t * rate` is far from the ends of the word. -/
theorem fixedToSamples_eq {t : Int} {rate : Nat} (lo : -Nat.pow 2 94 ≤ t * rate)
    (hi : t * rate < Nat.pow 2 94) : fixedToSamples t rate = (t * rate + Nat.pow 2 31) / Nat.pow 2 32 := by
  unfold fixedToSamples
  rw [pow_two_31, pow_two_32]
  rw [pow_two_94] at lo hi
  apply wrapSigned_of_mem <;> rw [pow_two_63] <;> omega

theorem samples_round_trip_natCast {m rate : Nat} (positive : 0 < rate) (fits : rate < Nat.pow 2 32)
    (small : m < Nat.pow 2 31) :
    fixedToSamples (samplesToFixed m rate) rate =
      if spanRemainder m rate ≤ Nat.pow 2 31 then (m : Int) else m - 1 := by
  have hrem : spanRemainder m rate < rate := Nat.mod_lt _ positive
  have hm : m < 2147483648 := small
  have hr : rate < 4294967296 := fits
  have hspan := fixedSpan_mul_rate m rate
  rw [pow_two_32] at hspan
  rw [samplesToFixed_of_lt rate small,
    fixedToSamples_eq (by rw [hspan, pow_two_94]; omega) (by rw [hspan, pow_two_94]; omega), hspan, pow_two_31, pow_two_32]
  split <;> omega

theorem samples_round_trip_neg {m rate : Nat} (positive : 0 < rate) (fits : rate < Nat.pow 2 32)
    (small : m < Nat.pow 2 31) :
    fixedToSamples (samplesToFixed (-(m : Int)) rate) rate =
      if spanRemainder m rate < Nat.pow 2 31 then -(m : Int) else -(m : Int) + 1 := by
  have hrem : spanRemainder m rate < rate := Nat.mod_lt _ positive
  have hm : m < 2147483648 := small
  have hr : rate < 4294967296 := fits
  have hspan := fixedSpan_mul_rate m rate
  rw [pow_two_32] at hspan
  rw [samplesToFixed_neg rate small, fixedToSamples_eq (by rw [Int.neg_mul, hspan, pow_two_94]; omega)
    (by rw [Int.neg_mul, hspan, pow_two_94]; omega), Int.neg_mul, hspan, pow_two_31, pow_two_32]
  split <;> omega

/-- A count of samples measured in fixed point and rounded back is the count itself when the
measure dropped less than half a sample (`RoundTripExact`), and otherwise one sample nearer
zero. -/
theorem samples_round_trip {n : Int} {rate : Nat} (positive : 0 < rate) (fits : rate < Nat.pow 2 32)
    (small : n.natAbs < Nat.pow 2 31) :
    fixedToSamples (samplesToFixed n rate) rate = if RoundTripExact n rate then n else n - n.sign := by
  -- truncation toward zero measures a count by its magnitude, and only the rounding back sees
  -- the sign: halves round up, toward a count that is not negative and away from one that is
  obtain ⟨m, rfl | rfl⟩ : ∃ m : Nat, n = m ∨ n = -m := ⟨n.natAbs, Int.natAbs_eq n⟩
  · rw [Int.natAbs_natCast] at small
    rw [samples_round_trip_natCast positive fits small]
    by_cases half : spanRemainder m rate ≤ Nat.pow 2 31
    · have exact : RoundTripExact m rate :=
        (Nat.lt_or_eq_of_le half).imp_right fun h => ⟨h, Int.natCast_nonneg m⟩
      rw [if_pos half, if_pos exact]
    · have inexact : ¬ RoundTripExact m rate := fun h => half (h.elim Nat.le_of_lt fun h => h.1.le)
      have hm : 0 < m := Nat.pos_of_ne_zero (by rintro rfl; simp at half)
      rw [if_neg half, if_neg inexact, Int.sign_eq_one_of_pos (by omega)]
  · rw [Int.natAbs_neg, Int.natAbs_natCast] at small
    rw [samples_round_trip_neg positive fits small]
    by_cases below : spanRemainder m rate < Nat.pow 2 31
    · have exact : RoundTripExact (-m) rate := Or.inl (by rw [spanRemainder_neg]; exact below)
      rw [if_pos below, if_pos exact]
    · have hm : 0 < m := Nat.pos_of_ne_zero (by rintro rfl; simp at below)
      have inexact : ¬ RoundTripExact (-m) rate := fun h =>
        h.elim (fun h => below (by rwa [spanRemainder_neg] at h)) fun h => absurd h.2 (by omega)
      rw [if_neg below, if_neg inexact, Int.sign_eq_neg_one_of_neg (by omega)]
      omega

theorem roundTripExact_of_le {n : Int} {rate : Nat} (positive : 0 < rate) (slow : rate ≤ Nat.pow 2 31) :
    RoundTripExact n rate :=
  Or.inl (Nat.lt_of_lt_of_le (Nat.mod_lt _ positive) slow)

theorem samples_round_trip_of_le {n : Int} {rate : Nat} (positive : 0 < rate) (slow : rate ≤ Nat.pow 2 31)
    (small : n.natAbs < Nat.pow 2 31) : fixedToSamples (samplesToFixed n rate) rate = n := by
  have fits : rate < Nat.pow 2 32 := Nat.lt_of_le_of_lt slow (by decide)
  rw [samples_round_trip positive fits small, if_pos (roundTripExact_of_le positive slow)]

/-- Two samples at `3221225471` a second span `2.67` units, truncated to `2`, and two units are
`1.4999999995` samples, rounded to one. -/
theorem samples_round_trip_short_near_two_pow_32 :
    samplesToFixed 2 3221225471 = 2 ∧ fixedToSamples (samplesToFixed 2 3221225471) 3221225471 = 1 := by
  decide

/-! ## The reference clock -/

theorem signed32_ofInt {n : Int} (small : n.natAbs < Nat.pow 2 31) : signed32 (UInt32.ofInt n) = n := by
  have h31 : Nat.pow 2 (32 - 1) = 2147483648 := rfl
  have hn : n.natAbs < 2147483648 := small
  unfold signed32 signedOf UInt32.ofInt
  rw [UInt32.toNat_ofNat', h31, pow_two_32]
  split <;> omega

theorem predict_of_anchor {c : ReferenceClock} {a : Anchor} (anchored : c.anchor = some a)
    (rate : c.sampleRate ≠ 0) (ts : UInt32) :
    c.predict ts = .ok (some (addSaturating a.localTime
      (samplesToFixed (signed32 (ts - a.rtpTimestamp)) c.sampleRate.toNat))) := by
  have hrate : c.sampleRate.toNat ≠ 0 := fun h0 => rate (UInt32.toNat_inj.1 h0)
  unfold ReferenceClock.predict
  rw [anchored]
  simp [samplesToFixedChecked, hrate, bind, Except.bind, pure, Except.pure]

theorem addSaturating_toNat {t : UInt64} {d : Int} (lo : 0 ≤ t.toNat + d) (hi : t.toNat + d < Nat.pow 2 64) :
    ((addSaturating t d).toNat : Int) = t.toNat + d := by
  have h64' : (2 : Nat) ^ 64 = 18446744073709551616 := rfl
  rw [pow_two_64] at hi
  unfold addSaturating
  rw [if_neg (by omega), if_neg (by rw [pow_two_64]; omega), UInt64.toNat_ofNat', h64']
  omega

/-- A timestamp `n` samples past the anchor, across the wrap of the timestamp, is predicted at
the anchor's time plus the span of `n` samples, as long as that time fits the word. -/
theorem predict_after_anchor {c : ReferenceClock} {a : Anchor} (anchored : c.anchor = some a)
    (rate : c.sampleRate ≠ 0) {n : Int} (small : n.natAbs < Nat.pow 2 31)
    (lo : 0 ≤ a.localTime.toNat + samplesToFixed n c.sampleRate.toNat)
    (hi : a.localTime.toNat + samplesToFixed n c.sampleRate.toNat < Nat.pow 2 64) :
    ∃ t, c.predict (a.rtpTimestamp + UInt32.ofInt n) = .ok (some t) ∧
      (t.toNat : Int) = a.localTime.toNat + samplesToFixed n c.sampleRate.toNat := by
  refine ⟨_, predict_of_anchor anchored rate _, ?_⟩
  rw [UInt32.add_comm, UInt32.add_sub_cancel, signed32_ofInt small]
  exact addSaturating_toNat lo hi

/-! ## Durations -/

theorem durationToFixed_toNat {secs : UInt64} {nanos : Nat} (whole : secs.toNat < Nat.pow 2 32)
    (subsec : nanos < 1000000000) :
    (durationToFixed secs nanos).toNat = secs.toNat * Nat.pow 2 32 + nanos * Nat.pow 2 32 / 1000000000 := by
  have h64 : (2 : Nat) ^ 64 = 18446744073709551616 := rfl
  have hshift : (32 : UInt64).toNat % 64 = 32 := rfl
  unfold durationToFixed
  rw [UInt64.toNat_add, UInt64.toNat_shiftLeft, hshift, UInt64.toNat_ofNat', Nat.shiftLeft_eq, pow_two_32, h64]
  rw [pow_two_32] at whole
  omega

/-- Scaling up by `b / a` and back down, truncating both times, loses at most one when
`a ≤ b`. -/
theorem div_mul_div_bounds (n : Nat) {a b : Nat} (ha : 0 < a) (hab : a ≤ b) :
    n * b / a * a / b ≤ n ∧ n ≤ n * b / a * a / b + 1 := by
  have hb : 0 < b := Nat.lt_of_lt_of_le ha hab
  have down : n * b / a * a ≤ n * b := Nat.div_mul_le_self _ _
  have up : n * b < a * (n * b / a + 1) := Nat.lt_mul_div_succ _ ha
  rw [Nat.mul_add, Nat.mul_one, Nat.mul_comm a] at up
  constructor
  · exact Nat.div_le_of_le_mul (Nat.mul_comm b n ▸ down)
  · -- a whole `b` below `n * b` is already under what the first truncation kept
    have short : (n - 1) * b ≤ n * b / a * a := by
      rw [Nat.sub_one_mul]
      omega
    have back := (Nat.le_div_iff_mul_le hb).2 short
    omega

/-- A duration under `2^32` seconds goes to fixed point and back to the same seconds and to
nanoseconds at most one short: both conversions truncate, and a unit is less than a nanosecond. -/
theorem duration_round_trip {secs : UInt64} {nanos : Nat} (whole : secs.toNat < Nat.pow 2 32)
    (subsec : nanos < 1000000000) :
    (fixedToDuration (durationToFixed secs nanos)).1 = secs ∧
      (fixedToDuration (durationToFixed secs nanos)).2 ≤ nanos ∧
      nanos ≤ (fixedToDuration (durationToFixed secs nanos)).2 + 1 := by
  have hshift : (32 : UInt64).toNat % 64 = 32 := rfl
  have hfixed := durationToFixed_toNat whole subsec
  -- the fraction of a second, in units, stays below a second
  have hf : nanos * Nat.pow 2 32 / 1000000000 < Nat.pow 2 32 :=
    Nat.div_lt_of_lt_mul (Nat.mul_lt_mul_of_pos_right subsec (Nat.two_pow_pos 32))
  have hfrac : (durationToFixed secs nanos).toNat % Nat.pow 2 32 = nanos * Nat.pow 2 32 / 1000000000 := by
    rw [hfixed, Nat.mul_add_mod_self_right, Nat.mod_eq_of_lt hf]
  obtain ⟨short, long⟩ := div_mul_div_bounds nanos (show 0 < 1000000000 by omega)
    (show 1000000000 ≤ Nat.pow 2 32 by rw [pow_two_32]; omega)
  unfold fixedToDuration
  refine ⟨?_, ?_, ?_⟩
  · rw [← UInt64.toNat_inj, UInt64.toNat_shiftRight, hshift, Nat.shiftRight_eq_div_pow, hfixed]
    rw [pow_two_32] at hf whole ⊢
    omega
  · rw [hfrac]
    exact short
  · rw [hfrac]
    exact long

/-! ## The conversions together -/

/-- The clock's conversions agree with each other. A sample count of the signed 32-bit range
measured in fixed point at a 32-bit rate and rounded back is the count when the measure dropped
less than half a sample, else one sample nearer zero, and always the count up to `2^31` samples
a second. A timestamp `n` samples past the anchor is predicted at the anchor's time plus that
measure whenever the sum fits, so its distance from the anchor's time rounds back the same way.
A duration under `2^32` seconds comes back with its seconds and at most a nanosecond short. -/
theorem clock_conversions_agree :
    (∀ (n : Int) (rate : Nat), 0 < rate → rate < Nat.pow 2 32 → n.natAbs < Nat.pow 2 31 →
      fixedToSamples (samplesToFixed n rate) rate = if RoundTripExact n rate then n else n - n.sign) ∧
    (∀ (n : Int) (rate : Nat), 0 < rate → rate ≤ Nat.pow 2 31 → n.natAbs < Nat.pow 2 31 →
      fixedToSamples (samplesToFixed n rate) rate = n) ∧
    (∀ (c : ReferenceClock) (a : Anchor) (n : Int), c.anchor = some a → c.sampleRate ≠ 0 →
      n.natAbs < Nat.pow 2 31 →
      0 ≤ a.localTime.toNat + samplesToFixed n c.sampleRate.toNat →
      a.localTime.toNat + samplesToFixed n c.sampleRate.toNat < Nat.pow 2 64 →
      ∃ t, c.predict (a.rtpTimestamp + UInt32.ofInt n) = .ok (some t) ∧
        (t.toNat : Int) = a.localTime.toNat + samplesToFixed n c.sampleRate.toNat ∧
        fixedToSamples (t.toNat - a.localTime.toNat) c.sampleRate.toNat =
          if RoundTripExact n c.sampleRate.toNat then n else n - n.sign) ∧
    (∀ (secs : UInt64) (nanos : Nat), secs.toNat < Nat.pow 2 32 → nanos < 1000000000 →
      (fixedToDuration (durationToFixed secs nanos)).1 = secs ∧
        (fixedToDuration (durationToFixed secs nanos)).2 ≤ nanos ∧
        nanos ≤ (fixedToDuration (durationToFixed secs nanos)).2 + 1) := by
  refine ⟨fun _ _ => samples_round_trip, fun _ _ => samples_round_trip_of_le, ?_,
    fun _ _ => duration_round_trip⟩
  intro c a n anchored rate small lo hi
  obtain ⟨t, predicted, at_offset⟩ := predict_after_anchor anchored rate small lo hi
  have positive : 0 < c.sampleRate.toNat := Nat.pos_of_ne_zero fun h0 => rate (UInt32.toNat_inj.1 h0)
  have offset : (t.toNat : Int) - a.localTime.toNat = samplesToFixed n c.sampleRate.toNat := by omega
  refine ⟨t, predicted, at_offset, ?_⟩
  rw [offset]
  exact samples_round_trip positive c.sampleRate.toNat_lt small

/-- The conversions at CD rate, with an anchor `100` samples before the timestamp wraps at five
seconds: a second of samples later is six seconds, and a second and a half comes back whole. -/
theorem clock_conversions_agree_at_cd_rate :
    fixedToSamples (samplesToFixed 2 3221225471) 3221225471 =
        (if RoundTripExact 2 3221225471 then 2 else 2 - (2 : Int).sign) ∧
      fixedToSamples (samplesToFixed 44100 44100) 44100 = 44100 ∧
      (∃ t, ({ sampleRate := 44100, anchor := some ⟨4294967195, 21474836480⟩ } : ReferenceClock).predict
          (4294967195 + UInt32.ofInt 44100) = .ok (some t) ∧
        (t.toNat : Int) = 21474836480 + samplesToFixed 44100 44100 ∧
        fixedToSamples (t.toNat - 21474836480) 44100 =
          if RoundTripExact 44100 44100 then 44100 else 44100 - (44100 : Int).sign) ∧
      ((fixedToDuration (durationToFixed 1 500000000)).1 = 1 ∧
        (fixedToDuration (durationToFixed 1 500000000)).2 ≤ 500000000 ∧
        500000000 ≤ (fixedToDuration (durationToFixed 1 500000000)).2 + 1) :=
  ⟨clock_conversions_agree.1 2 3221225471 (by decide) (by decide) (by decide),
    clock_conversions_agree.2.1 44100 44100 (by decide) (by decide) (by decide),
    clock_conversions_agree.2.2.1 ⟨44100, some ⟨4294967195, 21474836480⟩⟩ ⟨4294967195, 21474836480⟩ 44100 rfl
      (by decide) (by decide) (by decide) (by decide),
    clock_conversions_agree.2.2.2 1 500000000 (by decide) (by decide)⟩

end Playout
