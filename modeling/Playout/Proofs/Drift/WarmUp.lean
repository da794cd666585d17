import Mathlib
import Playout.Engine.Basic

/-!
# Rate correction during warm-up

While the drift controller learns the usual buffer fill it keeps the playback rate at one, and
at rate one no sample pair is inserted or dropped, whatever the random draw: the chance of
stuffing a frame, `1 - 1^n`, comes out as exactly zero in floating point, and no draw of the
random source is below zero.

A draw is a conversion of a natural number times a positive constant. Its sign is followed
through the IEEE model of floats: conversion, multiplication, rounding, packing and unpacking
all keep a plus sign, and a float without a minus sign is never below zero.
-/

namespace Playout

open Float.Model Float.Model.UnpackedFloat

/-! ## Floats without a minus sign -/

/-- An unpacked float with no minus sign: NaN, or a zero, number or infinity signed plus. -/
def unsignedFloat : UnpackedFloat → Bool
  | .infinity .negative | .zero .negative | .finite .negative .. => false
  | _ => true

@[simp] theorem unsignedFloat_notANumber : unsignedFloat .notANumber = true := rfl

@[simp] theorem unsignedFloat_infinity {s : Sign} : unsignedFloat (.infinity s) = true ↔ s = .positive := by
  cases s <;> simp [unsignedFloat]

@[simp] theorem unsignedFloat_zero {s : Sign} : unsignedFloat (.zero s) = true ↔ s = .positive := by
  cases s <;> simp [unsignedFloat]

@[simp] theorem unsignedFloat_finite {s : Sign} {m : Nat} {e : Int} {h : 0 < m} :
    unsignedFloat (.finite s m e h) = true ↔ s = .positive := by
  cases s <;> simp [unsignedFloat]

@[simp] theorem positive_mul_positive : Sign.positive * Sign.positive = .positive := rfl

theorem unsignedFloat_roundWithAccuracy (spec : Format) (m : Nat) (e : Int) (acc : Accuracy) :
    unsignedFloat (roundWithAccuracy spec .positive m e acc) = true := by
  unfold roundWithAccuracy
  dsimp only
  split <;> rfl

theorem unsignedFloat_ofNat (spec : Format) (n : Nat) : unsignedFloat (UnpackedFloat.ofNat spec n) = true := by
  unfold UnpackedFloat.ofNat UnpackedFloat.ofInt UnpackedFloat.normalize
  have hnonneg : compare (n : Int) 0 ≠ .lt := by
    rw [Ne, Int.compare_eq_lt]
    omega
  split
  · contradiction
  · rfl
  · exact unsignedFloat_roundWithAccuracy ..

theorem unsignedFloat_mul (spec : Format) {a b : UnpackedFloat} (ha : unsignedFloat a = true)
    (hb : unsignedFloat b = true) : unsignedFloat (UnpackedFloat.mul spec a b) = true := by
  -- with plus signs on both sides, each product is NaN, plus-signed, or a plus-signed rounding
  cases a <;> cases b <;> simp_all [UnpackedFloat.mul, unsignedFloat_roundWithAccuracy]

theorem unsignedFloat_ofScientific (spec : Format) (m : Nat) (e : Int) :
    unsignedFloat (UnpackedFloat.ofScientific spec m e) = true := by
  unfold UnpackedFloat.ofScientific
  split
  · rfl
  split
  · rfl
  split
  · rfl
  split
  · exact unsignedFloat_mul _ rfl rfl
  · -- a quotient of two plus-signed numbers is a plus-signed rounding
    exact unsignedFloat_roundWithAccuracy ..

/-! ## The sign bit -/

theorem unpackSign_pack (spec : Format) {u : UnpackedFloat} (h : unsignedFloat u = true) :
    unpackSign (UnpackedFloat.pack spec u) = 0#1 := by
  cases u with
  | notANumber => simp [UnpackedFloat.pack, packedNaN, Sign.toBitVec]
  | infinity s =>
    rw [unsignedFloat_infinity] at h
    simp [UnpackedFloat.pack, packedInfinity, h, Sign.toBitVec]
  | zero s =>
    rw [unsignedFloat_zero] at h
    simp [UnpackedFloat.pack, packedZero, h, Sign.toBitVec]
  | finite s m e hm =>
    rw [unsignedFloat_finite] at h
    unfold UnpackedFloat.pack
    dsimp only
    split
    · simp [packedInfinity, h, Sign.toBitVec]
    · split <;> simp [h, Sign.toBitVec]

theorem unsignedFloat_unpack (spec : Format) {b : BitVec spec.numBits} (h : unpackSign b = 0#1) :
    unsignedFloat (UnpackedFloat.unpack spec b) = true := by
  unfold UnpackedFloat.unpack
  simp only [h]
  split
  · split <;> rfl
  · split
    · split <;> rfl
    · rfl

theorem unsignedFloat_pack {u : UnpackedFloat} (h : unsignedFloat u = true) :
    unsignedFloat (Float.Model.pack u).unpack = true :=
  unsignedFloat_unpack _ (unpackSign_pack _ h)

/-! ## Floats -/

theorem unsignedFloat_floatOfNat (n : Nat) : unsignedFloat (Float.ofNat n).toModel.unpack = true := by
  unfold Float.ofNat
  show unsignedFloat (Float.ofScientific n false 0).toModel.unpack = true
  unfold Float.ofScientific
  split
  · -- a small number is converted exactly and multiplied by one
    have hone : GetElem.getElem Float.exactlyRepresentablePowersOfTen 0
        (by simp [Float.exactlyRepresentablePowersOfTen]) =
        Float.ofBits 4607182418800017408 := rfl
    simp only [Bool.false_eq_true, if_false, hone]
    exact unsignedFloat_pack (unsignedFloat_mul _ (unsignedFloat_pack (unsignedFloat_ofNat _ _)) (by decide +kernel))
  · exact unsignedFloat_pack (unsignedFloat_ofScientific ..)

theorem zero_unpack : (0.0 : Float).toModel.unpack = .zero .positive := rfl

theorem compare_zero_ne_lt {u : UnpackedFloat} (h : unsignedFloat u = true) (s : Sign) :
    (u.compare (.zero s) == some .lt) = false := by
  cases u with
  | notANumber => rfl
  | infinity s' =>
    rw [unsignedFloat_infinity] at h
    subst h
    rfl
  | zero s' => rfl
  | finite s' m e hm =>
    rw [unsignedFloat_finite] at h
    subst h
    rfl

theorem unsigned_not_lt_zero {x : Float} (h : unsignedFloat x.toModel.unpack = true) : ¬ x < 0.0 := by
  intro hlt
  simp only [LT.lt, Float.lt, Float.Model.lt, UnpackedFloat.lt, zero_unpack, compare_zero_ne_lt h] at hlt
  simp at hlt

/-! ## Drawing at rate one -/

theorem nextUnit_not_lt_zero (g : ChaChaRng) : ¬ g.nextUnit.1 < 0.0 :=
  unsigned_not_lt_zero (unsignedFloat_pack (unsignedFloat_mul _ (unsignedFloat_floatOfNat _) (by decide +kernel)))

theorem powi_go_one (b fuel : Nat) : powi.go 1.0 b 1.0 fuel = 1.0 := by
  have hsq : (1.0 : Float) * 1.0 = 1.0 := by decide +kernel
  induction fuel generalizing b with
  | zero => rfl
  | succ fuel ih =>
    unfold powi.go
    simp only [hsq, ite_self]
    split
    · rfl
    · exact ih _

theorem powi_one (n : Int) : powi 1.0 n = 1.0 := by
  have hinv : (1.0 : Float) / 1.0 = 1.0 := by decide +kernel
  unfold powi
  simp only [powi_go_one, hinv, ite_self]

theorem stuffProbability_one (n : Nat) : stuffProbability 1.0 n = 0.0 := by
  have hsub : (1.0 : Float) - 1.0 = 0.0 := by decide +kernel
  have habs : (1.0 : Float) - Float.abs 0.0 = 1.0 := by decide +kernel
  unfold stuffProbability
  dsimp only
  rw [hsub, habs, powi_one, hsub]

theorem stuffForDraw_one (n : Nat) (g : ChaChaRng) : stuffForDraw 1.0 n g.nextUnit.1 = 0 := by
  unfold stuffForDraw
  rw [stuffProbability_one, if_neg (nextUnit_not_lt_zero g)]

/-! ## Warm-up -/

namespace DriftController

/-- During warm-up the controller keeps rate one and asks for no stuffing. -/
theorem correction_of_warmup (d : DriftController) (fill : Nat) (hw : d.warmup < warmupFrames)
    (hr : d.rate = 1.0) :
    (d.correction fill).1 = 0 ∧ (d.correction fill).2.warmup = d.warmup + 1 ∧ (d.correction fill).2.rate = 1.0 := by
  unfold correction update
  rw [if_pos hw]
  exact ⟨by rw [hr]; exact stuffForDraw_one _ _, rfl, hr⟩

end DriftController

namespace Corrector

/-- `n` frames into warm-up at rate one, or no correction at all. -/
def Calm (n : Nat) : Corrector → Prop
  | .drift d => d.warmup = n ∧ d.rate = 1.0
  | .fixed => True

theorem calm_reset (c : Corrector) : c.reset.Calm 0 := by
  cases c with
  | drift d => exact ⟨rfl, rfl⟩
  | fixed => trivial

/-- Within warm-up a corrector asks for no stuffing, reports rate one and moves one frame on. -/
theorem Calm.correction {c : Corrector} {n : Nat} (hc : c.Calm n) (hn : n < DriftController.warmupFrames)
    (fill : Nat) :
    (c.correction fill).1 = 0 ∧ (c.correction fill).2.Calm (n + 1) ∧ (c.correction fill).2.playbackRate = 1.0 := by
  cases c with
  | drift d =>
    obtain ⟨hw, hr⟩ := hc
    subst hw
    obtain ⟨hstuff, hwarm, hrate⟩ := d.correction_of_warmup fill hn hr
    exact ⟨hstuff, ⟨hwarm, hrate⟩, hrate⟩
  | fixed => exact ⟨rfl, trivial, rfl⟩

end Corrector

end Playout
