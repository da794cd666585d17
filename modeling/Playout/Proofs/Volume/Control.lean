import Playout.Proofs.Volume.FixedGain

/-!
# The volume as a state machine

The caller sets a level or switches the output's mixer on and off; playback takes the level
queued for the mixer. After any history of these from a starting level the control is fixed by
three facts of the history alone: the level last set (`latestDb`), whether the mixer is on
(`hardwareMode`), and whether a level is queued (`Queued`: an operation queued one, switching the
mixer on or setting a level while it is on, and no take and no switch-off came after it).

With the mixer on the software gain is unity. With it off the gain follows the latest level,
also one set while the mixer was on, and lies between zero and unity. A take hands over the
latest level exactly when one is queued, so once after each operation that queues.
-/

namespace Playout

/-- What is done to the volume: the caller sets a level or switches the mixer, playback takes
the queued level. -/
inductive VolumeOp where
  | setDb (db : Float)
  | setHardware (on : Bool)
  | take

namespace VolumeOp

def apply (v : VolumeControl) : VolumeOp → VolumeControl
  | .setDb db => v.setDb db
  | .setHardware on => v.setHardware on
  | .take => v.takeHardwareUpdate.2

def level? : VolumeOp → Option Float
  | .setDb db => some db
  | _ => none

def mode? : VolumeOp → Option Bool
  | .setHardware on => some on
  | _ => none

/-- The operation queues a level for the mixer, given whether the mixer was on before it. -/
def queues (on : Bool) : VolumeOp → Bool
  | .setDb _ => on
  | .setHardware on' => on'
  | .take => false

/-- The operation drops a queued level. -/
def drops : VolumeOp → Bool
  | .setDb _ => false
  | .setHardware on => !on
  | .take => true

end VolumeOp

/-- The control after a history of operations from a starting level. -/
def VolumeControl.replay (d0 : Float) (ops : List VolumeOp) : VolumeControl :=
  ops.foldl VolumeOp.apply (VolumeControl.create d0)

/-- The level in force: the last one set, or the starting one. -/
def latestDb (d0 : Float) (ops : List VolumeOp) : Float :=
  (ops.reverse.findSome? VolumeOp.level?).getD d0

/-- Whether the mixer is on: as last switched, off before any switch. -/
def hardwareMode (ops : List VolumeOp) : Bool :=
  (ops.reverse.findSome? VolumeOp.mode?).getD false

/-- A level is queued for the mixer: an operation queued one and none after it dropped it. -/
def Queued (ops : List VolumeOp) : Prop :=
  ∃ pre op post, ops = pre ++ op :: post ∧ op.queues (hardwareMode pre) = true ∧
    ∀ o ∈ post, o.drops = false

section History

variable {d0 : Float} {ops : List VolumeOp} {op : VolumeOp}

@[simp] theorem replay_nil : VolumeControl.replay d0 [] = VolumeControl.create d0 := rfl

@[simp] theorem replay_append_singleton :
    VolumeControl.replay d0 (ops ++ [op]) = op.apply (VolumeControl.replay d0 ops) := by
  simp [VolumeControl.replay, VolumeOp.apply, List.foldl_append]

@[simp] theorem latestDb_nil : latestDb d0 [] = d0 := rfl

@[simp] theorem latestDb_append_singleton : latestDb d0 (ops ++ [op]) = op.level?.getD (latestDb d0 ops) := by
  cases op <;> simp [latestDb, List.findSome?_cons, VolumeOp.level?]

@[simp] theorem hardwareMode_nil : hardwareMode [] = false := rfl

@[simp] theorem hardwareMode_append_singleton :
    hardwareMode (ops ++ [op]) = op.mode?.getD (hardwareMode ops) := by
  cases op <;> simp [hardwareMode, List.findSome?_cons, VolumeOp.mode?]

theorem not_queued_nil : ¬ Queued [] := by
  rintro ⟨pre, op, post, h, -⟩
  simp at h

/-- One more operation: a level is queued if it queues one, or if one was queued and it does
not drop it. -/
theorem queued_append_singleton :
    Queued (ops ++ [op]) ↔ op.queues (hardwareMode ops) = true ∨ (Queued ops ∧ op.drops = false) := by
  constructor
  · rintro ⟨pre, o, post, h, hq, hpost⟩
    -- the queueing operation is the new one, or it lies in the old history
    rcases List.eq_nil_or_concat post with rfl | ⟨post', last, rfl⟩
    · obtain ⟨rfl, rfl⟩ := List.append_singleton_inj.1 h
      exact .inl hq
    · rw [List.concat_eq_append, ← List.cons_append, ← List.append_assoc] at h
      obtain ⟨rfl, rfl⟩ := List.append_singleton_inj.1 h
      refine .inr ⟨⟨pre, o, post', rfl, hq, fun x hx => hpost x (by simp [hx])⟩, ?_⟩
      exact hpost op (by simp)
  · rintro (hq | ⟨⟨pre, o, post, rfl, hq, hpost⟩, hdrop⟩)
    · exact ⟨ops, op, [], by simp, hq, by simp⟩
    · refine ⟨pre, o, post ++ [op], by simp, hq, fun x hx => ?_⟩
      rcases List.mem_append.1 hx with hx | hx
      · exact hpost x hx
      · rw [List.mem_singleton.1 hx]
        exact hdrop

end History

namespace VolumeControl

/-- The control agrees with a history from `d0`: it holds the latest level and the mode; with
the mixer on the gain is unity, with it off the gain is that of the level held and nothing is
queued; a level is queued exactly when the history queued one, and it is the level held. -/
structure Follows (v : VolumeControl) (d0 : Float) (ops : List VolumeOp) : Prop where
  db : v.db = latestDb d0 ops
  hardware : v.hardware = hardwareMode ops
  mixerGain : v.hardware = true → v.linear = 1.0 ∧ v.fixed = unityGain
  softwareGain : v.hardware = false → v.linear = dbToLinear v.db ∧ v.fixed = linearToFixed v.linear
  softwarePending : v.hardware = false → v.pending = none
  queued : v.pending.isSome = true ↔ Queued ops
  pendingDb : ∀ x, v.pending = some x → x = v.db

variable {v : VolumeControl} {d0 : Float} {ops : List VolumeOp}

theorem follows_create (d0 : Float) : (create d0).Follows d0 [] where
  db := rfl
  hardware := rfl
  mixerGain h := absurd h Bool.false_ne_true
  softwareGain _ := ⟨rfl, rfl⟩
  softwarePending _ := rfl
  queued := by simp [create, not_queued_nil]
  pendingDb _ h := by simp [create] at h

theorem Follows.setDb (h : v.Follows d0 ops) (db : Float) : (v.setDb db).Follows d0 (ops ++ [.setDb db]) := by
  cases hw : v.hardware with
  | true =>
    -- with the mixer on the level is only queued
    have hmode : hardwareMode ops = true := h.hardware ▸ hw
    refine ⟨?_, ?_, ?_, ?_, ?_, ?_, ?_⟩ <;>
      simp [VolumeControl.setDb, hw, hmode, h.mixerGain hw, queued_append_singleton,
        VolumeOp.level?, VolumeOp.mode?, VolumeOp.queues]
  | false =>
    -- with the mixer off the gain follows the level and nothing is queued
    have hmode : hardwareMode ops = false := h.hardware ▸ hw
    have hnone := h.softwarePending hw
    have hnq : ¬ Queued ops := by simpa [hnone] using h.queued.symm
    refine ⟨?_, ?_, ?_, ?_, ?_, ?_, ?_⟩ <;>
      simp [VolumeControl.setDb, hw, hmode, hnone, hnq, queued_append_singleton,
        VolumeOp.level?, VolumeOp.mode?, VolumeOp.queues, VolumeOp.drops]

theorem Follows.setHardware (h : v.Follows d0 ops) (on : Bool) :
    (v.setHardware on).Follows d0 (ops ++ [.setHardware on]) := by
  cases on <;>
    refine ⟨?_, ?_, ?_, ?_, ?_, ?_, ?_⟩ <;>
    simp [VolumeControl.setHardware, h.db, queued_append_singleton, VolumeOp.level?, VolumeOp.mode?,
      VolumeOp.queues, VolumeOp.drops, unityGain]

theorem Follows.take (h : v.Follows d0 ops) : v.takeHardwareUpdate.2.Follows d0 (ops ++ [.take]) where
  db := by simp [takeHardwareUpdate, h.db, VolumeOp.level?]
  hardware := by simp [takeHardwareUpdate, h.hardware, VolumeOp.mode?]
  mixerGain := h.mixerGain
  softwareGain := h.softwareGain
  softwarePending _ := rfl
  queued := by simp [takeHardwareUpdate, queued_append_singleton, VolumeOp.queues, VolumeOp.drops]
  pendingDb _ hx := by simp [takeHardwareUpdate] at hx

theorem Follows.apply (h : v.Follows d0 ops) (op : VolumeOp) : (op.apply v).Follows d0 (ops ++ [op]) := by
  cases op with
  | setDb db => exact h.setDb db
  | setHardware on => exact h.setHardware on
  | take => exact h.take

theorem replay_follows (d0 : Float) (ops : List VolumeOp) : (replay d0 ops).Follows d0 ops := by
  induction ops using List.reverseRecOn with
  | nil => exact follows_create d0
  | append_singleton ops op ih =>
    rw [replay_append_singleton]
    exact ih.apply op

/-- What a take after a history hands over: the latest level when one is queued, else nothing. -/
theorem Follows.take_eq (h : v.Follows d0 ops) :
    (v.takeHardwareUpdate.1 = some (latestDb d0 ops) ↔ Queued ops) ∧ (v.takeHardwareUpdate.1 = none ↔ ¬ Queued ops) := by
  simp only [takeHardwareUpdate]
  cases hp : v.pending with
  | none => simpa [hp] using h.queued.symm
  | some x =>
    have hq : Queued ops := h.queued.1 (by simp [hp])
    simp [hq, h.pendingDb x hp, h.db]

variable (d0 : Float) (ops : List VolumeOp)

theorem replay_mixerGain (h : hardwareMode ops = true) :
    (replay d0 ops).linear = 1.0 ∧ (replay d0 ops).fixed = unityGain :=
  (replay_follows d0 ops).mixerGain ((replay_follows d0 ops).hardware.trans h)

/-- With the mixer off the gain is that of the latest level, wherever in the history it was set,
and lies between zero and unity; nothing is queued. -/
theorem replay_softwareGain (h : hardwareMode ops = false) :
    (replay d0 ops).linear = dbToLinear (latestDb d0 ops) ∧
      (replay d0 ops).fixed = linearToFixed (replay d0 ops).linear ∧
      0 ≤ (replay d0 ops).fixed ∧ (replay d0 ops).fixed ≤ unityGain ∧
      (replay d0 ops).takeHardwareUpdate.1 = none := by
  have hf := replay_follows d0 ops
  have hw : (replay d0 ops).hardware = false := hf.hardware.trans h
  obtain ⟨hlinear, hfixed⟩ := hf.softwareGain hw
  refine ⟨hf.db ▸ hlinear, hfixed, ?_, ?_, hf.softwarePending hw⟩
  · exact hfixed ▸ (linearToFixed_mem _).1
  · exact hfixed ▸ (linearToFixed_mem _).2

theorem replay_take :
    ((replay d0 ops).takeHardwareUpdate.1 = some (latestDb d0 ops) ↔ Queued ops) ∧
      ((replay d0 ops).takeHardwareUpdate.1 = none ↔ ¬ Queued ops) :=
  (replay_follows d0 ops).take_eq

/-- A take right after a take gets nothing: a level is handed over once per operation that
queued it. -/
theorem take_after_take : (replay d0 (ops ++ [.take])).takeHardwareUpdate.1 = none := by
  refine (replay_take d0 (ops ++ [.take])).2.2 ?_
  simp [queued_append_singleton, VolumeOp.queues, VolumeOp.drops]

end VolumeControl

end Playout
