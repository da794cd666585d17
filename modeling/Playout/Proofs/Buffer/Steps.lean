import Playout.Proofs.SeqDistance

/-!
# Runs of a jitter buffer

The operations a caller issues against a buffer, what each answers, and runs of them from a
given buffer. `PutCase` lists the branches of `put`, each with the tests that select it and
the buffer it leaves behind; `put_case` shows that every put takes one of them, so the
theorems about runs split on its constructors and never unfold `put` again.
-/

namespace Playout

inductive BufferOp where
  | put (seq : UInt16) (ts : UInt32) (pcm : List Sample)
  | get
  | skip (frames : Nat)
  | takeResends
  | reset
  | flush (target : Option UInt32)
  | setBuffering (value : Bool)
deriving Repr, DecidableEq

inductive BufferReply where
  | put (outcome : PutOutcome)
  | get (frame : Option Frame)
  | skip (frames : Nat)
  | resends (ranges : List SeqRange)
  | done
deriving Repr, DecidableEq

namespace JitterBuffer

def exec (b : JitterBuffer) : BufferOp → BufferReply × JitterBuffer
  | .put s ts pcm => let (o, b) := b.put s ts pcm; (.put o, b)
  | .get => let (f, b) := b.get; (.get f, b)
  | .skip n => let (k, b) := b.skip n; (.skip k, b)
  | .takeResends => let (rs, b) := b.takeResends; (.resends rs, b)
  | .reset => (.done, b.reset)
  | .flush target => (.done, b.flush target)
  | .setBuffering v => (.done, b.setBuffering v)

def run (b : JitterBuffer) : List BufferOp → List BufferReply × JitterBuffer
  | [] => ([], b)
  | op :: ops =>
    let (r, b') := b.exec op
    let (rs, b'') := b'.run ops
    (r :: rs, b'')

@[simp] theorem run_nil (b : JitterBuffer) : b.run [] = ([], b) := rfl

@[simp] theorem run_cons_fst (b : JitterBuffer) (op : BufferOp) (ops : List BufferOp) :
    (b.run (op :: ops)).1 = (b.exec op).1 :: ((b.exec op).2.run ops).1 := rfl

@[simp] theorem run_cons_snd (b : JitterBuffer) (op : BufferOp) (ops : List BufferOp) :
    (b.run (op :: ops)).2 = ((b.exec op).2.run ops).2 := rfl

section Exec

variable (b : JitterBuffer)

@[simp] theorem exec_put (s : UInt16) (ts : UInt32) (pcm : List Sample) :
    b.exec (.put s ts pcm) = (.put (b.put s ts pcm).1, (b.put s ts pcm).2) := rfl
@[simp] theorem exec_get : b.exec .get = (.get b.get.1, b.get.2) := rfl
@[simp] theorem exec_skip (n : Nat) : b.exec (.skip n) = (.skip (b.skip n).1, (b.skip n).2) := rfl
@[simp] theorem exec_takeResends : b.exec .takeResends = (.resends b.pending, { b with pending := [] }) :=
  rfl
@[simp] theorem exec_reset : b.exec .reset = (.done, b.reset) := rfl
@[simp] theorem exec_flush (target : Option UInt32) :
    b.exec (.flush target) = (.done, b.flush target) := rfl
@[simp] theorem exec_setBuffering (v : Bool) :
    b.exec (.setBuffering v) = (.done, { b with buffering := v }) := rfl

end Exec

/-! ## Slot updates -/

section Fields

variable (b : JitterBuffer) (s : UInt16) (ts : UInt32) (pcm : List Sample)

@[simp] theorem store_slots :
    (b.store s ts pcm).slots =
      b.slots.setIfInBounds (b.index s) (some ⟨s, ts, fitTo b.shape.frameSamples pcm⟩) := rfl
@[simp] theorem store_shape : (b.store s ts pcm).shape = b.shape := rfl
@[simp] theorem store_read : (b.store s ts pcm).read = b.read := rfl
@[simp] theorem store_write : (b.store s ts pcm).write = b.write := rfl
@[simp] theorem store_readTs : (b.store s ts pcm).readTs = b.readTs := rfl
@[simp] theorem store_synced : (b.store s ts pcm).synced = b.synced := rfl
@[simp] theorem store_buffering : (b.store s ts pcm).buffering = b.buffering := rfl
@[simp] theorem store_discardBefore : (b.store s ts pcm).discardBefore = b.discardBefore := rfl
@[simp] theorem store_pending : (b.store s ts pcm).pending = b.pending := rfl

@[simp] theorem clearSlot_slots : (b.clearSlot s).slots = b.slots.setIfInBounds (b.index s) none :=
  rfl
@[simp] theorem clearSlot_shape : (b.clearSlot s).shape = b.shape := rfl
@[simp] theorem clearSlot_read : (b.clearSlot s).read = b.read := rfl
@[simp] theorem clearSlot_write : (b.clearSlot s).write = b.write := rfl
@[simp] theorem clearSlot_readTs : (b.clearSlot s).readTs = b.readTs := rfl
@[simp] theorem clearSlot_synced : (b.clearSlot s).synced = b.synced := rfl
@[simp] theorem clearSlot_buffering : (b.clearSlot s).buffering = b.buffering := rfl
@[simp] theorem clearSlot_discardBefore : (b.clearSlot s).discardBefore = b.discardBefore := rfl

@[simp] theorem resync_slots : (b.resync s ts).slots = Array.replicate b.shape.capacity none := rfl
@[simp] theorem resync_shape : (b.resync s ts).shape = b.shape := rfl
@[simp] theorem resync_read : (b.resync s ts).read = s := rfl
@[simp] theorem resync_write : (b.resync s ts).write = s := rfl
@[simp] theorem resync_readTs : (b.resync s ts).readTs = ts := rfl
@[simp] theorem resync_synced : (b.resync s ts).synced = true := rfl
@[simp] theorem resync_buffering : (b.resync s ts).buffering = b.buffering := rfl
@[simp] theorem resync_discardBefore : (b.resync s ts).discardBefore = b.discardBefore := rfl
@[simp] theorem resync_pending : (b.resync s ts).pending = [] := rfl

variable (r : SeqRange)

@[simp] theorem requestResend_slots : (b.requestResend r).slots = b.slots := rfl
@[simp] theorem requestResend_shape : (b.requestResend r).shape = b.shape := rfl
@[simp] theorem requestResend_read : (b.requestResend r).read = b.read := rfl
@[simp] theorem requestResend_write : (b.requestResend r).write = b.write := rfl
@[simp] theorem requestResend_readTs : (b.requestResend r).readTs = b.readTs := rfl
@[simp] theorem requestResend_synced : (b.requestResend r).synced = b.synced := rfl
@[simp] theorem requestResend_buffering : (b.requestResend r).buffering = b.buffering := rfl
@[simp] theorem requestResend_discardBefore :
    (b.requestResend r).discardBefore = b.discardBefore := rfl
@[simp] theorem requestResend_pending :
    (b.requestResend r).pending =
      b.pending ++ chunks b.shape.maxResendSpan r.first r.count.toNat := rfl

end Fields

/-! ## The branches of `put` -/

/-- Whether a packet stamped `ts` comes before the flush target, if one is set. -/
def dropsStamp (b : JitterBuffer) (ts : UInt32) : Bool :=
  match b.discardBefore with
  | some target => decide (signed32 (ts - target) < 0)
  | none => false

/-- The buffer a packet meets once it is counted and found past any flush target. -/
def admitted (b : JitterBuffer) : JitterBuffer :=
  { b with stats := { b.stats with received := b.stats.received + 1 }, discardBefore := none }

@[simp] theorem admitted_slots (b : JitterBuffer) : b.admitted.slots = b.slots := rfl
@[simp] theorem admitted_shape (b : JitterBuffer) : b.admitted.shape = b.shape := rfl
@[simp] theorem admitted_read (b : JitterBuffer) : b.admitted.read = b.read := rfl
@[simp] theorem admitted_write (b : JitterBuffer) : b.admitted.write = b.write := rfl
@[simp] theorem admitted_readTs (b : JitterBuffer) : b.admitted.readTs = b.readTs := rfl
@[simp] theorem admitted_synced (b : JitterBuffer) : b.admitted.synced = b.synced := rfl
@[simp] theorem admitted_buffering (b : JitterBuffer) : b.admitted.buffering = b.buffering := rfl
@[simp] theorem admitted_discardBefore (b : JitterBuffer) : b.admitted.discardBefore = none := rfl
@[simp] theorem admitted_pending (b : JitterBuffer) : b.admitted.pending = b.pending := rfl
@[simp] theorem admitted_index (b : JitterBuffer) (s : UInt16) : b.admitted.index s = b.index s :=
  rfl

/-- The eight ways a put ends, with the tests that lead there and the buffer left behind. -/
inductive PutCase (b : JitterBuffer) (s : UInt16) (ts : UInt32) (pcm : List Sample) :
    PutOutcome → JitterBuffer → Prop where
  | flushed (hd : b.dropsStamp ts = true) :
      PutCase b s ts pcm .flushed
        { b with stats := { b.stats with received := b.stats.received + 1,
                                         flushed := b.stats.flushed + 1 } }
  | synced (hd : b.dropsStamp ts = false) (hs : b.synced = false) :
      PutCase b s ts pcm .synced ((b.admitted.resync s ts).store s ts pcm)
  | overrun (hd : b.dropsStamp ts = false) (hs : b.synced = true) (ha : 0 < Seq.diff b.write s)
      (hc : b.shape.capacity ≤ (Seq.diff b.read s).toNat) :
      PutCase b s ts pcm .overrun
        (({ b.admitted with stats := { b.admitted.stats with overruns := b.stats.overruns + 1 } }.resync
          s ts).store s ts pcm)
  | expected (hd : b.dropsStamp ts = false) (hs : b.synced = true) (ha : Seq.diff b.write s = 1)
      (hc : (Seq.diff b.read s).toNat < b.shape.capacity) :
      PutCase b s ts pcm .expected { b.admitted.store s ts pcm with write := s }
  | gap (hd : b.dropsStamp ts = false) (hs : b.synced = true) (ha : 1 < Seq.diff b.write s)
      (hc : (Seq.diff b.read s).toNat < b.shape.capacity) :
      PutCase b s ts pcm (.gap ⟨b.write + 1, UInt16.ofNat (Seq.diff b.write s - 1).toNat⟩)
        ({ b.admitted.store s ts pcm with write := s }.requestResend
          ⟨b.write + 1, UInt16.ofNat (Seq.diff b.write s - 1).toNat⟩)
  | duplicate (hd : b.dropsStamp ts = false) (hs : b.synced = true) (ha : Seq.diff b.write s ≤ 0)
      (hr : 0 ≤ Seq.diff b.read s) (hready : b.isReady s = true) :
      PutCase b s ts pcm .duplicate
        { b.admitted with stats := { b.admitted.stats with duplicate := b.stats.duplicate + 1 } }
  | late (hd : b.dropsStamp ts = false) (hs : b.synced = true) (ha : Seq.diff b.write s ≤ 0)
      (hr : 0 ≤ Seq.diff b.read s) (hready : b.isReady s = false) :
      PutCase b s ts pcm .late
        ({ b.admitted with stats := { b.admitted.stats with late := b.stats.late + 1 } }.store s ts pcm)
  | tooLate (hd : b.dropsStamp ts = false) (hs : b.synced = true) (ha : Seq.diff b.write s ≤ 0)
      (hr : Seq.diff b.read s < 0) :
      PutCase b s ts pcm .tooLate
        { b.admitted with stats := { b.admitted.stats with tooLate := b.stats.tooLate + 1 } }

theorem put_case (b : JitterBuffer) (s : UInt16) (ts : UInt32) (pcm : List Sample) :
    PutCase b s ts pcm (b.put s ts pcm).1 (b.put s ts pcm).2 := by
  unfold put
  dsimp only
  split
  · rename_i hdrop
    exact .flushed (by rcases hdb : b.discardBefore with _ | target <;> simp_all [dropsStamp])
  rename_i hdrop
  have hd : b.dropsStamp ts = false := by
    rcases hdb : b.discardBefore with _ | target <;> simp_all [dropsStamp]
  split
  · rename_i hs
    exact .synced hd (by simpa using hs)
  rename_i hs
  have hs : b.synced = true := by simpa using hs
  split
  · rename_i ha
    split
    · rename_i hc
      exact .overrun hd hs ha hc
    rename_i hc
    have hc : (Seq.diff b.read s).toNat < b.shape.capacity := by omega
    split
    · rename_i h1
      exact .expected hd hs h1 hc
    rename_i h1
    -- a packet two or more ahead always leaves a run of missing numbers behind it
    have hgap := SeqRange.inclusive_between (show 1 < Seq.diff b.write s by omega)
    split
    · rename_i r hr
      rw [hgap] at hr
      cases hr
      exact .gap hd hs (by omega) hc
    · rename_i hr
      rw [hgap] at hr
      cases hr
  rename_i ha
  have ha : Seq.diff b.write s ≤ 0 := by omega
  split
  · rename_i hr
    have hr : 0 ≤ Seq.diff b.read s := by simpa using hr
    split
    · rename_i hready
      exact .duplicate hd hs ha hr hready
    · rename_i hready
      exact .late hd hs ha hr (Bool.eq_false_iff.2 hready)
  · rename_i hr
    exact .tooLate hd hs ha (by simpa using hr)

/-! ## Last-chance requests -/

theorem lastChance_eq (b : JitterBuffer) (offsets : List Nat) :
    b.lastChance offsets =
      { b with pending := (b.lastChance offsets).pending, stats := (b.lastChance offsets).stats } := by
  induction offsets generalizing b with
  | nil => rfl
  | cons offset rest ih =>
    unfold lastChance
    dsimp only
    split
    · rfl
    · split
      · exact ih b
      · rw [ih]
        rfl

section LastChance

variable (b : JitterBuffer) (offsets : List Nat)

@[simp] theorem lastChance_slots : (b.lastChance offsets).slots = b.slots := by
  rw [lastChance_eq]
@[simp] theorem lastChance_shape : (b.lastChance offsets).shape = b.shape := by
  rw [lastChance_eq]
@[simp] theorem lastChance_read : (b.lastChance offsets).read = b.read := by
  rw [lastChance_eq]
@[simp] theorem lastChance_write : (b.lastChance offsets).write = b.write := by
  rw [lastChance_eq]
@[simp] theorem lastChance_readTs : (b.lastChance offsets).readTs = b.readTs := by
  rw [lastChance_eq]
@[simp] theorem lastChance_synced : (b.lastChance offsets).synced = b.synced := by
  rw [lastChance_eq]
@[simp] theorem lastChance_buffering : (b.lastChance offsets).buffering = b.buffering := by
  rw [lastChance_eq]
@[simp] theorem lastChance_discardBefore :
    (b.lastChance offsets).discardBefore = b.discardBefore := by
  rw [lastChance_eq]

end LastChance

/-! ## Looking a number up -/

theorem lookup_congr {b c : JitterBuffer} (hslots : c.slots = b.slots) (hshape : c.shape = b.shape)
    (t : UInt16) : c.lookup t = b.lookup t := by
  simp [lookup, index, hslots, hshape]

theorem lookup_store (b : JitterBuffer) (s : UInt16) (ts : UInt32) (pcm : List Sample) (t : UInt16)
    (hin : b.index s < b.slots.size) :
    (b.store s ts pcm).lookup t =
      if b.index t = b.index s then
        (if s = t then some ⟨s, ts, fitTo b.shape.frameSamples pcm⟩ else none)
      else b.lookup t := by
  unfold lookup
  simp only [store_slots, store_shape, index, Array.getD_eq_getD_getElem?,
    Array.getElem?_setIfInBounds]
  unfold index at hin
  by_cases h : t.toNat % b.shape.capacity = s.toNat % b.shape.capacity
  · simp [h, hin]
  · have h' : s.toNat % b.shape.capacity ≠ t.toNat % b.shape.capacity := fun e => h e.symm
    simp [h, h']

theorem lookup_clearSlot (b : JitterBuffer) (s t : UInt16) :
    (b.clearSlot s).lookup t = if b.index t = b.index s then none else b.lookup t := by
  unfold lookup
  simp only [clearSlot_slots, clearSlot_shape, index, Array.getD_eq_getD_getElem?,
    Array.getElem?_setIfInBounds]
  by_cases h : t.toNat % b.shape.capacity = s.toNat % b.shape.capacity
  · simp only [h, if_true]
    split_ifs <;> rfl
  · have h' : s.toNat % b.shape.capacity ≠ t.toNat % b.shape.capacity := fun e => h e.symm
    simp [h, h']

@[simp] theorem lookup_resync (b : JitterBuffer) (s : UInt16) (ts : UInt32) (t : UInt16) :
    (b.resync s ts).lookup t = none := by
  unfold lookup
  simp only [resync_slots, Array.getD_eq_getD_getElem?, Array.getElem?_replicate]
  split_ifs <;> rfl

@[simp] theorem lookup_reset (b : JitterBuffer) (t : UInt16) : b.reset.lookup t = none := by
  unfold lookup
  simp only [reset, clearSlots, Array.getD_eq_getD_getElem?, Array.getElem?_replicate]
  split_ifs <;> rfl

/-- A slot filled after a store holds the frame stored, in the slot of its number, or held the
same frame before, in another slot. -/
theorem slot_store {b : JitterBuffer} {s : UInt16} {ts : UInt32} {pcm : List Sample} {i : Nat} {sl : Slot}
    (h : (b.store s ts pcm).slots[i]? = some (some sl)) :
    (i = b.index s ∧ sl = ⟨s, ts, fitTo b.shape.frameSamples pcm⟩) ∨
      (i ≠ b.index s ∧ b.slots[i]? = some (some sl)) := by
  simp only [store_slots, Array.getElem?_setIfInBounds] at h
  split at h
  · rename_i hi
    split at h
    · simp only [Option.some.injEq] at h
      exact .inl ⟨hi.symm, h.symm⟩
    · simp at h
  · rename_i hi
    exact .inr ⟨fun e => hi e.symm, h⟩

theorem slot_clearSlot {b : JitterBuffer} {s : UInt16} {i : Nat} {sl : Slot}
    (h : (b.clearSlot s).slots[i]? = some (some sl)) : i ≠ b.index s ∧ b.slots[i]? = some (some sl) := by
  simp only [clearSlot_slots, Array.getElem?_setIfInBounds] at h
  split at h
  · split at h <;> simp at h
  · rename_i hi
    exact ⟨fun e => hi e.symm, h⟩

/-! ## Taking frames -/

/-- The frame at the read cursor: the stored one, or silence at the running timestamp. -/
def frameAt (b : JitterBuffer) : Frame :=
  match b.lookup b.read with
  | some slot => ⟨b.read, slot.ts, slot.pcm, false⟩
  | none => ⟨b.read, b.readTs, List.replicate b.shape.frameSamples 0, true⟩

/-- The read cursor moves past its frame, and the timestamp runs on from `ts`. -/
def advance (b : JitterBuffer) (ts : UInt32) : JitterBuffer :=
  { b.clearSlot b.read with read := b.read + 1, readTs := ts + b.shape.framesPerPacket }

section Advance

variable (b : JitterBuffer) (ts : UInt32)

@[simp] theorem advance_slots : (b.advance ts).slots = b.slots.setIfInBounds (b.index b.read) none :=
  rfl
@[simp] theorem advance_shape : (b.advance ts).shape = b.shape := rfl
@[simp] theorem advance_read : (b.advance ts).read = b.read + 1 := rfl
@[simp] theorem advance_write : (b.advance ts).write = b.write := rfl
@[simp] theorem advance_readTs : (b.advance ts).readTs = ts + b.shape.framesPerPacket := rfl
@[simp] theorem advance_synced : (b.advance ts).synced = b.synced := rfl
@[simp] theorem advance_buffering : (b.advance ts).buffering = b.buffering := rfl
@[simp] theorem advance_discardBefore : (b.advance ts).discardBefore = b.discardBefore := rfl
@[simp] theorem advance_pending : (b.advance ts).pending = b.pending := rfl

end Advance

theorem get_of_fill_eq_zero {b : JitterBuffer} (h : b.fill = 0) : b.get = (none, b) := by
  simp [get, h]

theorem get_fst {b : JitterBuffer} (h : b.fill ≠ 0) : b.get.1 = some b.frameAt := by
  unfold get frameAt
  simp only [h, if_false]
  cases hl : b.lookup b.read <;> rfl

theorem get_snd {b : JitterBuffer} (h : b.fill ≠ 0) :
    ∃ pending stats, b.get.2 = { b.advance b.frameAt.ts with pending, stats } := by
  unfold get frameAt advance
  simp only [h, if_false]
  -- a found or a missing frame, then last-chance requests unless the buffer is buffering
  cases hl : b.lookup b.read <;> dsimp only <;> split
  · exact ⟨_, _, rfl⟩
  · exact ⟨_, _, (lastChance_eq _ _).trans rfl⟩
  · exact ⟨_, _, rfl⟩
  · exact ⟨_, _, (lastChance_eq _ _).trans rfl⟩

theorem get_snd_induction (P : JitterBuffer → Prop) (b : JitterBuffer) (hempty : b.fill = 0 → P b)
    (hstep : b.fill ≠ 0 → ∀ pending stats, P { b.advance b.frameAt.ts with pending, stats }) :
    P b.get.2 := by
  by_cases hf : b.fill = 0
  · rw [get_of_fill_eq_zero hf]
    exact hempty hf
  · obtain ⟨pending, stats, hget⟩ := get_snd hf
    rw [hget]
    exact hstep hf pending stats

section Get

variable {b : JitterBuffer} (h : b.fill ≠ 0)
include h

@[simp] theorem get_slots : b.get.2.slots = b.slots.setIfInBounds (b.index b.read) none := by
  obtain ⟨p, st, e⟩ := get_snd h; rw [e]; rfl
@[simp] theorem get_shape : b.get.2.shape = b.shape := by
  obtain ⟨p, st, e⟩ := get_snd h; rw [e]; rfl
@[simp] theorem get_read : b.get.2.read = b.read + 1 := by
  obtain ⟨p, st, e⟩ := get_snd h; rw [e]; rfl
@[simp] theorem get_write : b.get.2.write = b.write := by
  obtain ⟨p, st, e⟩ := get_snd h; rw [e]; rfl
@[simp] theorem get_readTs : b.get.2.readTs = b.frameAt.ts + b.shape.framesPerPacket := by
  obtain ⟨p, st, e⟩ := get_snd h; rw [e]; rfl
@[simp] theorem get_synced : b.get.2.synced = b.synced := by
  obtain ⟨p, st, e⟩ := get_snd h; rw [e]; rfl
@[simp] theorem get_buffering : b.get.2.buffering = b.buffering := by
  obtain ⟨p, st, e⟩ := get_snd h; rw [e]; rfl
@[simp] theorem get_discardBefore : b.get.2.discardBefore = b.discardBefore := by
  obtain ⟨p, st, e⟩ := get_snd h; rw [e]; rfl

end Get

theorem skipLoop_succ (b : JitterBuffer) (n k : Nat) :
    b.skipLoop (n + 1) k = if b.fill = 0 then (k, b) else (b.advance b.frameAt.ts).skipLoop n (k + 1) := by
  rw [skipLoop.eq_2]
  split
  · rfl
  · unfold frameAt advance
    dsimp only
    cases b.lookup b.read <;> rfl

theorem skipLoop_induction (P : JitterBuffer → Prop)
    (step : ∀ b, b.fill ≠ 0 → P b → P (b.advance b.frameAt.ts)) :
    ∀ (b : JitterBuffer) (n k : Nat), P b → P (b.skipLoop n k).2 := by
  intro b n
  induction n generalizing b with
  | zero => intro k hb; exact hb
  | succ n ih =>
    intro k hb
    rw [skipLoop_succ]
    split
    · exact hb
    · rename_i hfill
      exact ih _ (k + 1) (step b hfill hb)

theorem skip_snd (b : JitterBuffer) (n : Nat) :
    (b.skip n).2 = { (b.skipLoop n 0).2 with
      stats := { (b.skipLoop n 0).2.stats with
        skipped := (b.skipLoop n 0).2.stats.skipped + (b.skipLoop n 0).1 } } := rfl

end JitterBuffer

end Playout
