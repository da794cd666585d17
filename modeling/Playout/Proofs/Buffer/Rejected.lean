import Playout.Proofs.Buffer.Steps

/-!
# Rejected packets

A put drops its packet when the frame is already buffered (`duplicate`), already played
(`tooLate`) or stamped before a pending flush target (`flushed`). It counts the packet and
changes nothing else: the cursors, the flags, the flush target, the resend queue and every
slot stay as they were. Since no operation reads the counters (`exec_withStats`), every later
run of operations answers as if the put had never happened.

* `put_rejected_leaves_buffer`: on every buffer reached from a fresh one, a rejected put
  leaves the buffer as it was but for the received count and the count of its own outcome.

The flush target stays in place only because a synced buffer never has one
(`TargetCleared`): the first put past the target clears it before it syncs the buffer, so
the two outcomes that need a synced buffer meet no target.
-/

namespace Playout

/-- The counters after a put: every packet is received, and each outcome but `synced` and
`expected` is counted on its own, a gap by the numbers it asks for. -/
def BufferStats.afterPut (st : BufferStats) : PutOutcome → BufferStats
  | .synced | .expected => { st with received := st.received + 1 }
  | .gap r => { st with received := st.received + 1, resendRequests := st.resendRequests + r.count.toNat }
  | .late => { st with received := st.received + 1, late := st.late + 1 }
  | .duplicate => { st with received := st.received + 1, duplicate := st.duplicate + 1 }
  | .tooLate => { st with received := st.received + 1, tooLate := st.tooLate + 1 }
  | .overrun => { st with received := st.received + 1, overruns := st.overruns + 1 }
  | .flushed => { st with received := st.received + 1, flushed := st.flushed + 1 }

namespace JitterBuffer

variable {b : JitterBuffer} {s : UInt16} {ts : UInt32} {pcm : List Sample}

/-! ## A put is its branch -/

theorem PutCase.unique {o₁ o₂ : PutOutcome} {b₁ b₂ : JitterBuffer} (h₁ : PutCase b s ts pcm o₁ b₁)
    (h₂ : PutCase b s ts pcm o₂ b₂) : o₁ = o₂ ∧ b₁ = b₂ := by
  cases h₁ <;> cases h₂ <;> simp_all <;> omega

theorem PutCase.put_eq {o : PutOutcome} {b' : JitterBuffer} (h : PutCase b s ts pcm o b') :
    b.put s ts pcm = (o, b') := by
  obtain ⟨ho, hb⟩ := (put_case b s ts pcm).unique h
  rw [← ho, ← hb]

/-! ## The counters are write-only -/

/-- The buffer with its counters replaced. -/
def withStats (b : JitterBuffer) (st : BufferStats) : JitterBuffer := { b with stats := st }

@[simp] theorem withStats_stats (st : BufferStats) : (b.withStats st).stats = st := rfl

@[simp] theorem withStats_withStats (st st' : BufferStats) :
    (b.withStats st).withStats st' = b.withStats st' := rfl

theorem withStats_self (b : JitterBuffer) : b.withStats b.stats = b := rfl

section WithStats

variable (b : JitterBuffer) (st : BufferStats)

@[simp] theorem withStats_shape : (b.withStats st).shape = b.shape := rfl
@[simp] theorem withStats_slots : (b.withStats st).slots = b.slots := rfl
@[simp] theorem withStats_read : (b.withStats st).read = b.read := rfl
@[simp] theorem withStats_write : (b.withStats st).write = b.write := rfl
@[simp] theorem withStats_readTs : (b.withStats st).readTs = b.readTs := rfl
@[simp] theorem withStats_synced : (b.withStats st).synced = b.synced := rfl
@[simp] theorem withStats_buffering : (b.withStats st).buffering = b.buffering := rfl
@[simp] theorem withStats_discardBefore : (b.withStats st).discardBefore = b.discardBefore := rfl
@[simp] theorem withStats_pending : (b.withStats st).pending = b.pending := rfl
@[simp] theorem withStats_lookup (t : UInt16) : (b.withStats st).lookup t = b.lookup t := rfl
@[simp] theorem withStats_isReady (t : UInt16) : (b.withStats st).isReady t = b.isReady t := rfl
@[simp] theorem withStats_fill : (b.withStats st).fill = b.fill := rfl

end WithStats

theorem PutCase.withStats {o : PutOutcome} {b' : JitterBuffer} (h : PutCase b s ts pcm o b')
    (st : BufferStats) : PutCase (b.withStats st) s ts pcm o (b'.withStats (st.afterPut o)) := by
  cases h with
  | flushed hd => exact .flushed hd
  | synced hd hs => exact .synced hd hs
  | overrun hd hs ha hc => exact .overrun hd hs ha hc
  | expected hd hs ha hc => exact .expected hd hs ha hc
  | gap hd hs ha hc => exact .gap hd hs ha hc
  | duplicate hd hs ha hr hready => exact .duplicate hd hs ha hr hready
  | late hd hs ha hr hready => exact .late hd hs ha hr hready
  | tooLate hd hs ha hr => exact .tooLate hd hs ha hr

theorem stats_put (b : JitterBuffer) (s : UInt16) (ts : UInt32) (pcm : List Sample) :
    (b.put s ts pcm).2.stats = b.stats.afterPut (b.put s ts pcm).1 := by
  have hcase := (put_case b s ts pcm).withStats b.stats
  rw [withStats_self] at hcase
  obtain ⟨-, hb⟩ := (put_case b s ts pcm).unique hcase
  rw [hb]
  rfl

theorem put_withStats (b : JitterBuffer) (st : BufferStats) (s : UInt16) (ts : UInt32) (pcm : List Sample) :
    (b.withStats st).put s ts pcm =
      ((b.put s ts pcm).1, (b.put s ts pcm).2.withStats (st.afterPut (b.put s ts pcm).1)) :=
  ((put_case b s ts pcm).withStats st).put_eq

theorem requestResend_withStats (b : JitterBuffer) (st : BufferStats) (r : SeqRange) :
    (b.withStats st).requestResend r =
      (b.requestResend r).withStats { st with resendRequests := st.resendRequests + r.count.toNat } := rfl

theorem lastChance_withStats (b : JitterBuffer) (st : BufferStats) (offsets : List Nat) :
    ∃ st', (b.withStats st).lastChance offsets = (b.lastChance offsets).withStats st' := by
  induction offsets generalizing b st with
  | nil => exact ⟨st, rfl⟩
  | cons offset rest ih =>
    rw [lastChance, lastChance]
    -- the loop stops, or moves on from a buffer that differs in its counters only
    by_cases hstop : Seq.atOrAfter (b.read + UInt16.ofNat offset) b.write = true
    · by_cases hready : b.isReady (b.read + UInt16.ofNat offset) = true
      · simp only [withStats_read, withStats_write, withStats_isReady, hstop, hready, Bool.not_true,
          Bool.false_eq_true, if_true, if_false]
        exact ih b st
      · simp only [withStats_read, withStats_write, withStats_isReady, hstop, hready, Bool.not_true,
          Bool.false_eq_true, if_false, requestResend_withStats]
        exact ih _ _
    · simp only [withStats_read, withStats_write, hstop, Bool.not_false, if_true]
      exact ⟨st, rfl⟩

/-- A get that finds frames moves the read cursor past its frame, counting it if it is missing,
and then, unless the buffer is buffering, makes the last-chance requests. -/
theorem get_snd_eq (h : b.fill ≠ 0) :
    ∃ st, (b.buffering = true ∧ b.get.2 = (b.advance b.frameAt.ts).withStats st) ∨
      (b.buffering = false ∧
        b.get.2 = ((b.advance b.frameAt.ts).withStats st).lastChance (lastChanceOffsets b.shape.startFill)) := by
  unfold get frameAt advance
  simp only [h, if_false]
  -- a missing frame is counted; the last-chance requests follow unless the buffer is buffering
  cases hl : b.lookup b.read <;> dsimp only
  · refine ⟨{ b.stats with missing := b.stats.missing + 1 }, ?_⟩
    cases hbuf : b.buffering
    · refine .inr ⟨rfl, ?_⟩
      simp only [clearSlot_buffering, hbuf, Bool.false_eq_true, if_false]
      rfl
    · refine .inl ⟨rfl, ?_⟩
      simp only [clearSlot_buffering, hbuf, if_true]
      rfl
  · refine ⟨b.stats, ?_⟩
    cases hbuf : b.buffering
    · refine .inr ⟨rfl, ?_⟩
      simp only [clearSlot_buffering, hbuf, Bool.false_eq_true, if_false]
      rfl
    · refine .inl ⟨rfl, ?_⟩
      simp only [clearSlot_buffering, hbuf, if_true]
      rfl

theorem get_withStats (b : JitterBuffer) (st : BufferStats) :
    ∃ st', (b.withStats st).get = (b.get.1, b.get.2.withStats st') := by
  by_cases hfill : b.fill = 0
  · rw [get_of_fill_eq_zero hfill, get_of_fill_eq_zero (by simpa using hfill)]
    exact ⟨st, rfl⟩
  have hfill' : (b.withStats st).fill ≠ 0 := by simpa using hfill
  have hframe : (b.withStats st).frameAt = b.frameAt := rfl
  obtain ⟨st₁, h₁⟩ := get_snd_eq hfill
  obtain ⟨st₂, h₂⟩ := get_snd_eq hfill'
  rw [hframe] at h₂
  suffices hsnd : ∃ st', (b.withStats st).get.2 = b.get.2.withStats st' by
    obtain ⟨st', e⟩ := hsnd
    exact ⟨st', Prod.ext (by rw [get_fst hfill', get_fst hfill, hframe]) e⟩
  -- both gets take the same course, since the buffering flag is no counter
  rcases h₁ with ⟨hb, e₁⟩ | ⟨hb, e₁⟩ <;> rcases h₂ with ⟨hb', e₂⟩ | ⟨hb', e₂⟩
  · exact ⟨st₂, by rw [e₁, e₂]; rfl⟩
  · simp [hb] at hb'
  · simp [hb] at hb'
  · obtain ⟨st', e⟩ := lastChance_withStats ((b.advance b.frameAt.ts).withStats st₁) st₂
      (lastChanceOffsets b.shape.startFill)
    exact ⟨st', by rw [e₁, e₂, ← e]; rfl⟩

theorem skipLoop_withStats (b : JitterBuffer) (st : BufferStats) (n k : Nat) :
    (b.withStats st).skipLoop n k = ((b.skipLoop n k).1, (b.skipLoop n k).2.withStats st) := by
  induction n generalizing b k with
  | zero => rfl
  | succ n ih =>
    rw [skipLoop_succ, skipLoop_succ]
    by_cases hfill : b.fill = 0
    · rw [if_pos (by simpa using hfill), if_pos hfill]
    · rw [if_neg (by simpa using hfill), if_neg hfill]
      exact ih (b.advance b.frameAt.ts) (k + 1)

/-- No operation reads the counters: with other counters, an operation answers the same and
leaves the same buffer, up to its counters. -/
theorem exec_withStats (b : JitterBuffer) (st : BufferStats) (op : BufferOp) :
    ∃ st', (b.withStats st).exec op = ((b.exec op).1, (b.exec op).2.withStats st') := by
  cases op with
  | put s ts pcm => exact ⟨_, by rw [exec_put, exec_put, put_withStats]⟩
  | get =>
    obtain ⟨st', e⟩ := get_withStats b st
    exact ⟨st', by rw [exec_get, exec_get, e]⟩
  | skip n =>
    refine ⟨{ st with skipped := st.skipped + (b.skipLoop n 0).1 }, ?_⟩
    rw [exec_skip, exec_skip, skip, skip, skipLoop_withStats]
    rfl
  | takeResends | reset | flush _ | setBuffering _ => exact ⟨st, rfl⟩

theorem run_withStats (b : JitterBuffer) (st : BufferStats) (ops : List BufferOp) :
    ((b.withStats st).run ops).1 = (b.run ops).1 := by
  induction ops generalizing b st with
  | nil => rfl
  | cons op ops ih =>
    obtain ⟨st', e⟩ := exec_withStats b st op
    rw [run_cons_fst, run_cons_fst, e, ih]

/-! ## The flush target of a synced buffer -/

/-- A synced buffer waits for no flush target. -/
def TargetCleared (b : JitterBuffer) : Prop := b.synced = true → b.discardBefore = none

theorem targetCleared_create (cap : Nat) (fpp : UInt32) (frameSamples startFill : Nat) (span : UInt16) :
    (create cap fpp frameSamples startFill span).TargetCleared := by
  intro hs
  cases hs

theorem TargetCleared.put (h : b.TargetCleared) (s : UInt16) (ts : UInt32) (pcm : List Sample) :
    (b.put s ts pcm).2.TargetCleared := by
  have hcase := put_case b s ts pcm
  generalize (b.put s ts pcm).1 = o at hcase
  generalize (b.put s ts pcm).2 = b' at hcase ⊢
  -- a dropped packet leaves the buffer's flags as they were; any other clears the target
  cases hcase with
  | flushed => exact h
  | synced | overrun | expected | gap | duplicate | late | tooLate => intro _; simp

theorem TargetCleared.skip (h : b.TargetCleared) (n : Nat) : (b.skip n).2.TargetCleared := by
  rw [skip_snd]
  exact skipLoop_induction TargetCleared (fun _ _ hb => hb) b n 0 h

theorem TargetCleared.exec (h : b.TargetCleared) (op : BufferOp) : (b.exec op).2.TargetCleared := by
  cases op with
  | put s ts pcm => exact h.put s ts pcm
  | get => exact get_snd_induction TargetCleared b (fun _ => h) fun _ _ _ => h
  | skip n => exact h.skip n
  | takeResends | setBuffering _ => exact h
  | reset | flush _ => intro hs; cases hs

theorem targetCleared_run (h : b.TargetCleared) (ops : List BufferOp) : (b.run ops).2.TargetCleared := by
  induction ops generalizing b with
  | nil => exact h
  | cons op ops ih => exact ih (h.exec op)

/-! ## Rejected puts -/

theorem withStats_admitted (h : b.discardBefore = none) (st : BufferStats) :
    b.admitted.withStats st = b.withStats st := by
  cases b
  cases h
  rfl

theorem TargetCleared.put_rejected (h : b.TargetCleared)
    (hrejected : (b.put s ts pcm).1 = .duplicate ∨ (b.put s ts pcm).1 = .tooLate ∨ (b.put s ts pcm).1 = .flushed) :
    (b.put s ts pcm).2 = b.withStats (b.stats.afterPut (b.put s ts pcm).1) := by
  have hcase := put_case b s ts pcm
  generalize (b.put s ts pcm).1 = o at hcase hrejected ⊢
  generalize (b.put s ts pcm).2 = b' at hcase ⊢
  cases hcase with
  | flushed => rfl
  | duplicate hd hs => exact withStats_admitted (h hs) _
  | tooLate hd hs => exact withStats_admitted (h hs) _
  | synced | overrun | expected | gap | late => simp at hrejected

/-- On a buffer reached from a fresh one, a put that answers `duplicate`, `tooLate` or `flushed`
leaves the cursors, the flags, the flush target, the resend queue and every slot as they were.
It counts the packet as received and under its outcome, and nothing else; every later run of
operations answers as it would have without the put. -/
theorem put_rejected_leaves_buffer (cap : Nat) (fpp : UInt32) (frameSamples startFill : Nat) (span : UInt16)
    (ops : List BufferOp) (s : UInt16) (ts : UInt32) (pcm : List Sample) :
    let b := ((create cap fpp frameSamples startFill span).run ops).2
    let o := (b.put s ts pcm).1
    o = .duplicate ∨ o = .tooLate ∨ o = .flushed →
      (b.put s ts pcm).2 = b.withStats
        { b.stats with
          received := b.stats.received + 1
          duplicate := b.stats.duplicate + (if o = .duplicate then 1 else 0)
          tooLate := b.stats.tooLate + (if o = .tooLate then 1 else 0)
          flushed := b.stats.flushed + (if o = .flushed then 1 else 0) } ∧
      ∀ later : List BufferOp, ((b.put s ts pcm).2.run later).1 = (b.run later).1 := by
  intro b o hrejected
  have hcleared : b.TargetCleared :=
    targetCleared_run (targetCleared_create cap fpp frameSamples startFill span) ops
  have hput := hcleared.put_rejected hrejected
  refine ⟨?_, fun later => by rw [hput, run_withStats]⟩
  rw [hput]
  rcases hrejected with ho | ho | ho <;> simp only [o, ho] <;> rfl

/-- A second copy of packet 1 on a buffer of four slots is a duplicate. -/
theorem put_rejected_leaves_buffer_duplicate :
    let b := ((create 4 1 1 2 1).run [.put 0 0 [7], .put 1 1 [8]]).2
    let o := (b.put 1 1 [9]).1
    (o = .duplicate ∨ o = .tooLate ∨ o = .flushed) ∧
      ((b.put 1 1 [9]).2 = b.withStats
        { b.stats with
          received := b.stats.received + 1
          duplicate := b.stats.duplicate + (if o = .duplicate then 1 else 0)
          tooLate := b.stats.tooLate + (if o = .tooLate then 1 else 0)
          flushed := b.stats.flushed + (if o = .flushed then 1 else 0) } ∧
      ∀ later : List BufferOp, ((b.put 1 1 [9]).2.run later).1 = (b.run later).1) :=
  ⟨by decide, put_rejected_leaves_buffer 4 1 1 2 1 _ 1 1 [9] (by decide)⟩

end JitterBuffer

end Playout
