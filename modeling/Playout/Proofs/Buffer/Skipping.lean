import Playout.Proofs.Buffer.Rejected
import Playout.Proofs.Buffer.Store
import Playout.Proofs.Engine.LeadIn

/-!
# Skipping is taking without playing

`skip` walks the read cursor forward with a loop of its own rather than through `get`, but
each of its steps is the step a get takes: the frame at the read cursor is cleared, the cursor
moves on, and the read stamp runs on from the frame's stamp (or from the stamp it had, for a
frame that never arrived). So a skip of `n` frames leaves the buffer that `min n fill` gets
leave, except for what no later step reads back in a reply: the counters (skipped frames
against missing ones) and the resend queue, where gets that play make last-chance requests
and a skip makes none.

* `skip_agrees_with_gets`: the count, the buffer left behind, and every later run.
-/

namespace Playout

namespace JitterBuffer

variable {b c : JitterBuffer}

/-! ## The resend queue is write-only -/

/-- The buffer with its resend queue replaced. -/
def withQueue (b : JitterBuffer) (q : List SeqRange) : JitterBuffer := { b with pending := q }

section WithQueue

variable (b : JitterBuffer) (q : List SeqRange)

@[simp] theorem withQueue_shape : (b.withQueue q).shape = b.shape := rfl
@[simp] theorem withQueue_read : (b.withQueue q).read = b.read := rfl
@[simp] theorem withQueue_write : (b.withQueue q).write = b.write := rfl
@[simp] theorem withQueue_synced : (b.withQueue q).synced = b.synced := rfl
@[simp] theorem withQueue_buffering : (b.withQueue q).buffering = b.buffering := rfl
@[simp] theorem withQueue_pending : (b.withQueue q).pending = q := rfl
@[simp] theorem withQueue_isReady (t : UInt16) : (b.withQueue q).isReady t = b.isReady t := rfl
@[simp] theorem withQueue_fill : (b.withQueue q).fill = b.fill := rfl

end WithQueue

theorem PutCase.withQueue {s : UInt16} {ts : UInt32} {pcm : List Sample} {o : PutOutcome} {b' : JitterBuffer}
    (h : PutCase b s ts pcm o b') (q : List SeqRange) :
    ∃ q', PutCase (b.withQueue q) s ts pcm o (b'.withQueue q') := by
  cases h with
  | flushed hd => exact ⟨q, .flushed hd⟩
  | synced hd hs => exact ⟨[], .synced hd hs⟩
  | overrun hd hs ha hc => exact ⟨[], .overrun hd hs ha hc⟩
  | expected hd hs ha hc => exact ⟨q, .expected hd hs ha hc⟩
  | gap hd hs ha hc => exact ⟨_, .gap hd hs ha hc⟩
  | duplicate hd hs ha hr hready => exact ⟨q, .duplicate hd hs ha hr hready⟩
  | late hd hs ha hr hready => exact ⟨q, .late hd hs ha hr hready⟩
  | tooLate hd hs ha hr => exact ⟨q, .tooLate hd hs ha hr⟩

theorem put_withQueue (b : JitterBuffer) (q : List SeqRange) (s : UInt16) (ts : UInt32) (pcm : List Sample) :
    ∃ q', (b.withQueue q).put s ts pcm = ((b.put s ts pcm).1, (b.put s ts pcm).2.withQueue q') := by
  obtain ⟨q', hcase⟩ := (put_case b s ts pcm).withQueue q
  exact ⟨q', hcase.put_eq⟩

theorem lastChance_withQueue (b : JitterBuffer) (q : List SeqRange) (offsets : List Nat) :
    ∃ q', (b.withQueue q).lastChance offsets = (b.lastChance offsets).withQueue q' := by
  induction offsets generalizing b q with
  | nil => exact ⟨q, rfl⟩
  | cons offset rest ih =>
    rw [lastChance, lastChance]
    -- the loop stops, or moves on from a buffer that differs in its queue only
    by_cases hstop : Seq.atOrAfter (b.read + UInt16.ofNat offset) b.write = true
    · by_cases hready : b.isReady (b.read + UInt16.ofNat offset) = true
      · simp only [withQueue_read, withQueue_write, withQueue_isReady, hstop, hready, Bool.not_true,
          Bool.false_eq_true, if_true, if_false]
        exact ih b q
      · simp only [withQueue_read, withQueue_write, withQueue_isReady, hstop, hready, Bool.not_true,
          Bool.false_eq_true, if_false]
        exact ih (b.requestResend ⟨b.read + UInt16.ofNat offset, 1⟩) _
    · simp only [withQueue_read, withQueue_write, hstop, Bool.not_false, if_true]
      exact ⟨q, rfl⟩

theorem get_withQueue (b : JitterBuffer) (q : List SeqRange) :
    ∃ q' st, (b.withQueue q).get = (b.get.1, (b.get.2.withQueue q').withStats st) := by
  by_cases hfill : b.fill = 0
  · rw [get_of_fill_eq_zero hfill, get_of_fill_eq_zero (by simpa using hfill)]
    exact ⟨q, b.stats, rfl⟩
  have hfill' : (b.withQueue q).fill ≠ 0 := by simpa using hfill
  have hframe : (b.withQueue q).frameAt = b.frameAt := rfl
  obtain ⟨st₁, h₁⟩ := get_snd_eq hfill
  obtain ⟨st₂, h₂⟩ := get_snd_eq hfill'
  rw [hframe] at h₂
  suffices hsnd : ∃ q' st, (b.withQueue q).get.2 = (b.get.2.withQueue q').withStats st by
    obtain ⟨q', st, e⟩ := hsnd
    exact ⟨q', st, Prod.ext (by rw [get_fst hfill', get_fst hfill, hframe]) e⟩
  -- both gets take the same course: the buffering flag is not the queue
  rcases h₁ with ⟨hb, e₁⟩ | ⟨hb, e₁⟩ <;> rcases h₂ with ⟨hb', e₂⟩ | ⟨hb', e₂⟩
  · exact ⟨q, st₂, by rw [e₁, e₂]; rfl⟩
  · simp [hb] at hb'
  · simp [hb] at hb'
  · -- the last-chance requests go to the other queue and the other counters
    obtain ⟨st, hstats⟩ := lastChance_withStats (((b.advance b.frameAt.ts).withStats st₁).withQueue q) st₂
      (lastChanceOffsets b.shape.startFill)
    obtain ⟨q', hqueue⟩ := lastChance_withQueue ((b.advance b.frameAt.ts).withStats st₁) q
      (lastChanceOffsets b.shape.startFill)
    exact ⟨q', st, by rw [e₁, e₂, ← hqueue, ← hstats]; rfl⟩

theorem skipLoop_withQueue (b : JitterBuffer) (q : List SeqRange) (n k : Nat) :
    (b.withQueue q).skipLoop n k = ((b.skipLoop n k).1, (b.skipLoop n k).2.withQueue q) := by
  induction n generalizing b k with
  | zero => rfl
  | succ n ih =>
    rw [skipLoop_succ, skipLoop_succ]
    by_cases hfill : b.fill = 0
    · rw [if_pos (by simpa using hfill), if_pos hfill]
    · rw [if_neg (by simpa using hfill), if_neg hfill]
      exact ih (b.advance b.frameAt.ts) (k + 1)

theorem exec_withQueue (b : JitterBuffer) (q : List SeqRange) (op : BufferOp) :
    ∃ q' st, ((b.withQueue q).exec op).1.erase = (b.exec op).1.erase ∧
      ((b.withQueue q).exec op).2 = ((b.exec op).2.withQueue q').withStats st := by
  cases op with
  | put s ts pcm =>
    obtain ⟨q', e⟩ := put_withQueue b q s ts pcm
    exact ⟨q', (b.put s ts pcm).2.stats, by rw [exec_put, exec_put, e]; exact ⟨rfl, rfl⟩⟩
  | get =>
    obtain ⟨q', st, e⟩ := get_withQueue b q
    exact ⟨q', st, by rw [exec_get, exec_get, e]; exact ⟨rfl, rfl⟩⟩
  | skip n =>
    refine ⟨q, (b.skip n).2.stats, ?_⟩
    rw [exec_skip, exec_skip, skip, skip, skipLoop_withQueue]
    exact ⟨rfl, rfl⟩
  | takeResends | reset | flush _ => exact ⟨[], _, rfl, rfl⟩
  | setBuffering _ => exact ⟨q, _, rfl, rfl⟩

/-! ## Buffers equal up to their requests -/

/-- `c` is `b` up to its resend queue and its counters, the two parts of a buffer that no
reply but a request for resends reads back. -/
def EqUpToRequests (b c : JitterBuffer) : Prop := ∃ q st, c = (b.withQueue q).withStats st

theorem EqUpToRequests.refl (b : JitterBuffer) : EqUpToRequests b b := ⟨b.pending, b.stats, rfl⟩

theorem EqUpToRequests.symm (h : EqUpToRequests b c) : EqUpToRequests c b := by
  obtain ⟨q, st, rfl⟩ := h
  exact ⟨b.pending, b.stats, rfl⟩

theorem EqUpToRequests.trans {d : JitterBuffer} (h₁ : EqUpToRequests b c) (h₂ : EqUpToRequests c d) :
    EqUpToRequests b d := by
  obtain ⟨q, st, rfl⟩ := h₁
  obtain ⟨q', st', rfl⟩ := h₂
  exact ⟨q', st', rfl⟩

theorem EqUpToRequests.eq (h : EqUpToRequests b c) : c = (b.withQueue c.pending).withStats c.stats := by
  obtain ⟨q, st, rfl⟩ := h
  rfl

theorem EqUpToRequests.exec (h : EqUpToRequests b c) (op : BufferOp) :
    (c.exec op).1.erase = (b.exec op).1.erase ∧ EqUpToRequests (b.exec op).2 (c.exec op).2 := by
  obtain ⟨q, st, rfl⟩ := h
  obtain ⟨st', hstats⟩ := exec_withStats (b.withQueue q) st op
  obtain ⟨q', st'', hreply, hqueue⟩ := exec_withQueue b q op
  rw [hstats]
  exact ⟨hreply, q', st', by rw [hqueue, withStats_withStats]⟩

theorem EqUpToRequests.run (h : EqUpToRequests b c) (ops : List BufferOp) :
    (c.run ops).1.map BufferReply.erase = (b.run ops).1.map BufferReply.erase ∧
      EqUpToRequests (b.run ops).2 (c.run ops).2 := by
  induction ops generalizing b c with
  | nil => exact ⟨rfl, h⟩
  | cons op ops ih =>
    obtain ⟨hreply, h'⟩ := h.exec op
    obtain ⟨hrest, hfinal⟩ := ih h'
    simp only [run_cons_fst, run_cons_snd, List.map_cons]
    exact ⟨by rw [hreply, hrest], hfinal⟩

/-! ## A skip is a run of gets -/

theorem eqUpToRequests_get (hfill : b.fill ≠ 0) : EqUpToRequests (b.advance b.frameAt.ts) b.get.2 := by
  obtain ⟨pending, stats, e⟩ := get_snd hfill
  exact ⟨pending, stats, e⟩

theorem skipLoop_as_gets (b : JitterBuffer) (n k : Nat) :
    EqUpToRequests (b.run (List.replicate (min n b.fill) .get)).2 (b.skipLoop n k).2 ∧
      (b.skipLoop n k).2.pending = b.pending := by
  induction n generalizing b k with
  | zero =>
    rw [Nat.zero_min]
    exact ⟨EqUpToRequests.refl b, rfl⟩
  | succ n ih =>
    rw [skipLoop_succ]
    by_cases hfill : b.fill = 0
    · rw [if_pos hfill, hfill, Nat.min_zero]
      exact ⟨EqUpToRequests.refl b, rfl⟩
    · rw [if_neg hfill]
      -- the first get and the first step of the loop take the same frame; the rest follows
      have hcount : min (n + 1) b.fill = min n (b.advance b.frameAt.ts).fill + 1 := by
        rw [fill_advance hfill]
        omega
      obtain ⟨hrest, hpending⟩ := ih (b.advance b.frameAt.ts) (k + 1)
      have hgets :=
        ((eqUpToRequests_get hfill).run (List.replicate (min n (b.advance b.frameAt.ts).fill) .get)).2
      rw [hcount, List.replicate_succ, run_cons_snd, exec_get]
      exact ⟨hgets.symm.trans hrest, hpending⟩

/-- A skip of `n` frames drops as many as there are, up to `n`, and leaves the buffer that as
many gets leave, with the queue it had and counters of its own. Every later run of operations
then answers as it would after those gets, but for requests for resends: the same outcome for
every put, the same frame for every get and the same count for every skip. -/
theorem skip_agrees_with_gets (b : JitterBuffer) (n : Nat) :
    let k := (b.skip n).1
    let taken := (b.run (List.replicate k .get)).2
    k = min n b.fill ∧ (b.skip n).2 = (taken.withQueue b.pending).withStats (b.skip n).2.stats ∧
      ∀ later : List BufferOp,
        ((b.skip n).2.run later).1.map BufferReply.erase = (taken.run later).1.map BufferReply.erase := by
  intro k taken
  have hk : k = min n b.fill := skip_fst b n
  obtain ⟨hloop, hpending⟩ := skipLoop_as_gets b n 0
  rw [← hk] at hloop
  -- the skip's buffer is the loop's with its counters changed
  have hskip : EqUpToRequests taken (b.skip n).2 := by
    rw [skip_snd]
    exact hloop.trans ⟨(b.skipLoop n 0).2.pending, _, rfl⟩
  have hqueue : (b.skip n).2.pending = b.pending := by rw [skip_snd]; exact hpending
  refine ⟨hk, ?_, fun later => (hskip.run later).1⟩
  rw [← hqueue]
  exact hskip.eq

end JitterBuffer

end Playout
