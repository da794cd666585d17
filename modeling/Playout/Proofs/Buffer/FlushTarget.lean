import Playout.Proofs.Buffer.Steps

/-!
# Flush targets

A flush with a target timestamp empties the buffer and holds it empty: a packet stamped
before the target, in 32-bit serial order, is dropped as `flushed`, so the buffer stays
unsynced, gets find nothing, skips drop nothing and nothing is queued for retransmission. A
reset in between keeps the target. The first packet stamped at or after the target clears it
and syncs the buffer on itself; from then on no put is dropped as flushed until the next flush.
A flush without a target holds back no packet, so the first put after it syncs whatever its
stamp.

* `flush_target_gates_puts`: the whole course of a flush, from any buffer.
-/

namespace Playout

/-- Whether a packet stamped `ts` comes before the flush target, when there is one. -/
def precedesTarget (target : Option UInt32) (ts : UInt32) : Bool :=
  match target with
  | some t => decide (signed32 (ts - t) < 0)
  | none => false

@[simp] theorem precedesTarget_none (ts : UInt32) : precedesTarget none ts = false := rfl

/-- Operations other than a flush, the only one that sets a target. -/
def BufferOp.keepsTarget : BufferOp → Bool
  | .flush _ => false
  | _ => true

/-- Operations that leave a buffer waiting for `target` as it waits: a put stamped before the
target, and anything but a put or a flush. -/
def BufferOp.heldBack (target : Option UInt32) : BufferOp → Bool
  | .put _ ts _ => precedesTarget target ts
  | .flush _ => false
  | _ => true

/-- The answer of an empty buffer that drops every packet. -/
def BufferOp.quietReply : BufferOp → BufferReply
  | .put .. => .put .flushed
  | .get => .get none
  | .skip _ => .skip 0
  | .takeResends => .resends []
  | .reset | .flush _ | .setBuffering _ => .done

namespace JitterBuffer

variable {b : JitterBuffer} {target : Option UInt32}

theorem dropsStamp_eq (b : JitterBuffer) (ts : UInt32) :
    b.dropsStamp ts = precedesTarget b.discardBefore ts := by
  unfold dropsStamp precedesTarget
  cases b.discardBefore <;> rfl

theorem skipLoop_of_fill_eq_zero (h : b.fill = 0) (n k : Nat) : b.skipLoop n k = (k, b) := by
  cases n with
  | zero => rfl
  | succ n => rw [skipLoop_succ, if_pos h]

/-! ## Waiting for the target -/

/-- A buffer flushed towards `target` that no packet has reached yet. -/
structure Waiting (target : Option UInt32) (b : JitterBuffer) : Prop where
  unsynced : b.synced = false
  discardBefore : b.discardBefore = target
  pending : b.pending = []

theorem waiting_flush (b : JitterBuffer) (target : Option UInt32) : (b.flush target).Waiting target :=
  ⟨rfl, rfl, rfl⟩

theorem Waiting.exec (hw : b.Waiting target) {op : BufferOp} (hop : op.heldBack target = true) :
    (b.exec op).1 = op.quietReply ∧ (b.exec op).2.Waiting target := by
  have hempty : b.fill = 0 := fill_of_not_synced hw.unsynced
  cases op with
  | put s ts pcm =>
    have hd : b.dropsStamp ts = true := by
      rw [dropsStamp_eq, hw.discardBefore]
      exact hop
    have hcase := put_case b s ts pcm
    rw [exec_put]
    generalize (b.put s ts pcm).1 = o at hcase ⊢
    generalize (b.put s ts pcm).2 = b' at hcase ⊢
    -- a packet before the target takes the first branch; every other branch needs it past
    cases hcase with
    | flushed => exact ⟨rfl, hw.unsynced, hw.discardBefore, hw.pending⟩
    | synced hd' | overrun hd' | expected hd' | gap hd' | duplicate hd' | late hd' | tooLate hd' =>
      simp [hd] at hd'
  | get =>
    rw [exec_get, get_of_fill_eq_zero hempty]
    exact ⟨rfl, hw⟩
  | skip n =>
    rw [exec_skip, skip, skipLoop_of_fill_eq_zero hempty]
    exact ⟨rfl, hw.unsynced, hw.discardBefore, hw.pending⟩
  | takeResends =>
    rw [exec_takeResends, hw.pending]
    exact ⟨rfl, hw.unsynced, hw.discardBefore, rfl⟩
  | reset => exact ⟨rfl, rfl, hw.discardBefore, rfl⟩
  | flush _ => cases hop
  | setBuffering v => exact ⟨rfl, hw.unsynced, hw.discardBefore, hw.pending⟩

theorem Waiting.run (hw : b.Waiting target) {ops : List BufferOp}
    (hops : ∀ op ∈ ops, op.heldBack target = true) :
    (b.run ops).1 = ops.map BufferOp.quietReply ∧ (b.run ops).2.Waiting target := by
  induction ops generalizing b with
  | nil => exact ⟨rfl, hw⟩
  | cons op ops ih =>
    obtain ⟨hreply, hw'⟩ := hw.exec (hops op (List.mem_cons_self ..))
    obtain ⟨hreplies, hend⟩ := ih hw' fun op' hop' => hops op' (List.mem_cons_of_mem op hop')
    exact ⟨by rw [run_cons_fst, hreply, hreplies, List.map_cons], hend⟩

theorem Waiting.put_reaching (hw : b.Waiting target) {ts : UInt32} (hts : precedesTarget target ts = false)
    (s : UInt16) (pcm : List Sample) :
    b.put s ts pcm = (.synced, (b.admitted.resync s ts).store s ts pcm) := by
  have hd : b.dropsStamp ts = false := by
    rw [dropsStamp_eq, hw.discardBefore]
    exact hts
  have hcase := put_case b s ts pcm
  generalize hput : b.put s ts pcm = p at hcase ⊢
  obtain ⟨o, b'⟩ := p
  cases hcase with
  | synced => rfl
  | flushed hd' => simp [hd] at hd'
  | overrun _ hs | expected _ hs | gap _ hs | duplicate _ hs | late _ hs | tooLate _ hs =>
    simp [hw.unsynced] at hs

theorem restarted_fill (b : JitterBuffer) (s : UInt16) (ts : UInt32) (pcm : List Sample) :
    ((b.admitted.resync s ts).store s ts pcm).fill = 1 := by
  simp [fill]

/-! ## After the target -/

theorem exec_of_target_cleared (h : b.discardBefore = none) {op : BufferOp} (hop : op.keepsTarget = true) :
    (b.exec op).1 ≠ .put .flushed ∧ (b.exec op).2.discardBefore = none := by
  cases op with
  | put s ts pcm =>
    have hd : b.dropsStamp ts = false := by rw [dropsStamp_eq, h]; rfl
    have hcase := put_case b s ts pcm
    rw [exec_put]
    generalize (b.put s ts pcm).1 = o at hcase ⊢
    generalize (b.put s ts pcm).2 = b' at hcase ⊢
    cases hcase with
    | flushed hd' => simp [hd] at hd'
    | synced | overrun | expected | gap | duplicate | late | tooLate => simp
  | get =>
    refine ⟨by simp, ?_⟩
    exact get_snd_induction (fun b' => b'.discardBefore = none) b (fun _ => h) fun _ _ _ => h
  | skip n =>
    refine ⟨by simp, ?_⟩
    rw [exec_skip, skip_snd]
    exact skipLoop_induction (fun b' => b'.discardBefore = none) (fun _ _ hb => hb) b n 0 h
  | takeResends | reset | setBuffering _ => exact ⟨by simp, h⟩
  | flush _ => cases hop

theorem run_of_target_cleared (h : b.discardBefore = none) {ops : List BufferOp}
    (hops : ∀ op ∈ ops, op.keepsTarget = true) : BufferReply.put .flushed ∉ (b.run ops).1 := by
  induction ops generalizing b with
  | nil => simp
  | cons op ops ih =>
    obtain ⟨hreply, hcleared⟩ := exec_of_target_cleared h (hops op (List.mem_cons_self ..))
    rw [run_cons_fst, List.mem_cons, not_or]
    exact ⟨Ne.symm hreply, ih hcleared fun op' hop' => hops op' (List.mem_cons_of_mem op hop')⟩

/-- From any buffer, a flush towards `target` followed by operations it holds back (no flush,
and puts stamped before the target only) leaves the buffer unsynced, with every put answered
`flushed`, every get `none`, every skip `0` and every request for resends empty. The first
put stamped at or after the target answers `synced`: both cursors on its sequence number, the
read stamp its stamp, a fill of one, the target cleared, and no later put is dropped as
flushed until the next flush. A flush without a target holds back no put, so the put that
follows it, whatever its stamp, syncs. -/
theorem flush_target_gates_puts (b : JitterBuffer) (target : Option UInt32) (held later : List BufferOp)
    (s : UInt16) (ts : UInt32) (pcm : List Sample)
    (hheld : ∀ op ∈ held, op.heldBack target = true) (hts : precedesTarget target ts = false)
    (hlater : ∀ op ∈ later, op.keepsTarget = true) :
    let w := (b.flush target).run held
    let p := w.2.put s ts pcm
    w.1 = held.map BufferOp.quietReply ∧ w.2.synced = false ∧
      p.1 = .synced ∧ p.2.read = s ∧ p.2.write = s ∧ p.2.readTs = ts ∧ p.2.fill = 1 ∧
      p.2.discardBefore = none ∧ BufferReply.put .flushed ∉ (p.2.run later).1 := by
  dsimp only
  obtain ⟨hreplies, hw⟩ := (waiting_flush b target).run hheld
  rw [hw.put_reaching hts s pcm]
  exact ⟨hreplies, hw.unsynced, rfl, rfl, rfl, rfl, restarted_fill _ s ts pcm, rfl,
    run_of_target_cleared rfl hlater⟩

/-- Across the wrap of the 32-bit stamps: after a flush towards `0xfffffff0`, packets stamped
`0xffffff00` and `0xffffffef` are dropped around a get, a reset and a skip, and the packet
stamped `5`, which comes after the target, syncs the buffer. -/
theorem flush_target_gates_puts_across_wrap :
    let b := ((JitterBuffer.create 4 1 1 2 1).run [.put 0 0 [7], .put 1 1 [8]]).2
    let held : List BufferOp :=
      [.put 2 0xffffff00 [9], .get, .reset, .skip 2, .put 3 0xffffffef [9], .takeResends]
    let later : List BufferOp := [.put 9 0 [1], .get, .reset, .put 4 0 [2]]
    let w := (b.flush (some 0xfffffff0)).run held
    let p := w.2.put 7 5 [3]
    ((∀ op ∈ held, op.heldBack (some 0xfffffff0) = true) ∧ precedesTarget (some 0xfffffff0) 5 = false ∧
      ∀ op ∈ later, op.keepsTarget = true) ∧
    (w.1 = held.map BufferOp.quietReply ∧ w.2.synced = false ∧
      p.1 = .synced ∧ p.2.read = 7 ∧ p.2.write = 7 ∧ p.2.readTs = 5 ∧ p.2.fill = 1 ∧
      p.2.discardBefore = none ∧ BufferReply.put .flushed ∉ (p.2.run later).1) :=
  ⟨by decide, flush_target_gates_puts _ _ _ _ 7 5 [3] (by decide) (by decide) (by decide)⟩

end JitterBuffer

end Playout
