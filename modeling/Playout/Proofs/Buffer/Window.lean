import Playout.Proofs.Buffer.Steps

/-!
# The window between the cursors

A synced buffer holds the frames from its read cursor to its write cursor. `Window` says so
of the raw state: the cursors are at most a capacity apart (the read cursor may be one past
the write cursor, when everything has been taken), and every filled slot holds a frame of the
window, in the slot its number selects; an unsynced buffer holds nothing.

Every operation keeps `Window`, with one exception: a put whose sequence number is half the
sequence space or more away from one cursor (`Aliased`). There the signed distances the buffer
compares wrap: a packet that the write cursor sees ahead may lie behind the read cursor, and
the clamped overrun test lets it through, or a packet exactly half a turn behind the write
cursor reads as ahead of an empty window and is stored as late. `window_run` is the run
statement for runs that meet no such packet; `window_aliased_put` shows the exception at
work.
-/

namespace Playout

namespace JitterBuffer

/-- The window invariant of a buffer. -/
structure Window (b : JitterBuffer) : Prop where
  size : b.slots.size = b.shape.capacity
  span : b.synced = true → -1 ≤ Seq.diff b.read b.write ∧ Seq.diff b.read b.write < b.shape.capacity
  slot : ∀ i sl, b.slots[i]? = some (some sl) →
    sl.seq.toNat % b.shape.capacity = i ∧ b.synced = true ∧
      0 ≤ Seq.diff b.read sl.seq ∧ 0 ≤ Seq.diff sl.seq b.write

/-- The signed distance from the read cursor to `s` is not the distance through the write
cursor: `s` is half the sequence space or more away from one of the cursors. -/
def Aliased (b : JitterBuffer) (s : UInt16) : Prop :=
  b.synced = true ∧ Seq.diff b.read s ≠ Seq.diff b.read b.write + Seq.diff b.write s

instance (b : JitterBuffer) (s : UInt16) : Decidable (b.Aliased s) :=
  inferInstanceAs (Decidable (_ ∧ _))

def aliases (b : JitterBuffer) : BufferOp → Bool
  | .put s _ _ => decide (b.Aliased s)
  | _ => false

/-- Whether no operation of a run is a put of an aliased sequence number. -/
def aliasFree : JitterBuffer → List BufferOp → Bool
  | _, [] => true
  | b, op :: ops => !b.aliases op && aliasFree (b.exec op).2 ops

variable {b : JitterBuffer}

theorem Window.congr {b' : JitterBuffer} (hw : b.Window) (hshape : b'.shape = b.shape)
    (hslots : b'.slots = b.slots) (hsynced : b'.synced = b.synced) (hread : b'.read = b.read)
    (hwrite : b'.write = b.write) : b'.Window := by
  obtain ⟨size, span, slot⟩ := hw
  refine ⟨?_, ?_, ?_⟩
  · rw [hslots, hshape, size]
  · rw [hsynced, hread, hwrite, hshape]
    exact span
  · intro i sl h
    rw [hslots] at h
    rw [hsynced, hread, hwrite, hshape]
    exact slot i sl h

theorem fill_of_synced (hs : b.synced = true) : b.fill = (Seq.diff b.read b.write + 1).toNat := by
  simp [fill, hs]

theorem diff_through_write {s : UInt16} (hal : ¬b.Aliased s) (hs : b.synced = true) :
    Seq.diff b.read s = Seq.diff b.read b.write + Seq.diff b.write s := by
  by_contra h
  exact hal ⟨hs, h⟩

theorem Window.mem_of_not_ahead (hw : b.Window) (hs : b.synced = true) {s : UInt16} (hal : ¬b.Aliased s)
    (ha : Seq.diff b.write s ≤ 0) (hr : 0 ≤ Seq.diff b.read s) :
    0 ≤ Seq.diff s b.write ∧ Seq.diff b.read s < b.shape.capacity := by
  have hspan := hw.span hs
  have hsum := diff_through_write hal hs
  have hbound := (Seq.diff_spec b.read b.write).2.1
  have hback : Seq.diff s b.write = -Seq.diff b.write s := Seq.diff_swap (by omega)
  omega

theorem Window.lookup_some (hw : b.Window) {t : UInt16} {sl : Slot} (h : b.lookup t = some sl) :
    sl.seq = t ∧ b.synced = true ∧ 0 ≤ Seq.diff b.read t ∧ 0 ≤ Seq.diff t b.write := by
  unfold lookup at h
  rw [Array.getD_eq_getD_getElem?] at h
  cases hslot : b.slots[b.index t]? with
  | none => simp [hslot] at h
  | some o =>
    cases o with
    | none => simp [hslot] at h
    | some sl' =>
      simp only [hslot, Option.getD_some] at h
      split at h
      · rename_i heq
        simp only [Option.some.injEq] at h
        subst h heq
        obtain ⟨-, hs, hr, hwr⟩ := hw.slot _ sl' hslot
        exact ⟨rfl, hs, hr, hwr⟩
      · simp at h

/-! ## One operation -/

theorem window_restart (hcap : 0 < b.shape.capacity) (s : UInt16) (ts : UInt32) (pcm : List Sample) :
    ((b.resync s ts).store s ts pcm).Window := by
  refine ⟨by simp, fun _ => by simp [hcap], ?_⟩
  intro i sl h
  rcases slot_store h with ⟨rfl, rfl⟩ | ⟨-, hold⟩
  · simp [index]
  · simp [Array.getElem?_replicate] at hold

theorem window_reset (b : JitterBuffer) : b.reset.Window := by
  refine ⟨by simp [reset, clearSlots], by simp [reset], ?_⟩
  intro i sl h
  simp [reset, clearSlots, Array.getElem?_replicate] at h

theorem window_advance (hw : b.Window) (hfill : b.fill ≠ 0) (ts : UInt32) : (b.advance ts).Window := by
  obtain ⟨size, span, slot⟩ := hw
  have hs : b.synced = true := by
    by_contra hs
    exact hfill (fill_of_not_synced (by simpa using hs))
  have hrw : 0 ≤ Seq.diff b.read b.write := by
    have := (span hs).1
    simp only [fill, hs, if_true, ne_eq, Int.toNat_eq_zero, not_le] at hfill
    omega
  refine ⟨by simp [size], ?_, ?_⟩
  · intro _
    rw [advance_read, advance_write, advance_shape, Seq.diff_succ_left (by omega)]
    have := (span hs).2
    omega
  · intro i sl h
    obtain ⟨hi, hold⟩ := slot_clearSlot (b := b) (s := b.read) h
    obtain ⟨hidx, -, hr, hw⟩ := slot i sl hold
    -- the frames left in the window are the ones past the read cursor
    have hne : sl.seq ≠ b.read := by
      rintro heq
      rw [heq] at hidx
      exact hi hidx.symm
    have hpos : Seq.diff b.read sl.seq ≠ 0 := fun h0 => hne (Seq.diff_eq_zero.1 h0).symm
    refine ⟨by simpa using hidx, by simpa using hs, ?_, by simpa using hw⟩
    rw [advance_read, Seq.diff_succ_left (by omega)]
    omega

theorem window_store (hw : b.Window) (hs : b.synced = true) {s : UInt16}
    (hr : 0 ≤ Seq.diff b.read s) (hwr : 0 ≤ Seq.diff s b.write) (ts : UInt32) (pcm : List Sample) :
    (b.store s ts pcm).Window := by
  obtain ⟨size, span, slot⟩ := hw
  refine ⟨by simp [size], by simpa using span, ?_⟩
  intro i sl h
  rcases slot_store h with ⟨rfl, rfl⟩ | ⟨-, hold⟩
  · exact ⟨rfl, hs, hr, hwr⟩
  · simpa using slot i sl hold

theorem window_extend (hw : b.Window) (hs : b.synced = true) (hcap : b.shape.capacity ≤ 16384)
    {s : UInt16} (ha : 0 < Seq.diff b.write s)
    (hsum : Seq.diff b.read s = Seq.diff b.read b.write + Seq.diff b.write s)
    (hc : Seq.diff b.read s < b.shape.capacity) (ts : UInt32) (pcm : List Sample) :
    { b.store s ts pcm with write := s }.Window := by
  obtain ⟨size, span, slot⟩ := hw
  have hrw := span hs
  refine ⟨by simp [size], fun _ => ⟨by simp; omega, by simpa using hc⟩, ?_⟩
  intro i sl h
  rcases slot_store h with ⟨rfl, rfl⟩ | ⟨-, hold⟩
  · exact ⟨rfl, hs, by simp; omega, by simp⟩
  · obtain ⟨hidx, -, hr, hwr⟩ := slot i sl hold
    refine ⟨by simpa using hidx, hs, by simpa using hr, ?_⟩
    -- an old frame lies before the old write cursor, hence before `s`
    have hsplit := Seq.diff_add_of_nonneg hr hwr hrw.1
    have hnew : Seq.diff sl.seq s = Seq.diff sl.seq b.write + Seq.diff b.write s :=
      Seq.diff_add (by omega) (by omega)
    show 0 ≤ Seq.diff sl.seq s
    omega

theorem window_put (hw : b.Window) (hcap : 0 < b.shape.capacity) (hcap' : b.shape.capacity ≤ 16384)
    {s : UInt16} (hal : ¬b.Aliased s) (ts : UInt32) (pcm : List Sample) : (b.put s ts pcm).2.Window := by
  have hcase := put_case b s ts pcm
  generalize (b.put s ts pcm).1 = o at hcase
  generalize (b.put s ts pcm).2 = b' at hcase ⊢
  have hadm : b.admitted.Window := hw.congr rfl rfl rfl rfl rfl
  cases hcase with
  | flushed hd => exact hw.congr rfl rfl rfl rfl rfl
  | synced hd hs => exact window_restart (b := b.admitted) hcap s ts pcm
  | overrun hd hs ha hc =>
    apply window_restart
    exact hcap
  | expected hd hs ha hc =>
    have hrw := hw.span hs
    have hsum := diff_through_write hal hs
    have hpos : 0 < Seq.diff b.write s := by omega
    have hin : Seq.diff b.read s < b.shape.capacity := by omega
    exact window_extend hadm hs hcap' hpos hsum hin ts pcm
  | gap hd hs ha hc =>
    have hrw := hw.span hs
    have hsum := diff_through_write hal hs
    have hpos : 0 < Seq.diff b.write s := by omega
    have hin : Seq.diff b.read s < b.shape.capacity := by omega
    exact (window_extend hadm hs hcap' hpos hsum hin ts pcm).congr rfl rfl rfl rfl rfl
  | duplicate hd hs ha hr hready => exact hw.congr rfl rfl rfl rfl rfl
  | late hd hs ha hr hready =>
    apply window_store
    · exact hw.congr rfl rfl rfl rfl rfl
    · exact hs
    · exact hr
    · exact (hw.mem_of_not_ahead hs hal ha hr).1
  | tooLate hd hs ha hr => exact hw.congr rfl rfl rfl rfl rfl

theorem window_get (hw : b.Window) : b.get.2.Window :=
  get_snd_induction Window b (fun _ => hw)
    (fun hfill _ _ => (window_advance hw hfill b.frameAt.ts).congr rfl rfl rfl rfl rfl)

theorem window_skip (hw : b.Window) (n : Nat) : (b.skip n).2.Window := by
  rw [skip_snd]
  refine (skipLoop_induction Window (fun b hfill hb => window_advance hb hfill _) b n 0 hw).congr
    rfl rfl rfl rfl rfl

theorem shape_exec (b : JitterBuffer) (op : BufferOp) : (b.exec op).2.shape = b.shape := by
  cases op with
  | put s ts pcm =>
    have hcase := put_case b s ts pcm
    simp only [exec_put]
    generalize (b.put s ts pcm).1 = o at hcase
    generalize (b.put s ts pcm).2 = b' at hcase ⊢
    cases hcase <;> rfl
  | get => exact get_snd_induction (·.shape = b.shape) b (fun _ => rfl) (fun _ _ _ => rfl)
  | skip n =>
    simp only [exec_skip, skip_snd]
    exact skipLoop_induction (fun b' => b'.shape = b.shape) (fun _ _ h => by simpa using h) b n 0 rfl
  | takeResends | reset | flush _ | setBuffering _ => rfl

theorem shape_run (b : JitterBuffer) (ops : List BufferOp) : (b.run ops).2.shape = b.shape := by
  induction ops generalizing b with
  | nil => rfl
  | cons op ops ih => rw [run_cons_snd, ih, shape_exec]

theorem window_exec (hw : b.Window) (hcap : 0 < b.shape.capacity) (hcap' : b.shape.capacity ≤ 16384)
    (op : BufferOp) (hop : b.aliases op = false) : (b.exec op).2.Window := by
  cases op with
  | put s ts pcm =>
    have hal : ¬b.Aliased s := by simpa [aliases] using hop
    exact window_put hw hcap hcap' hal ts pcm
  | get => exact window_get hw
  | skip n => exact window_skip hw n
  | takeResends => exact hw.congr rfl rfl rfl rfl rfl
  | reset => exact window_reset b
  | flush target => exact (window_reset b).congr rfl rfl rfl rfl rfl
  | setBuffering v => exact hw.congr rfl rfl rfl rfl rfl

/-! ## Runs -/

theorem window_run (hw : b.Window) (hcap : 0 < b.shape.capacity) (hcap' : b.shape.capacity ≤ 16384)
    (ops : List BufferOp) (hops : b.aliasFree ops = true) : (b.run ops).2.Window := by
  induction ops generalizing b with
  | nil => exact hw
  | cons op ops ih =>
    simp only [aliasFree, Bool.and_eq_true, Bool.not_eq_true'] at hops
    rw [run_cons_snd]
    exact ih (window_exec hw hcap hcap' op hops.1) (by rwa [shape_exec]) (by rwa [shape_exec]) hops.2

theorem window_create (cap : Nat) (fpp : UInt32) (frameSamples startFill : Nat) (span : UInt16) :
    (create cap fpp frameSamples startFill span).Window := by
  refine ⟨by simp [create], by simp [create], ?_⟩
  intro i sl h
  simp [create, Array.getElem?_replicate] at h

/-- The window statement on the state reached from a fresh buffer: a synced buffer's cursors are
at most a capacity apart, its fill counts the frames between them, and every filled slot holds a
frame between the cursors, in the slot its number selects; an unsynced buffer has no filled slot.
It holds along every run that puts no aliased sequence number. -/
theorem window_of_aliasFree {cap : Nat} (hpow : isPowerOfTwo cap = true) (hlo : 4 ≤ cap)
    (hhi : cap ≤ 16384) (fpp : UInt32) (frameSamples startFill : Nat) (span : UInt16)
    (ops : List BufferOp) (hops : (create cap fpp frameSamples startFill span).aliasFree ops = true) :
    let b := ((create cap fpp frameSamples startFill span).run ops).2
    (b.synced = true →
      -1 ≤ Seq.diff b.read b.write ∧ Seq.diff b.read b.write ≤ cap - 1 ∧
        b.fill = (Seq.diff b.read b.write + 1).toNat ∧ b.fill ≤ cap) ∧
    ∀ i sl, b.slots[i]? = some (some sl) →
      b.synced = true ∧ sl.seq.toNat &&& (cap - 1) = i ∧
        Seq.atOrAfter b.read sl.seq = true ∧ Seq.atOrAfter sl.seq b.write = true := by
  intro b
  have hshape : b.shape.capacity = cap := by
    simp [b, shape_run, create]
  have hw : b.Window :=
    window_run (window_create cap fpp frameSamples startFill span) (by simp [create]; omega)
      (by simp [create]; omega) ops hops
  constructor
  · intro hs
    have hspan := hw.span hs
    rw [hshape] at hspan
    have hfill := fill_of_synced hs
    refine ⟨hspan.1, by omega, hfill, by omega⟩
  · intro i sl h
    obtain ⟨hidx, hs, hr, hwr⟩ := hw.slot i sl h
    rw [hshape] at hidx
    exact ⟨hs, by rw [Seq.and_pred_eq_mod hpow]; exact hidx, by simpa using hr, by simpa using hwr⟩

theorem window_of_aliasFree_four :
    (create 4 1 1 2 1).aliasFree [.put 0 0 [7], .put 1 1 [8], .get, .put 3 3 [9], .skip 2] = true ∧
    let b := ((create 4 1 1 2 1).run [.put 0 0 [7], .put 1 1 [8], .get, .put 3 3 [9], .skip 2]).2
    (b.synced = true →
      -1 ≤ Seq.diff b.read b.write ∧ Seq.diff b.read b.write ≤ 4 - 1 ∧
        b.fill = (Seq.diff b.read b.write + 1).toNat ∧ b.fill ≤ 4) ∧
    ∀ i sl, b.slots[i]? = some (some sl) →
      b.synced = true ∧ sl.seq.toNat &&& (4 - 1) = i ∧
        Seq.atOrAfter b.read sl.seq = true ∧ Seq.atOrAfter sl.seq b.write = true :=
  ⟨by decide, window_of_aliasFree (by decide) (by decide) (by decide) 1 1 2 1 _ (by decide)⟩

/-- A packet half a turn past the read cursor, put after two in-order packets, is taken as the
next write cursor: the buffer is synced with its read cursor half a turn ahead of its write
cursor, and the two frames before it are out of reach. -/
theorem window_aliased_put :
    let b := ((create 4 1 1 2 1).run [.put 0 0 [7], .put 1 1 [8], .put 32768 2 [9]]).2
    b.synced = true ∧ Seq.diff b.read b.write = -32768 ∧ b.fill = 0 := by
  decide

end JitterBuffer

end Playout
