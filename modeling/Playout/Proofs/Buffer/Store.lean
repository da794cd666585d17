import Playout.Proofs.Buffer.Window

/-!
# The buffer as a store of frames by sequence number

`Store` is a jitter buffer without its ring: the cursors, the sync state, the flush target and
a finite map from sequence numbers to the frames put, with operations that decide each packet
by the same distances as the buffer, but never mask a number down to a slot. `Refines` ties a
buffer to the store it stands for; it rests on the window invariant, which keeps every frame
the ring holds inside a stretch shorter than the ring, so no two of them compete for a slot.

* `refines_exec`: one operation on related buffer and store gives the same reply, resend
  requests aside, and leaves them related, unless it puts an aliased number.
* `run_refines`: every run from a fresh buffer that puts no aliased number answers as the
  store does.
* `store_aliased_put`: a packet half a turn behind the write cursor of an emptied buffer is
  late to the ring but too late to the store.
-/

namespace Playout

structure Store where
  synced : Bool
  read : UInt16
  write : UInt16
  readTs : UInt32
  discardBefore : Option UInt32
  frames : UInt16 → Option (UInt32 × List Sample)

namespace Store

def empty : Store := ⟨false, 0, 0, 0, none, fun _ => none⟩

def fill (a : Store) : Nat := if a.synced then (Seq.diff a.read a.write + 1).toNat else 0

def dropsStamp (a : Store) (ts : UInt32) : Bool :=
  match a.discardBefore with
  | some target => decide (signed32 (ts - target) < 0)
  | none => false

def restart (a : Store) (s : UInt16) (ts : UInt32) (pcm : List Sample) : Store :=
  { a with synced := true, read := s, write := s, readTs := ts, discardBefore := none
           frames := fun t => if t = s then some (ts, pcm) else none }

def insert (a : Store) (s : UInt16) (ts : UInt32) (pcm : List Sample) : Store :=
  { a with frames := fun t => if t = s then some (ts, pcm) else a.frames t }

variable (shape : BufferShape)

def put (a : Store) (s : UInt16) (ts : UInt32) (pcm : List Sample) : PutOutcome × Store :=
  if a.dropsStamp ts then (.flushed, a)
  else
    let a := { a with discardBefore := none }
    if !a.synced then (.synced, a.restart s ts pcm)
    else if 0 < Seq.diff a.write s then
      if (shape.capacity : Int) ≤ Seq.diff a.read s then (.overrun, a.restart s ts pcm)
      else if Seq.diff a.write s = 1 then (.expected, { a.insert s ts pcm with write := s })
      else
        (.gap ⟨a.write + 1, UInt16.ofNat (Seq.diff a.write s - 1).toNat⟩,
          { a.insert s ts pcm with write := s })
    else if Seq.atOrAfter a.read s && Seq.atOrAfter s a.write then
      if (a.frames s).isSome then (.duplicate, a) else (.late, a.insert s ts pcm)
    else (.tooLate, a)

def frameAt (a : Store) : Frame :=
  match a.frames a.read with
  | some (ts, pcm) => ⟨a.read, ts, JitterBuffer.fitTo shape.frameSamples pcm, false⟩
  | none => ⟨a.read, a.readTs, List.replicate shape.frameSamples 0, true⟩

def advance (a : Store) (ts : UInt32) : Store :=
  { a with read := a.read + 1, readTs := ts + shape.framesPerPacket
           frames := fun t => if t = a.read then none else a.frames t }

def get (a : Store) : Option Frame × Store :=
  if a.fill = 0 then (none, a) else (some (a.frameAt shape), a.advance shape (a.frameAt shape).ts)

def skip (a : Store) : Nat → Nat × Store
  | 0 => (0, a)
  | n + 1 =>
    if a.fill = 0 then (0, a)
    else
      let r := (a.advance shape (a.frameAt shape).ts).skip n
      (r.1 + 1, r.2)

def reset (a : Store) : Store := { a with synced := false, frames := fun _ => none }

def exec (a : Store) : BufferOp → BufferReply × Store
  | .put s ts pcm => (.put (a.put shape s ts pcm).1, (a.put shape s ts pcm).2)
  | .get => (.get (a.get shape).1, (a.get shape).2)
  | .skip n => (.skip (a.skip shape n).1, (a.skip shape n).2)
  | .takeResends => (.resends [], a)
  | .reset => (.done, a.reset)
  | .flush target => (.done, { a.reset with discardBefore := target })
  | .setBuffering _ => (.done, a)

def run (a : Store) : List BufferOp → List BufferReply × Store
  | [] => ([], a)
  | op :: ops =>
    let (r, a') := a.exec shape op
    let (rs, a'') := a'.run ops
    (r :: rs, a'')

@[simp] theorem run_cons_fst (a : Store) (op : BufferOp) (ops : List BufferOp) :
    (a.run shape (op :: ops)).1 = (a.exec shape op).1 :: ((a.exec shape op).2.run shape ops).1 := rfl

@[simp] theorem run_cons_snd (a : Store) (op : BufferOp) (ops : List BufferOp) :
    (a.run shape (op :: ops)).2 = ((a.exec shape op).2.run shape ops).2 := rfl

end Store

/-- A reply without its resend requests, which a store does not keep. -/
def BufferReply.erase : BufferReply → BufferReply
  | .resends _ => .resends []
  | r => r

namespace JitterBuffer

/-- A buffer stands for a store when they agree on the cursors, the sync state and the flush
target, and looking a number up in the ring finds the frame the store holds for it, cut or
padded to the frame size. -/
structure Refines (b : JitterBuffer) (a : Store) : Prop where
  synced : b.synced = a.synced
  read : b.read = a.read
  write : b.write = a.write
  readTs : b.readTs = a.readTs
  discardBefore : b.discardBefore = a.discardBefore
  lookup : ∀ t, b.lookup t = (a.frames t).map fun f => ⟨t, f.1, fitTo b.shape.frameSamples f.2⟩

variable {b : JitterBuffer} {a : Store}

theorem Refines.congr {b' : JitterBuffer} (hr : b.Refines a) (hshape : b'.shape = b.shape)
    (hslots : b'.slots = b.slots) (hsynced : b'.synced = b.synced) (hread : b'.read = b.read)
    (hwrite : b'.write = b.write) (hreadTs : b'.readTs = b.readTs)
    (hdiscard : b'.discardBefore = b.discardBefore) : b'.Refines a := by
  refine ⟨?_, ?_, ?_, ?_, ?_, ?_⟩
  · rw [hsynced, hr.synced]
  · rw [hread, hr.read]
  · rw [hwrite, hr.write]
  · rw [hreadTs, hr.readTs]
  · rw [hdiscard, hr.discardBefore]
  · intro t
    rw [lookup_congr hslots hshape, hr.lookup, hshape]

theorem Refines.frames_between (hw : b.Window) (hr : b.Refines a) {t : UInt16} {f : UInt32 × List Sample}
    (h : a.frames t = some f) :
    b.synced = true ∧ 0 ≤ Seq.diff b.read t ∧ 0 ≤ Seq.diff t b.write := by
  have hl := hr.lookup t
  rw [h] at hl
  obtain ⟨-, hs, hrt, htw⟩ := hw.lookup_some hl
  exact ⟨hs, hrt, htw⟩

/-- No frame of the store but the one at `s` shares the slot of a number `s` within a capacity
past the read cursor. -/
theorem Refines.slot_free (hw : b.Window) (hr : b.Refines a) (hcap : b.shape.capacity ∣ 65536)
    {s : UInt16} (hs : 0 ≤ Seq.diff b.read s) (hs' : Seq.diff b.read s < b.shape.capacity)
    {t : UInt16} (hts : t ≠ s) (hidx : b.index t = b.index s) : a.frames t = none := by
  cases hf : a.frames t with
  | none => rfl
  | some f =>
    obtain ⟨hsync, hrt, htw⟩ := hr.frames_between hw hf
    have hspan := hw.span hsync
    have hsplit := Seq.diff_add_of_nonneg hrt htw hspan.1
    exact absurd (Seq.eq_of_slot_eq hcap hrt (by omega) hs hs' hidx) hts

theorem Refines.fill_eq (hr : b.Refines a) : b.fill = a.fill := by
  simp [fill, Store.fill, hr.synced, hr.read, hr.write]

theorem Refines.frameAt_eq (hr : b.Refines a) : b.frameAt = a.frameAt b.shape := by
  have hl := hr.lookup b.read
  unfold frameAt Store.frameAt
  rw [hl, ← hr.read, ← hr.readTs]
  cases a.frames b.read <;> rfl

theorem Refines.store (hr : b.Refines a) (hcap : 0 < b.shape.capacity) (hsize : b.slots.size = b.shape.capacity)
    {s : UInt16} (hfree : ∀ t, t ≠ s → b.index t = b.index s → a.frames t = none)
    (ts : UInt32) (pcm : List Sample) : (b.store s ts pcm).Refines (a.insert s ts pcm) := by
  refine ⟨hr.synced, hr.read, hr.write, hr.readTs, hr.discardBefore, ?_⟩
  intro t
  have hin : b.index s < b.slots.size := by
    rw [hsize]
    exact Nat.mod_lt _ hcap
  rw [lookup_store b s ts pcm t hin, store_shape]
  simp only [Store.insert]
  by_cases hts : t = s
  · subst hts
    simp
  · have hst : s ≠ t := fun e => hts e.symm
    by_cases hidx : b.index t = b.index s
    · simp [hidx, hst, hts, hfree t hts hidx]
    · simp [hidx, hts, hr.lookup t]

theorem Refines.restart (hcap : 0 < b.shape.capacity) (hd : b.discardBefore = none) (s : UInt16)
    (ts : UInt32) (pcm : List Sample) : ((b.resync s ts).store s ts pcm).Refines (a.restart s ts pcm) := by
  refine ⟨rfl, rfl, rfl, rfl, hd, ?_⟩
  intro t
  have hin : (b.resync s ts).index s < (b.resync s ts).slots.size := by
    simp only [resync_slots, Array.size_replicate, index, resync_shape]
    exact Nat.mod_lt _ hcap
  rw [lookup_store _ s ts pcm t hin]
  simp only [Store.restart, lookup_resync, store_shape, resync_shape]
  by_cases hts : t = s
  · subst hts
    simp
  · have hst : s ≠ t := fun e => hts e.symm
    simp [hts, hst]

theorem Refines.setWrite (hr : b.Refines a) (w : UInt16) : { b with write := w }.Refines { a with write := w } :=
  ⟨hr.synced, hr.read, rfl, hr.readTs, hr.discardBefore, hr.lookup⟩

theorem Refines.admitted (hr : b.Refines a) : b.admitted.Refines { a with discardBefore := none } :=
  ⟨hr.synced, hr.read, hr.write, hr.readTs, rfl, hr.lookup⟩

theorem Refines.advance (hw : b.Window) (hr : b.Refines a) (hcap : b.shape.capacity ∣ 65536)
    (hpos : 0 < b.shape.capacity) (ts : UInt32) :
    (b.advance ts).Refines (a.advance b.shape ts) := by
  refine ⟨hr.synced, by simp [Store.advance, hr.read], hr.write, by simp [Store.advance], hr.discardBefore, ?_⟩
  intro t
  rw [lookup_congr (b := b.clearSlot b.read) (c := b.advance ts) rfl rfl, lookup_clearSlot]
  simp only [Store.advance, advance_shape, ← hr.read]
  by_cases htr : t = b.read
  · subst htr
    simp
  · by_cases hidx : b.index t = b.index b.read
    · have hnone := hr.slot_free hw hcap (s := b.read) (by simp) (by simp; omega) htr hidx
      simp [hidx, htr, hnone]
    · simp [hidx, htr, hr.lookup t]

theorem Refines.isReady_eq (hr : b.Refines a) (s : UInt16) : b.isReady s = (a.frames s).isSome := by
  simp [isReady, hr.lookup s]

/-! ## One operation -/

theorem refines_put (hw : b.Window) (hr : b.Refines a) (hcap : b.shape.capacity ∣ 65536)
    (hpos : 0 < b.shape.capacity) (hle : b.shape.capacity ≤ 16384) {s : UInt16} (hal : ¬b.Aliased s)
    (ts : UInt32) (pcm : List Sample) :
    (b.put s ts pcm).1 = (a.put b.shape s ts pcm).1 ∧
      (b.put s ts pcm).2.Refines (a.put b.shape s ts pcm).2 := by
  have hcase := put_case b s ts pcm
  generalize (b.put s ts pcm).1 = o at hcase ⊢
  generalize (b.put s ts pcm).2 = b' at hcase ⊢
  have hdrop : a.dropsStamp ts = b.dropsStamp ts := by
    cases hd : a.discardBefore <;> simp [Store.dropsStamp, dropsStamp, hr.discardBefore, hd]
  have hadm := hr.admitted
  cases hcase with
  | flushed hd =>
    have hput : a.put b.shape s ts pcm = (.flushed, a) := by simp [Store.put, hdrop, hd]
    rw [hput]
    exact ⟨rfl, hr.congr rfl rfl rfl rfl rfl rfl rfl⟩
  | synced hd hs =>
    have hput : a.put b.shape s ts pcm = (.synced, { a with discardBefore := none }.restart s ts pcm) := by
      simp [Store.put, hdrop, hd, ← hr.synced, hs]
    rw [hput]
    exact ⟨rfl, Refines.restart (b := b.admitted) (a := { a with discardBefore := none }) hpos rfl s ts pcm⟩
  | overrun hd hs ha hc =>
    have hrw := hw.span hs
    have hsum := diff_through_write hal hs
    have hc' : (b.shape.capacity : Int) ≤ Seq.diff b.read s := by omega
    have hput : a.put b.shape s ts pcm = (.overrun, { a with discardBefore := none }.restart s ts pcm) := by
      simp [Store.put, hdrop, hd, ← hr.synced, hs, ← hr.write, ha, ← hr.read, hc']
    rw [hput]
    exact ⟨rfl, Refines.restart (b := { b.admitted with stats := _ }) (a := { a with discardBefore := none })
      hpos rfl s ts pcm⟩
  | expected hd hs ha hc =>
    have hrw := hw.span hs
    have hsum := diff_through_write hal hs
    have hc' : ¬(b.shape.capacity : Int) ≤ Seq.diff b.read s := by omega
    have hput : a.put b.shape s ts pcm =
        (.expected, { { a with discardBefore := none }.insert s ts pcm with write := s }) := by
      simp [Store.put, hdrop, hd, ← hr.synced, hs, ← hr.write, ha, ← hr.read, hc']
    rw [hput]
    refine ⟨rfl, Refines.setWrite (hadm.store hpos hw.size ?_ ts pcm) s⟩
    intro t hts hidx
    exact hr.slot_free hw hcap (by omega) (by omega) hts hidx
  | gap hd hs ha hc =>
    have hrw := hw.span hs
    have hsum := diff_through_write hal hs
    have hc' : ¬(b.shape.capacity : Int) ≤ Seq.diff b.read s := by omega
    have h1 : Seq.diff b.write s ≠ 1 := by omega
    have hput : a.put b.shape s ts pcm =
        (.gap ⟨b.write + 1, UInt16.ofNat (Seq.diff b.write s - 1).toNat⟩,
          { { a with discardBefore := none }.insert s ts pcm with write := s }) := by
      simp [Store.put, hdrop, hd, ← hr.synced, hs, ← hr.write, show 0 < Seq.diff b.write s by omega,
        ← hr.read, hc', h1]
    rw [hput]
    refine ⟨rfl, (Refines.setWrite (hadm.store hpos hw.size ?_ ts pcm) s).congr rfl rfl rfl rfl rfl rfl rfl⟩
    intro t hts hidx
    exact hr.slot_free hw hcap (by omega) (by omega) hts hidx
  | duplicate hd hs ha hr' hready =>
    have hin : Seq.atOrAfter b.read s && Seq.atOrAfter s b.write := by
      simp only [Bool.and_eq_true, Seq.atOrAfter_iff]
      exact ⟨hr', (hw.mem_of_not_ahead hs hal ha hr').1⟩
    have hput : a.put b.shape s ts pcm = (.duplicate, { a with discardBefore := none }) := by
      simp [Store.put, hdrop, hd, ← hr.synced, hs, ← hr.write, show ¬0 < Seq.diff b.write s by omega,
        ← hr.read, hin, ← hr.isReady_eq, hready]
    rw [hput]
    exact ⟨rfl, hadm.congr rfl rfl rfl rfl rfl rfl rfl⟩
  | late hd hs ha hr' hready =>
    obtain ⟨hbefore, hnear⟩ := hw.mem_of_not_ahead hs hal ha hr'
    have hin : Seq.atOrAfter b.read s && Seq.atOrAfter s b.write := by
      simp only [Bool.and_eq_true, Seq.atOrAfter_iff]
      exact ⟨hr', hbefore⟩
    have hput : a.put b.shape s ts pcm = (.late, { a with discardBefore := none }.insert s ts pcm) := by
      simp [Store.put, hdrop, hd, ← hr.synced, hs, ← hr.write, show ¬0 < Seq.diff b.write s by omega,
        ← hr.read, hin, ← hr.isReady_eq, hready]
    rw [hput]
    refine ⟨rfl, ?_⟩
    apply Refines.store
    · exact hadm.congr rfl rfl rfl rfl rfl rfl rfl
    · exact hpos
    · exact hw.size
    · intro t hts hidx
      exact hr.slot_free hw hcap hr' hnear hts hidx
  | tooLate hd hs ha hr' =>
    have hput : a.put b.shape s ts pcm = (.tooLate, { a with discardBefore := none }) := by
      simp [Store.put, hdrop, hd, ← hr.synced, hs, ← hr.write, show ¬0 < Seq.diff b.write s by omega,
        ← hr.read, show ¬0 ≤ Seq.diff b.read s by omega]
    rw [hput]
    exact ⟨rfl, hadm.congr rfl rfl rfl rfl rfl rfl rfl⟩

theorem Refines.reset (hr : b.Refines a) : b.reset.Refines a.reset := by
  refine ⟨rfl, hr.read, hr.write, hr.readTs, hr.discardBefore, ?_⟩
  intro t
  simp [Store.reset]

theorem Refines.flush (hr : b.Refines a) (target : Option UInt32) :
    (b.flush target).Refines { a.reset with discardBefore := target } := by
  refine ⟨rfl, hr.read, hr.write, hr.readTs, rfl, ?_⟩
  intro t
  rw [lookup_congr (b := b.reset) (c := b.flush target) rfl rfl, lookup_reset]
  rfl

theorem refines_create (cap : Nat) (fpp : UInt32) (frameSamples startFill : Nat) (span : UInt16) :
    (create cap fpp frameSamples startFill span).Refines Store.empty := by
  refine ⟨rfl, rfl, rfl, rfl, rfl, ?_⟩
  intro t
  rw [lookup_congr (b := (create cap fpp frameSamples startFill span).reset)
    (c := create cap fpp frameSamples startFill span) rfl rfl, lookup_reset]
  rfl

section Related

variable (hw : b.Window) (hr : b.Refines a) (hcap : b.shape.capacity ∣ 65536)
  (hpos : 0 < b.shape.capacity)
include hw hr hcap hpos

theorem refines_get : b.get.1 = (a.get b.shape).1 ∧ b.get.2.Refines (a.get b.shape).2 := by
  by_cases hf : b.fill = 0
  · have ha : a.fill = 0 := hr.fill_eq ▸ hf
    have hget : a.get b.shape = (none, a) := by simp [Store.get, ha]
    rw [get_of_fill_eq_zero hf, hget]
    exact ⟨rfl, hr⟩
  · have ha : a.fill ≠ 0 := hr.fill_eq ▸ hf
    obtain ⟨pending, stats, hget⟩ := get_snd hf
    have hget' : a.get b.shape =
        (some (a.frameAt b.shape), a.advance b.shape (a.frameAt b.shape).ts) := by
      simp [Store.get, ha]
    rw [get_fst hf, hget, hget', ← hr.frameAt_eq]
    exact ⟨rfl, (hr.advance hw hcap hpos b.frameAt.ts).congr rfl rfl rfl rfl rfl rfl rfl⟩

theorem refines_skipLoop (n k : Nat) :
    (b.skipLoop n k).1 = k + (a.skip b.shape n).1 ∧ (b.skipLoop n k).2.Refines (a.skip b.shape n).2 := by
  induction n generalizing b a k with
  | zero => exact ⟨rfl, hr⟩
  | succ n ih =>
    rw [skipLoop_succ]
    by_cases hf : b.fill = 0
    · have ha : a.fill = 0 := hr.fill_eq ▸ hf
      have hskip : a.skip b.shape (n + 1) = (0, a) := by simp [Store.skip, ha]
      rw [if_pos hf, hskip]
      exact ⟨rfl, hr⟩
    · have ha : a.fill ≠ 0 := hr.fill_eq ▸ hf
      simp only [hf, if_false, Store.skip, ha]
      -- one frame leaves both, and the rest of the skip starts from the advanced pair
      have step := ih (window_advance hw hf _) (hr.advance hw hcap hpos b.frameAt.ts)
        (by rwa [advance_shape]) (by rwa [advance_shape]) (k + 1)
      rw [advance_shape] at step
      rw [← hr.frameAt_eq]
      exact ⟨by omega, step.2⟩

/-- One operation gives the same reply to both, resend requests aside, and keeps them related. -/
theorem refines_exec (hle : b.shape.capacity ≤ 16384) (op : BufferOp) (hop : b.aliases op = false) :
    (b.exec op).1.erase = (a.exec b.shape op).1 ∧ (b.exec op).2.Refines (a.exec b.shape op).2 := by
  cases op with
  | put s ts pcm =>
    have hal : ¬b.Aliased s := by simpa [aliases] using hop
    obtain ⟨ho, hr'⟩ := refines_put hw hr hcap hpos hle hal ts pcm
    exact ⟨congrArg BufferReply.put ho, hr'⟩
  | get =>
    obtain ⟨hf, hr'⟩ := refines_get hw hr hcap hpos
    exact ⟨congrArg BufferReply.get hf, hr'⟩
  | skip n =>
    obtain ⟨hk, hr'⟩ := refines_skipLoop hw hr hcap hpos n 0
    rw [exec_skip, skip_snd]
    refine ⟨?_, hr'.congr rfl rfl rfl rfl rfl rfl rfl⟩
    simp [Store.exec, BufferReply.erase, skip, hk]
  | takeResends => exact ⟨rfl, hr.congr rfl rfl rfl rfl rfl rfl rfl⟩
  | reset => exact ⟨rfl, hr.reset⟩
  | flush target => exact ⟨rfl, hr.flush target⟩
  | setBuffering v => exact ⟨rfl, hr.congr rfl rfl rfl rfl rfl rfl rfl⟩

theorem refines_run (hle : b.shape.capacity ≤ 16384) (ops : List BufferOp) (hops : b.aliasFree ops = true) :
    (b.run ops).1.map BufferReply.erase = (a.run b.shape ops).1 ∧ (b.run ops).2.Refines (a.run b.shape ops).2 := by
  induction ops generalizing b a with
  | nil => exact ⟨rfl, hr⟩
  | cons op ops ih =>
    simp only [aliasFree, Bool.and_eq_true, Bool.not_eq_true'] at hops
    obtain ⟨hreply, hr'⟩ := refines_exec hw hr hcap hpos hle op hops.1
    have hshape := shape_exec b op
    obtain ⟨hrest, hfinal⟩ := ih (window_exec hw hpos hle op hops.1) hr' (by rwa [hshape])
      (by rwa [hshape]) (by rwa [hshape]) hops.2
    rw [hshape] at hrest hfinal
    simp only [run_cons_fst, run_cons_snd, Store.run_cons_fst, Store.run_cons_snd, List.map_cons]
    exact ⟨by rw [hreply, hrest], hfinal⟩

end Related

/-- From a fresh buffer, every run that puts no aliased sequence number answers every
operation as the store does: the same outcome for each put, the same frame for each get and the
same count for each skip. -/
theorem run_refines {cap : Nat} (hpow : isPowerOfTwo cap = true) (hlo : 4 ≤ cap) (hhi : cap ≤ 16384)
    (fpp : UInt32) (frameSamples startFill : Nat) (span : UInt16) (ops : List BufferOp)
    (hops : (create cap fpp frameSamples startFill span).aliasFree ops = true) :
    ((create cap fpp frameSamples startFill span).run ops).1.map BufferReply.erase =
      (Store.empty.run ⟨cap, fpp, frameSamples, startFill, max span.toNat 1⟩ ops).1 :=
  (refines_run (window_create cap fpp frameSamples startFill span)
    (refines_create cap fpp frameSamples startFill span) (Seq.dvd_of_isPowerOfTwo hpow (show cap ≤ 65536 by omega))
    (show 0 < cap by omega) hhi ops hops).1

theorem run_refines_four :
    (create 4 1 1 2 1).aliasFree [.put 0 0 [7], .put 2 2 [9], .takeResends, .put 1 1 [8], .get, .skip 2] = true ∧
    ((create 4 1 1 2 1).run [.put 0 0 [7], .put 2 2 [9], .takeResends, .put 1 1 [8], .get, .skip 2]).1.map
        BufferReply.erase =
      (Store.empty.run ⟨4, 1, 1, 2, 1⟩ [.put 0 0 [7], .put 2 2 [9], .takeResends, .put 1 1 [8], .get, .skip 2]).1 :=
  ⟨by decide, run_refines (by decide) (by decide) (by decide) 1 1 2 1 _ (by decide)⟩

/-- A packet half a turn behind the write cursor, put once the buffer is emptied, is stored as
late by the ring but refused as too late by the store. -/
theorem store_aliased_put :
    ((create 4 1 1 2 1).run [.put 0 0 [7], .get, .put 32768 5 [9]]).1 =
      [.put .synced, .get (some ⟨0, 0, [7], false⟩), .put .late] ∧
    (Store.empty.run ⟨4, 1, 1, 2, 1⟩ [.put 0 0 [7], .get, .put 32768 5 [9]]).1 =
      [.put .synced, .get (some ⟨0, 0, [7], false⟩), .put .tooLate] := by
  decide

end JitterBuffer

end Playout
