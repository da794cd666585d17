import Playout.Proofs.Engine.Receive
import Playout.Proofs.Buffer.Window

/-!
# Flushing while playback runs

The caller flushes under the lock; playback takes its next step under the lock and carries it
out at the output after letting the lock go. A `Player` is the engine together with the step
playback holds between the two, and `Player.run` takes any interleaving of the caller's turns
with playback's two halves; back to back the two halves are one pass (`Player.run_fetch_perform`).

After a flush the output gets at most the step playback already held, then the flush
(`Player.run_flushPending`). From the flush on, the buffer holds only frames put since
(`Player.StoresOnly`), because playback only takes frames out (`Engine.PlaysFrom`); so no frame
buffered at the flush is played after the output's flush. Without new packets the session stays
buffering on an empty buffer (`Player.Quiet`). `Player.flush_reaches_output_in_order` puts these
together.
-/

namespace Playout

namespace JitterBuffer

/-! ## What a buffer holds -/

/-- Every frame stored in `b` satisfies `G`. -/
def StoresOnly (G : Slot → Prop) (b : JitterBuffer) : Prop := ∀ slot, some slot ∈ b.slots → G slot

variable {G : Slot → Prop} {b : JitterBuffer}

theorem StoresOnly.of_mem {b' : JitterBuffer} (h : b.StoresOnly G)
    (hmem : ∀ slot, some slot ∈ b'.slots → some slot ∈ b.slots) : b'.StoresOnly G :=
  fun slot hslot => h slot (hmem slot hslot)

theorem storesOnly_of_empty {n : Nat} (h : b.slots = Array.replicate n none) : b.StoresOnly G := by
  intro slot hslot
  rw [h] at hslot
  simp at hslot

theorem StoresOnly.clearSlot (h : b.StoresOnly G) (s : UInt16) : (b.clearSlot s).StoresOnly G :=
  h.of_mem fun slot hslot => (Array.mem_or_eq_of_mem_setIfInBounds hslot).resolve_right (by simp)

theorem StoresOnly.store (h : b.StoresOnly G) {s : UInt16} {ts : UInt32} {pcm : List Sample}
    (hnew : G ⟨s, ts, fitTo b.shape.frameSamples pcm⟩) : (b.store s ts pcm).StoresOnly G := by
  intro slot hslot
  rcases Array.mem_or_eq_of_mem_setIfInBounds hslot with hold | hnew'
  · exact h slot hold
  · rw [Option.some_inj.mp hnew']
    exact hnew

theorem StoresOnly.advance (h : b.StoresOnly G) (ts : UInt32) : (b.advance ts).StoresOnly G :=
  h.clearSlot b.read

theorem StoresOnly.get (h : b.StoresOnly G) : b.get.2.StoresOnly G :=
  get_snd_induction (StoresOnly G) b (fun _ => h) fun _ _ _ => h.advance b.frameAt.ts

theorem StoresOnly.skip (h : b.StoresOnly G) (n : Nat) : (b.skip n).2.StoresOnly G := by
  rw [skip_snd]
  exact skipLoop_induction (StoresOnly G) (fun b _ hb => hb.advance _) b n 0 h

theorem StoresOnly.put (h : b.StoresOnly G) {s : UInt16} {ts : UInt32} {pcm : List Sample}
    (hnew : G ⟨s, ts, fitTo b.shape.frameSamples pcm⟩) : (b.put s ts pcm).2.StoresOnly G := by
  have hcase := put_case b s ts pcm
  generalize (b.put s ts pcm).1 = outcome at hcase
  generalize (b.put s ts pcm).2 = b' at hcase ⊢
  -- the buffer's own frames, or a fresh buffer, with at most the new frame stored in it
  cases hcase with
  | flushed => exact h
  | synced => exact (storesOnly_of_empty rfl).store hnew
  | overrun => exact (storesOnly_of_empty rfl).store hnew
  | expected => exact h.store hnew
  | gap => exact h.store hnew
  | duplicate => exact h
  | late => exact h.store hnew
  | tooLate => exact h

theorem mem_of_lookup {s : UInt16} {slot : Slot} (h : b.lookup s = some slot) :
    some slot ∈ b.slots ∧ slot.seq = s := by
  unfold lookup at h
  rw [Array.getD_eq_getD_getElem?] at h
  cases hi : b.slots[b.index s]? with
  | none => simp [hi] at h
  | some x =>
    rw [hi, Option.getD_some] at h
    cases x with
    | none => cases h
    | some stored =>
      dsimp only at h
      split at h
      · rename_i hseq
        cases h
        exact ⟨Array.mem_of_getElem? hi, hseq⟩
      · cases h

theorem StoresOnly.frameAt (h : b.StoresOnly G) :
    b.frameAt.missing = true ∨ G ⟨b.frameAt.seq, b.frameAt.ts, b.frameAt.pcm⟩ := by
  unfold JitterBuffer.frameAt
  cases hlookup : b.lookup b.read with
  | none => exact .inl rfl
  | some slot =>
    obtain ⟨hmem, hseq⟩ := mem_of_lookup hlookup
    right
    rw [← hseq]
    exact h slot hmem

theorem StoresOnly.frame_of_get (h : b.StoresOnly G) {f : Frame} (hf : b.get.1 = some f) :
    f.missing = true ∨ G ⟨f.seq, f.ts, f.pcm⟩ := by
  by_cases hfill : b.fill = 0
  · rw [get_of_fill_eq_zero hfill] at hf
    cases hf
  · rw [get_fst hfill] at hf
    cases hf
    exact h.frameAt

theorem storesOnly_reset : b.reset.StoresOnly G := storesOnly_of_empty rfl

theorem storesOnly_flush (target : Option UInt32) : (b.flush target).StoresOnly G := storesOnly_of_empty rfl

/-! ## What playback does to a buffer -/

/-- The ways playback changes a buffer: it takes the next frame or skips frames, takes the
resend requests, empties the buffer after an underrun, or stops or starts buffering. -/
inductive PlaybackOp : JitterBuffer → JitterBuffer → Prop
  | get (b : JitterBuffer) : PlaybackOp b b.get.2
  | skip (b : JitterBuffer) (n : Nat) : PlaybackOp b (b.skip n).2
  | takeResends (b : JitterBuffer) : PlaybackOp b b.takeResends.2
  | reset (b : JitterBuffer) : PlaybackOp b b.reset
  | setBuffering (b : JitterBuffer) (v : Bool) : PlaybackOp b (b.setBuffering v)

theorem PlaybackOp.storesOnly {b' : JitterBuffer} (hop : PlaybackOp b b') (h : b.StoresOnly G) :
    b'.StoresOnly G := by
  cases hop with
  | get => exact h.get
  | skip n => exact h.skip n
  | takeResends => exact h
  | reset => exact storesOnly_reset
  | setBuffering v => exact h

/-- A change of playback is an operation of the buffer that puts nothing. -/
theorem PlaybackOp.exec {b' : JitterBuffer} (hop : PlaybackOp b b') : ∃ op, b.aliases op = false ∧ b' = (b.exec op).2 := by
  cases hop with
  | get => exact ⟨.get, rfl, rfl⟩
  | skip n => exact ⟨.skip n, rfl, rfl⟩
  | takeResends => exact ⟨.takeResends, rfl, rfl⟩
  | reset => exact ⟨.reset, rfl, rfl⟩
  | setBuffering v => exact ⟨.setBuffering v, rfl, rfl⟩

theorem PlaybackOp.shape {b' : JitterBuffer} (hop : PlaybackOp b b') : b'.shape = b.shape := by
  obtain ⟨op, -, rfl⟩ := hop.exec
  exact shape_exec b op

/-- Any number of playback's changes, in order. -/
def Playback : JitterBuffer → JitterBuffer → Prop := Relation.ReflTransGen PlaybackOp

theorem Playback.storesOnly {b' : JitterBuffer} (hp : Playback b b') (h : b.StoresOnly G) :
    b'.StoresOnly G := by
  induction hp with
  | refl => exact h
  | tail _ hop ih => exact hop.storesOnly ih

theorem Playback.shape {b' : JitterBuffer} (hp : Playback b b') : b'.shape = b.shape := by
  induction hp with
  | refl => rfl
  | tail _ hop ih => exact hop.shape.trans ih

end JitterBuffer

namespace Session

theorem core_eq {s s' : Session} (h : s'.core = s.core) :
    s'.phase = s.phase ∧ s'.flushPending = s.flushPending ∧ s'.buffer = s.buffer ∧ s'.reference = s.reference := by
  simpa [core] using h

end Session

/-- The frame a step hands the output, if any, is silence standing in for a lost packet or a
frame stored as `G` allows. -/
def Step.FramesFrom (G : Slot → Prop) : Step → Prop
  | .frame f _ _ => f.missing = true ∨ G ⟨f.seq, f.ts, f.pcm⟩
  | _ => True

namespace Engine

open JitterBuffer

/-- A step of playback, from the session `s` it found to the session `s'` it left: the buffer
changed only as playback changes it, the decoder kept, and any frame handed out taken from the
buffer on the way. -/
structure PlaysFrom (s : Session) (step : Step) (s' : Session) : Prop where
  decoder : s'.decoder = s.decoder
  buffer : Playback s.buffer s'.buffer
  frame : ∀ f fill resends, step = .frame f fill resends → ∃ b, Playback s.buffer b ∧ b.get.1 = some f

variable {s S s' : Session} {step : Step}

theorem PlaysFrom.after (h : PlaysFrom S step s') (hpath : Playback s.buffer S.buffer)
    (hdecoder : S.decoder = s.decoder) : PlaysFrom s step s' where
  decoder := h.decoder.trans hdecoder
  buffer := hpath.trans h.buffer
  frame f fill resends hstep := by
    obtain ⟨b, hb, hget⟩ := h.frame f fill resends hstep
    exact ⟨b, hpath.trans hb, hget⟩

theorem PlaysFrom.still (hbuffer : s'.buffer = s.buffer) (hdecoder : s'.decoder = s.decoder)
    (hstep : ∀ f fill resends, step ≠ .frame f fill resends) : PlaysFrom s step s' where
  decoder := hdecoder
  buffer := hbuffer ▸ .refl
  frame f fill resends h := absurd h (hstep f fill resends)

theorem playingStep_playsFrom (e : Engine) (s : Session) (queued : Option Nat) :
    ∃ s', (e.playingStep s queued).2.session = some s' ∧ PlaysFrom s (e.playingStep s queued).1 s' := by
  unfold playingStep
  split
  · -- an underrun empties the buffer
    exact ⟨_, rfl, rfl, .single (.reset _), fun _ _ _ h => by cases h⟩
  · split
    · rename_i f b hget
      have hb : b = s.buffer.get.2 := by rw [hget]
      refine ⟨_, rfl, rfl, ?_, ?_⟩
      · exact (Relation.ReflTransGen.single (hb ▸ PlaybackOp.get s.buffer)).tail (.takeResends b)
      · intro f' fill resends h
        cases h
        exact ⟨s.buffer, .refl, by rw [hget]⟩
    · rename_i b hget
      have hb : b = s.buffer.get.2 := by rw [hget]
      exact ⟨_, rfl, rfl, .single (hb ▸ PlaybackOp.get s.buffer), fun _ _ _ h => by cases h⟩

theorem playingStep_after (e : Engine) {S S' : Session} (queued : Option Nat) (hpath : Playback S.buffer S'.buffer)
    (hdecoder : S'.decoder = S.decoder) :
    ∃ s', (e.playingStep S' queued).2.session = some s' ∧ PlaysFrom S (e.playingStep S' queued).1 s' := by
  obtain ⟨s', hs', hplays⟩ := playingStep_playsFrom e S' queued
  exact ⟨s', hs', hplays.after hpath hdecoder⟩

theorem leadInDecide_playsFrom (e : Engine) (S : Session) (queued : Option Nat) (gap frameTime : Int) :
    ∃ s', (e.leadInDecide S queued gap frameTime).2.session = some s' ∧
      PlaysFrom S (e.leadInDecide S queued gap frameTime).1 s' := by
  unfold leadInDecide
  split
  · -- one more frame of silence
    exact ⟨_, rfl, .still rfl rfl fun _ _ _ h => by cases h⟩
  · -- playback starts, after a last partial silence or skipping the frames already due
    simp only [enterPlaying, modifySession, modifyCounters, Option.map_some]
    have hstart : Playback S.buffer (S.buffer.setBuffering false) := .single (.setBuffering _ _)
    split
    · split
      · exact ⟨_, rfl, (PlaysFrom.still rfl rfl fun _ _ _ h => by cases h).after hstart rfl⟩
      · exact playingStep_after _ queued hstart rfl
    · by_cases hlate : 0 < ((wrapSigned 64 (-gap)).tdiv frameTime).toNat
      · rw [if_pos hlate]
        exact playingStep_after _ queued (hstart.tail (.skip _ _)) rfl
      · rw [if_neg hlate]
        exact playingStep_after _ queued hstart rfl

theorem leadInStep_playsFrom (e : Engine) (S : Session) (queued : Option Nat) :
    ∃ s', (e.leadInStep S queued).2.session = some s' ∧ PlaysFrom S (e.leadInStep S queued).1 s' := by
  rcases leadInStep_eq_or e S queued with heq | ⟨gap, frameTime, heq⟩
  · rw [heq]
    exact ⟨_, rfl, .still rfl rfl fun _ _ _ h => by cases h⟩
  · rw [heq]
    obtain ⟨s', hs', hplays⟩ := leadInDecide_playsFrom e { S with leadIn := some (S.leadIn.getD ⟨e.now, 0⟩) }
      queued gap frameTime
    exact ⟨s', hs', hplays.after .refl rfl⟩

/-- Every step of playback takes frames out of the buffer as playback does and keeps the
decoder. -/
theorem nextStep_playsFrom (e : Engine) {s : Session} (queued : Option Nat) (hs : e.session = some s) :
    ∃ s', (e.nextStep queued).2.session = some s' ∧ PlaysFrom s (e.nextStep queued).1 s' := by
  unfold nextStep
  rw [hs]
  dsimp only
  split
  · exact ⟨_, rfl, .still rfl rfl fun _ _ _ h => by cases h⟩
  · split
    · split
      · obtain ⟨s', hs', hplays⟩ := leadInStep_playsFrom e { s with phase := .synchronizing, leadIn := some ⟨e.now, 0⟩ } queued
        exact ⟨s', hs', hplays.after .refl rfl⟩
      · exact ⟨s, hs, .still rfl rfl fun _ _ _ h => by cases h⟩
    · split
      · exact leadInStep_playsFrom e s queued
      · exact ⟨_, rfl, .still rfl rfl fun _ _ _ h => by cases h⟩
    · exact playingStep_playsFrom e s queued

theorem perform_decoder (e : Engine) (step : Step) :
    (e.perform step).session.map Session.decoder = e.session.map Session.decoder := by
  cases step with
  | idle => rfl
  | flushed =>
    simp only [perform, modifySession]
    cases e.session <;> rfl
  | underrun =>
    simp only [perform, modifySession]
    cases e.session <;> rfl
  | silence frames => simp [perform, modifyCounters, playOut_session]
  | frame f fill resends =>
    simp only [perform, playFrame]
    cases hs : (e.request resends).session with
    | none =>
      simp only [request] at hs
      simp [request, hs]
    | some s =>
      simp only [request] at hs
      simp [modifySession, modifyCounters, playOut_session, request, hs]

theorem perform_session {e : Engine} {s : Session} (hs : e.session = some s) (step : Step) :
    ∃ s', (e.perform step).session = some s' ∧ s'.core = s.core ∧ s'.decoder = s.decoder := by
  have hcore := perform_core e step
  have hdecoder := perform_decoder e step
  rw [hs, Option.map_some, Option.map_eq_some_iff] at hcore
  obtain ⟨s', hs', hc⟩ := hcore
  rw [hs, hs', Option.map_some, Option.map_some, Option.some_inj] at hdecoder
  exact ⟨s', hs', hc, hdecoder⟩

theorem PassCase.reference {s s' : Session} {step : Step} (hcase : PassCase s step s') :
    s'.reference = s.reference := by
  cases hcase with
  | flushed _ hc => exact (congrArg (fun c => c.2.2.2) hc :)
  | wait _ _ _ hc => exact (congrArg (fun c => c.2.2.2) hc :)
  | leadIn _ _ _ _ hc => exact (congrArg (fun c => c.2.2.2) hc :)
  | enter _ _ _ _ _ href _ => exact href
  | underrun _ _ hc => exact (congrArg (fun c => c.2.2.2) hc :)
  | play _ _ _ _ _ href _ => exact href

theorem PassCase.flushed_of_pending {s s' : Session} {step : Step} (hcase : PassCase s step s')
    (hf : s.flushPending = true) : step = .flushed := by
  cases hcase with
  | flushed => rfl
  | wait hf' => simp [hf] at hf'
  | leadIn hf' => simp [hf] at hf'
  | enter hf' => simp [hf] at hf'
  | underrun hf' => simp [hf] at hf'
  | play hf' => simp [hf] at hf'

theorem start_of_running {e : Engine} {s : Session} (hs : e.session = some s) (sc : SessionConfig)
    (spawn : Except String Unit) : e.start sc spawn = (.error .alreadyRunning, e) := by
  simp [start, startChecks, isRunning, hs, bind, Except.bind, throw, throwThe, MonadExceptOf.throw]

/-- The pass a thread stops on takes no frame, keeps the decoder and changes the buffer at most by
ending its buffering. -/
theorem crash_playsFrom (e : Engine) (f : Fault) {s : Session} (hs : e.session = some s) :
    ∃ s', (e.crash f).session = some s' ∧ PlaysFrom s .idle s' := by
  have hs₁ : e.forwardVolume.session = some s := (forwardVolume_session e).trans hs
  have hstop : ∀ S : Session, S.buffer = s.buffer → S.decoder = s.decoder →
      ∃ s', (if f = Fault.negOverflow then enterPlaying { e.forwardVolume with session := some S }
        else { e.forwardVolume with session := some S }).session = some s' ∧ PlaysFrom s .idle s' := by
    intro S hbuffer hdecoder
    split
    · exact ⟨_, rfl, hdecoder, hbuffer ▸ .single (.setBuffering _ _), fun _ _ _ h => by cases h⟩
    · exact ⟨S, rfl, .still hbuffer hdecoder fun _ _ _ h => by cases h⟩
  cases hphase : s.phase with
  | buffering =>
    simp only [crash, hs₁, hphase]
    exact hstop _ rfl rfl
  | _ =>
    simp only [crash, hs₁, hphase]
    exact hstop s rfl rfl

end Engine

namespace FrameDecoder

/-- The samples a session stores for a payload: the decoded frame, or a frame of silence where
the payload does not decode. -/
def samplesOf (d : FrameDecoder) (payload : Bytes) : List Int :=
  match d.decodeFrame (d.deciphered payload) with
  | .ok (.ok pcm) => pcm
  | _ => List.replicate d.frameSamples 0

@[simp] theorem samplesOf_withPlaintext (d : FrameDecoder) (buf : Bytes) :
    { d with plaintext := buf }.samplesOf = d.samplesOf := rfl

end FrameDecoder

namespace Engine

theorem put_stores {e e' : Engine} {s : Session} (hs : e.session = some s) {seq : UInt16} {ts : UInt32}
    {payload : Bytes} {o : Option PutOutcome} (h : e.put seq ts payload = .ok (o, e')) :
    ∃ buf, e'.session = some { s with
      buffer := { (s.buffer.put seq ts (s.decoder.samplesOf payload)).2 with pending := [] }
      decoder := { s.decoder with plaintext := buf } } := by
  obtain ⟨buf, hd⟩ := s.decoder.decode_eq payload
  refine ⟨buf, ?_⟩
  unfold put at h
  rw [hs] at h
  dsimp only at h
  rw [hd] at h
  cases hr : s.decoder.decodeFrame (s.decoder.deciphered payload) with
  | error f =>
    rw [hr] at h
    cases h
  | ok r =>
    simp only [hr, Except.map, bind, Except.bind] at h
    -- an undecodable payload is stored as a frame of zeros
    cases r with
    | ok pcm =>
      cases h
      simp only [FrameDecoder.samplesOf, hr]
      rfl
    | error err =>
      cases h
      simp only [FrameDecoder.samplesOf, hr]
      rfl

/-- An operation that finds a session running and leaves one running is a pass, the pass the
thread stops on, a put, an anchor, a flush, or leaves the session as it was. -/
theorem Transition.of_running {e e' : Engine} (ht : Transition e e') {s s' : Session}
    (hs : e.session = some s) (hs' : e'.session = some s') :
    e' = e.pass.2 ∨ (∃ f, e.passFault = some f ∧ e' = e.crash f) ∨
      (∃ seq ts payload buf, s' = { s with
        buffer := { (s.buffer.put seq ts (s.decoder.samplesOf payload)).2 with pending := [] }
        decoder := { s.decoder with plaintext := buf } }) ∨
      (∃ ts time, s' = { s with reference := s.reference.setAnchor ts time }) ∨
      (∃ target, s' = { s with
        buffer := s.buffer.flush target, reference := s.reference.clear, phase := .buffering
        flushPending := true }) ∨
      s' = s := by
  cases ht with
  | start sc spawn =>
    rw [start_of_running hs, hs, Option.some_inj] at hs'
    exact .inr (.inr (.inr (.inr (.inr hs'.symm))))
  | stop h =>
    rw [stop_session h] at hs'
    cases hs'
  | put seq ts payload h =>
    obtain ⟨buf, hstored⟩ := put_stores hs h
    rw [hstored, Option.some_inj] at hs'
    exact .inr (.inr (.inl ⟨seq, ts, payload, buf, hs'.symm⟩))
  | receive datagram h =>
    obtain ⟨seq, ts, payload, hput⟩ := put_of_receive h
    obtain ⟨buf, hstored⟩ := put_stores hs hput
    rw [hstored, Option.some_inj] at hs'
    exact .inr (.inr (.inl ⟨seq, ts, payload, buf, hs'.symm⟩))
  | setAnchor ts time =>
    simp only [Engine.setAnchor, modifySession, hs, Option.map_some, Option.some_inj] at hs'
    exact .inr (.inr (.inr (.inl ⟨ts, time, hs'.symm⟩)))
  | flush target =>
    simp only [Engine.flush, modifySession, hs, Option.map_some, Option.some_inj] at hs'
    exact .inr (.inr (.inr (.inr (.inl ⟨target, hs'.symm⟩))))
  | setVolume db =>
    rw [show (e.setVolume db).session = e.session from rfl, hs, Option.some_inj] at hs'
    exact .inr (.inr (.inr (.inr (.inr hs'.symm))))
  | setClock t =>
    rw [show (e.setClock t).session = e.session from rfl, hs, Option.some_inj] at hs'
    exact .inr (.inr (.inr (.inr (.inr hs'.symm))))
  | setQueued frames =>
    rw [hs, Option.some_inj] at hs'
    exact .inr (.inr (.inr (.inr (.inr hs'.symm))))
  | pass => exact .inl rfl
  | crash _ hf => exact .inr (.inl ⟨_, hf, rfl⟩)

end Engine

end Playout

namespace Playout

/-! ## The player's threads -/

/-- The player as its threads share it: the engine behind the lock, and the step playback has
taken under the lock and not yet carried out at the output. -/
structure Player where
  engine : Engine
  held : Option Step
deriving Inhabited

/-- One thread's turn at the player. The caller's operations each hold the lock throughout;
playback takes its next step under the lock and carries it out at the output after letting
the lock go, so other turns can come between the two. -/
inductive Turn where
  | start (config : SessionConfig)
  | stop
  | put (seq : UInt16) (ts : UInt32) (payload : Bytes)
  | flush (target : Option UInt32)
  | setAnchor (ts : UInt32) (time : UInt64)
  | setVolume (db : Float)
  | setClock (time : UInt64)
  /-- The output's queue changes as it plays. -/
  | setQueued (frames : Option Nat)
  /-- Playback hands a pending volume to the output, reads its queue and takes the next step. -/
  | fetch
  /-- Playback carries out the step it holds. -/
  | perform

namespace Turn

def isStop : Turn → Bool
  | .stop => true
  | _ => false

def isPut : Turn → Bool
  | .put .. => true
  | _ => false

def isSetAnchor : Turn → Bool
  | .setAnchor .. => true
  | _ => false

end Turn

namespace Player

/-- Takes a turn; `none` where it cannot be taken: playback takes a step only with none held
and carries one out only when it holds one, and a decoder fault stops the program. A refused
start or stop changes nothing. -/
def turn (p : Player) : Turn → Option Player
  | .start config => some { p with engine := (p.engine.start config).2 }
  | .stop =>
    match p.engine.stop with
    | .ok e => some { p with engine := e }
    | .error _ => some p
  | .put seq ts payload =>
    match p.engine.put seq ts payload with
    | .ok (_, e) => some { p with engine := e }
    | .error _ => none
  | .flush target => some { p with engine := p.engine.flush target }
  | .setAnchor ts time => some { p with engine := p.engine.setAnchor ts time }
  | .setVolume db => some { p with engine := p.engine.setVolume db }
  | .setClock time => some { p with engine := p.engine.setClock time }
  | .setQueued frames => some { p with engine := { p.engine with sink := p.engine.sink.setQueued frames } }
  | .fetch =>
    match p.held with
    | none =>
      some ⟨(p.engine.forwardVolume.nextStep p.engine.forwardVolume.sink.delay).2,
        some (p.engine.forwardVolume.nextStep p.engine.forwardVolume.sink.delay).1⟩
    | some _ => none
  | .perform =>
    match p.held with
    | some step => some ⟨p.engine.perform step, none⟩
    | none => none

/-- The step a turn carries out at the output. -/
def carriedOut (p : Player) : Turn → List Step
  | .perform => p.held.toList
  | _ => []

/-- Takes the turns in order and collects the steps carried out at the output; `none` if a
turn cannot be taken. -/
def run (p : Player) : List Turn → Option (List Step × Player)
  | [] => some ([], p)
  | t :: ts =>
    match p.turn t with
    | none => none
    | some q => (q.run ts).map fun r => (p.carriedOut t ++ r.1, r.2)

theorem run_fetch_perform (e : Engine) :
    (⟨e, none⟩ : Player).run [.fetch, .perform] = some ([e.pass.1], ⟨e.pass.2, none⟩) := rfl

variable {p q : Player} {t : Turn} {ts : List Turn} {steps : List Step}

theorem held_of_mem_carriedOut {x : Step} (hx : x ∈ p.carriedOut t) : p.held = some x := by
  cases t with
  | perform => exact Option.mem_toList.mp hx
  | _ => cases hx

theorem run_cons_eq_some (h : p.run (t :: ts) = some (steps, q)) :
    ∃ p' steps', p.turn t = some p' ∧ p'.run ts = some (steps', q) ∧ steps = p.carriedOut t ++ steps' := by
  simp only [run] at h
  cases ht : p.turn t with
  | none => rw [ht] at h; cases h
  | some p' =>
    rw [ht, Option.map_eq_some_iff] at h
    obtain ⟨⟨steps', q'⟩, hrun, heq⟩ := h
    cases heq
    exact ⟨p', steps', rfl, hrun, rfl⟩

theorem run_cons_of {p' : Player} (ht : p.turn t = some p') (h : p'.run ts = some (steps, q)) :
    p.run (t :: ts) = some (p.carriedOut t ++ steps, q) := by
  simp only [run, ht, h, Option.map_some]

/-- What every allowed turn keeps, a run of allowed turns keeps; and if each turn carries out
only steps satisfying `O`, so does the run. -/
theorem run_invariant (I : Player → Prop) (C : Turn → Prop) (O : Step → Prop)
    (hturn : ∀ p t q, I p → C t → p.turn t = some q → I q ∧ ∀ x ∈ p.carriedOut t, O x) :
    ∀ (ts : List Turn) (p : Player) {steps : List Step} {q : Player}, I p → (∀ t ∈ ts, C t) →
      p.run ts = some (steps, q) → I q ∧ ∀ x ∈ steps, O x := by
  intro ts
  induction ts with
  | nil =>
    intro p steps q hp _ h
    cases h
    exact ⟨hp, by simp⟩
  | cons t ts ih =>
    intro p steps q hp hc h
    obtain ⟨p', steps', ht, hrun, rfl⟩ := run_cons_eq_some h
    obtain ⟨hp', hout⟩ := hturn p t p' hp (hc t (by simp)) ht
    obtain ⟨hq, hsteps⟩ := ih p' hp' (fun t' ht' => hc t' (by simp [ht'])) hrun
    refine ⟨hq, fun x hx => ?_⟩
    rcases List.mem_append.mp hx with hx | hx
    · exact hout x hx
    · exact hsteps x hx

theorem turn_held (ht : p.turn t = some q) (hfetch : t ≠ .fetch) (hperform : t ≠ .perform) :
    q.held = p.held ∧ p.carriedOut t = [] := by
  cases t with
  | start config =>
    simp only [turn, Option.some_inj] at ht
    cases ht
    exact ⟨rfl, rfl⟩
  | stop =>
    simp only [turn] at ht
    split at ht <;> cases ht <;> exact ⟨rfl, rfl⟩
  | put seq ts payload =>
    simp only [turn] at ht
    split at ht
    · cases ht
      exact ⟨rfl, rfl⟩
    · cases ht
  | fetch => exact absurd rfl hfetch
  | perform => exact absurd rfl hperform
  | _ =>
    simp only [turn, Option.some_inj] at ht
    cases ht
    exact ⟨rfl, rfl⟩

/-- A player holding a step carries it out before any other. -/
theorem run_held {x : Step} : ∀ (ts : List Turn) (p : Player) {steps : List Step} {q : Player},
    p.held = some x → p.run ts = some (steps, q) → steps = [] ∨ ∃ rest, steps = x :: rest := by
  intro ts
  induction ts with
  | nil =>
    intro p steps q _ h
    cases h
    exact .inl rfl
  | cons t ts ih =>
    intro p steps q hx h
    obtain ⟨p', steps', ht, hrun, rfl⟩ := run_cons_eq_some h
    by_cases hfetch : t = .fetch
    · subst hfetch
      simp [turn, hx] at ht
    by_cases hperform : t = .perform
    · subst hperform
      exact .inr ⟨steps', by simp [carriedOut, hx]⟩
    obtain ⟨hheld, hnone⟩ := turn_held ht hfetch hperform
    rw [hnone, List.nil_append]
    exact ih p' (hheld.trans hx) hrun

/-! ## Turns on a running session -/

variable {s : Session}

/-- The caller's turns other than a stop put a frame, flush, set an anchor, or leave a running
session as it was. -/
theorem turn_caller (hs : p.engine.session = some s) (ht : p.turn t = some q) (hfetch : t ≠ .fetch)
    (hperform : t ≠ .perform) (hstop : t.isStop = false) :
    ∃ s', q.engine.session = some s' ∧
      ((∃ seq ts payload buf, t = .put seq ts payload ∧ s' = { s with
          buffer := { (s.buffer.put seq ts (s.decoder.samplesOf payload)).2 with pending := [] }
          decoder := { s.decoder with plaintext := buf } }) ∨
        (∃ target, t = .flush target ∧ s' = { s with
          buffer := s.buffer.flush target, reference := s.reference.clear, phase := .buffering
          flushPending := true }) ∨
        (∃ ts time, t = .setAnchor ts time ∧ s' = { s with reference := s.reference.setAnchor ts time }) ∨
        s' = s) := by
  cases t with
  | start config =>
    simp only [turn, Engine.start_of_running hs, Option.some_inj] at ht
    subst ht
    exact ⟨s, hs, .inr (.inr (.inr rfl))⟩
  | stop => cases hstop
  | put seq ts payload =>
    simp only [turn] at ht
    split at ht
    · rename_i o e hput
      cases ht
      obtain ⟨buf, hstored⟩ := Engine.put_stores hs hput
      exact ⟨_, hstored, .inl ⟨seq, ts, payload, buf, rfl, rfl⟩⟩
    · cases ht
  | flush target =>
    simp only [turn, Option.some_inj] at ht
    subst ht
    exact ⟨_, by simp [Engine.flush, Engine.modifySession, hs], .inr (.inl ⟨target, rfl, rfl⟩)⟩
  | setAnchor ts time =>
    simp only [turn, Option.some_inj] at ht
    subst ht
    exact ⟨_, by simp [Engine.setAnchor, Engine.modifySession, hs], .inr (.inr (.inl ⟨ts, time, rfl, rfl⟩))⟩
  | setVolume db =>
    simp only [turn, Option.some_inj] at ht
    subst ht
    exact ⟨s, hs, .inr (.inr (.inr rfl))⟩
  | setClock time =>
    simp only [turn, Option.some_inj] at ht
    subst ht
    exact ⟨s, hs, .inr (.inr (.inr rfl))⟩
  | setQueued frames =>
    simp only [turn, Option.some_inj] at ht
    subst ht
    exact ⟨s, hs, .inr (.inr (.inr rfl))⟩
  | fetch => exact absurd rfl hfetch
  | perform => exact absurd rfl hperform

/-- Playback takes its next step only with none held, as one pass would, and changes the
buffer only as playback does. -/
theorem turn_fetch (hs : p.engine.session = some s) (ht : p.turn .fetch = some q) :
    p.held = none ∧ ∃ step s', q.held = some step ∧ q.engine.session = some s' ∧
      Engine.PassCase s step s' ∧ Engine.PlaysFrom s step s' := by
  simp only [turn] at ht
  split at ht
  · rename_i hheld
    cases ht
    have hs' : p.engine.forwardVolume.session = some s := (Engine.forwardVolume_session _).trans hs
    obtain ⟨s₁, hs₁, hcase⟩ := Engine.nextStep_case _ p.engine.forwardVolume.sink.delay hs'
    obtain ⟨s₂, hs₂, hplays⟩ := Engine.nextStep_playsFrom _ p.engine.forwardVolume.sink.delay hs'
    rw [hs₁, Option.some_inj] at hs₂
    subst hs₂
    exact ⟨hheld, _, s₁, rfl, hs₁, hcase, hplays⟩
  · cases ht

theorem turn_perform (hs : p.engine.session = some s) (ht : p.turn .perform = some q) :
    ∃ x, p.held = some x ∧ p.carriedOut .perform = [x] ∧ q.held = none ∧
      ∃ s', q.engine.session = some s' ∧ s'.core = s.core ∧ s'.decoder = s.decoder := by
  simp only [turn] at ht
  split at ht
  · rename_i x hheld
    cases ht
    obtain ⟨s', hs', hcore, hdecoder⟩ := Engine.perform_session hs x
    exact ⟨x, hheld, by simp [carriedOut, hheld], rfl, s', hs', hcore, hdecoder⟩
  · cases ht

/-! ## From a flush to the output -/

/-- A running session with a flush the output has not yet been told of. -/
def FlushPending (p : Player) : Prop := ∃ s, p.engine.session = some s ∧ s.flushPending = true

theorem FlushPending.turn_caller (hp : p.FlushPending) (ht : p.turn t = some q) (hfetch : t ≠ .fetch)
    (hperform : t ≠ .perform) (hstop : t.isStop = false) : q.FlushPending := by
  obtain ⟨s, hs, hf⟩ := hp
  obtain ⟨s', hs', hcase⟩ := Player.turn_caller hs ht hfetch hperform hstop
  refine ⟨s', hs', ?_⟩
  rcases hcase with ⟨_, _, _, _, -, rfl⟩ | ⟨_, -, rfl⟩ | ⟨_, _, -, rfl⟩ | rfl
  all_goals first | exact hf | rfl

/-- After a flush, playback carries out at most the step it already held, then hands the
output the flush: the run splits where playback takes the flush as its step. -/
theorem run_flushPending : ∀ (ts : List Turn) (p : Player) {steps : List Step} {q : Player},
    p.FlushPending → (∀ t ∈ ts, t.isStop = false) → p.run ts = some (steps, q) →
      steps <+: p.held.toList ∨
      ∃ ts₁ ts₂ p₁ steps₂, ts = ts₁ ++ ts₂ ∧ p.run ts₁ = some (p.held.toList, p₁) ∧
        p₁.held = some .flushed ∧ p₁.run ts₂ = some (steps₂, q) ∧ steps = p.held.toList ++ steps₂ := by
  intro ts
  induction ts with
  | nil =>
    intro p steps q _ _ h
    cases h
    exact .inl (List.nil_prefix)
  | cons t ts ih =>
    intro p steps q hp hstop h
    obtain ⟨p', steps', ht, hrun, rfl⟩ := run_cons_eq_some h
    have hstop' : ∀ t' ∈ ts, t'.isStop = false := fun t' h' => hstop t' (by simp [h'])
    obtain ⟨s, hs, hf⟩ := hp
    by_cases hfetch : t = .fetch
    · -- with the flush pending, the step playback takes is the flush
      subst hfetch
      obtain ⟨hheld, step, s', hheld', -, hcase, -⟩ := turn_fetch hs ht
      rw [hcase.flushed_of_pending hf] at hheld'
      refine .inr ⟨[.fetch], ts, p', steps', rfl, ?_, hheld', hrun, ?_⟩
      · rw [hheld]
        exact run_cons_of ht rfl
      · simp [carriedOut, hheld]
    by_cases hperform : t = .perform
    · -- the step held since before the flush goes out first
      subst hperform
      obtain ⟨x, hheld, hout, hnone, s', hs', hcore, -⟩ := turn_perform hs ht
      have hp' : p'.FlushPending := ⟨s', hs', (Session.core_eq hcore).2.1.trans hf⟩
      rw [hout, hheld]
      rcases ih p' hp' hstop' hrun with hprefix | ⟨ts₁, ts₂, p₁, steps₂, rfl, hrun₁, hflushed, hrun₂, hsteps⟩
      · rw [hnone, Option.toList_none, List.prefix_nil] at hprefix
        subst hprefix
        exact .inl (List.prefix_refl _)
      · rw [hnone, Option.toList_none] at hrun₁ hsteps
        refine .inr ⟨.perform :: ts₁, ts₂, p₁, steps₂, rfl, ?_, hflushed, hrun₂, ?_⟩
        · have := run_cons_of ht hrun₁
          rwa [hout, List.append_nil] at this
        · simp [hsteps]
    · -- a turn of the caller's keeps the flush pending and the held step
      obtain ⟨hheld, hnone⟩ := turn_held ht hfetch hperform
      have hp' := FlushPending.turn_caller ⟨s, hs, hf⟩ ht hfetch hperform (hstop t (by simp))
      rw [hnone, List.nil_append]
      rcases ih p' hp' hstop' hrun with hprefix | ⟨ts₁, ts₂, p₁, steps₂, rfl, hrun₁, hflushed, hrun₂, hsteps⟩
      · rw [hheld] at hprefix
        exact .inl hprefix
      · rw [hheld] at hrun₁ hsteps
        refine .inr ⟨t :: ts₁, ts₂, p₁, steps₂, rfl, ?_, hflushed, hrun₂, hsteps⟩
        have := run_cons_of ht hrun₁
        rwa [hnone, List.nil_append] at this

/-! ## What the buffer holds after a flush -/

/-- The running session's decoder makes of each payload the samples `d` makes, its buffer keeps
shape `shape`, and the buffer stores only frames allowed by `G`. -/
def StoresOnly (G : Slot → Prop) (d : FrameDecoder) (shape : BufferShape) (p : Player) : Prop :=
  ∃ s, p.engine.session = some s ∧ s.decoder.samplesOf = d.samplesOf ∧ s.buffer.shape = shape ∧
    s.buffer.StoresOnly G

/-- Every step playback holds hands the output only frames allowed by `G`. -/
def HeldFrom (G : Slot → Prop) (p : Player) : Prop := ∀ x, p.held = some x → x.FramesFrom G

variable {G : Slot → Prop} {d : FrameDecoder} {shape : BufferShape}

/-- No turn but a put brings a frame into the buffer, and a put brings the one it stores. -/
theorem StoresOnly.turn (hp : p.StoresOnly G d shape) (ht : p.turn t = some q) (hstop : t.isStop = false)
    (hput : ∀ seq ts payload, t = .put seq ts payload →
      G ⟨seq, ts, JitterBuffer.fitTo shape.frameSamples (d.samplesOf payload)⟩) :
    q.StoresOnly G d shape ∧ (p.HeldFrom G → q.HeldFrom G) := by
  obtain ⟨s, hs, hd, hshape, hstores⟩ := hp
  by_cases hfetch : t = .fetch
  · -- playback takes frames out, and any frame it takes was stored
    subst hfetch
    obtain ⟨-, step, s', hheld, hs', -, hplays⟩ := turn_fetch hs ht
    refine ⟨⟨s', hs', by rw [hplays.decoder, hd], hplays.buffer.shape.trans hshape,
      hplays.buffer.storesOnly hstores⟩, ?_⟩
    intro _ x hx
    rw [hheld, Option.some_inj] at hx
    subst hx
    cases step with
    | frame f fill resends =>
      obtain ⟨b, hb, hget⟩ := hplays.frame f fill resends rfl
      exact (hb.storesOnly hstores).frame_of_get hget
    | _ => trivial
  by_cases hperform : t = .perform
  · subst hperform
    obtain ⟨x, -, -, hnone, s', hs', hcore, hdecoder⟩ := turn_perform hs ht
    refine ⟨⟨s', hs', by rw [hdecoder, hd], ?_, ?_⟩, ?_⟩
    · rw [(Session.core_eq hcore).2.2.1]
      exact hshape
    · rw [(Session.core_eq hcore).2.2.1]
      exact hstores
    · intro _ y hy
      rw [hnone] at hy
      cases hy
  obtain ⟨hheld, -⟩ := turn_held ht hfetch hperform
  refine ⟨?_, ?_⟩
  swap
  · intro hfrom x hx
    exact hfrom x (hheld ▸ hx)
  obtain ⟨s', hs', hcase⟩ := turn_caller hs ht hfetch hperform hstop
  rcases hcase with ⟨seq, ts, payload, buf, rfl, rfl⟩ | ⟨target, -, rfl⟩ | ⟨_, _, -, rfl⟩ | rfl
  · -- the frame a put stores is the one it brings
    have hnew := hput seq ts payload rfl
    rw [← hshape, ← hd] at hnew
    exact ⟨_, hs', hd, (JitterBuffer.shape_exec s.buffer (.put seq ts (s.decoder.samplesOf payload))).trans hshape,
      hstores.put hnew⟩
  · exact ⟨_, hs', hd, hshape, JitterBuffer.storesOnly_flush target⟩
  · exact ⟨_, hs', hd, hshape, hstores⟩
  · exact ⟨_, hs', hd, hshape, hstores⟩

/-- A run whose puts bring only frames allowed by `G` keeps the buffer to such frames. -/
theorem run_storesOnly (hp : p.StoresOnly G d shape) (hts : ∀ t ∈ ts, t.isStop = false ∧
      ∀ seq ts payload, t = .put seq ts payload → G ⟨seq, ts, JitterBuffer.fitTo shape.frameSamples (d.samplesOf payload)⟩)
    (hrun : p.run ts = some (steps, q)) : q.StoresOnly G d shape :=
  (run_invariant (StoresOnly G d shape) _ (fun _ => True)
    (fun _ _ _ hp hc ht => ⟨(hp.turn ht hc.1 hc.2).1, fun _ _ => trivial⟩) ts p hp hts hrun).1

/-- From a buffer and a held step with only frames allowed by `G`, through puts that bring only
such frames, playback hands the output only such frames. -/
theorem run_framesFrom (hp : p.StoresOnly G d shape) (hheld : p.HeldFrom G) (hts : ∀ t ∈ ts, t.isStop = false ∧
      ∀ seq ts payload, t = .put seq ts payload → G ⟨seq, ts, JitterBuffer.fitTo shape.frameSamples (d.samplesOf payload)⟩)
    (hrun : p.run ts = some (steps, q)) : ∀ x ∈ steps, x.FramesFrom G :=
  (run_invariant (fun p => p.StoresOnly G d shape ∧ p.HeldFrom G) _ (Step.FramesFrom G)
    (fun _ _ _ hp hc ht => ⟨⟨(hp.1.turn ht hc.1 hc.2).1, (hp.1.turn ht hc.1 hc.2).2 hp.2⟩,
      fun x hx => hp.2 x (held_of_mem_carriedOut hx)⟩) ts p ⟨hp, hheld⟩ hts hrun).2

/-! ## Without new packets -/

/-- A running session buffering, with an empty buffer. -/
def Quiet (p : Player) : Prop := ∃ s, p.engine.session = some s ∧ s.phase = .buffering ∧ s.buffer.fill = 0

/-- Every step playback holds is a flush or idle. -/
def HeldQuiet (p : Player) : Prop := ∀ x, p.held = some x → x = .flushed ∨ x = .idle

/-- A running session whose reference clock has no anchor. -/
def Unanchored (p : Player) : Prop := ∃ s, p.engine.session = some s ∧ s.reference.anchor = none

/-- Without a put, an empty buffering session stays so: a session that cannot sync takes no
step but a pending flush or an idle one. -/
theorem Quiet.turn (hp : p.Quiet) (ht : p.turn t = some q) (hstop : t.isStop = false) (hput : t.isPut = false) :
    q.Quiet ∧ (p.HeldQuiet → q.HeldQuiet) := by
  obtain ⟨s, hs, hphase, hfill⟩ := hp
  by_cases hfetch : t = .fetch
  · subst hfetch
    obtain ⟨-, step, s', hheld, hs', hcase, -⟩ := turn_fetch hs ht
    have hready : s.readyToSync = false := by simp [Session.readyToSync, hfill]
    -- with nothing to sync on, a pass tells the output of a flush or waits
    have hquiet : s'.phase = .buffering ∧ s'.buffer.fill = 0 ∧ (step = .flushed ∨ step = .idle) := by
      cases hcase with
      | flushed _ hc =>
        obtain ⟨hph, -, hb, -⟩ := Session.core_eq hc
        exact ⟨hph.trans hphase, hb ▸ hfill, .inl rfl⟩
      | wait _ _ _ hc =>
        obtain ⟨hph, -, hb, -⟩ := Session.core_eq hc
        exact ⟨hph, hb ▸ hfill, .inr rfl⟩
      | leadIn _ _ hr => simp [hready] at hr
      | enter _ _ hr => simp [hready] at hr
      | underrun _ hp => simp [hphase] at hp
      | play _ hp => simp [hphase] at hp
    refine ⟨⟨s', hs', hquiet.1, hquiet.2.1⟩, ?_⟩
    intro _ x hx
    rw [hheld, Option.some_inj] at hx
    exact hx ▸ hquiet.2.2
  by_cases hperform : t = .perform
  · subst hperform
    obtain ⟨x, -, -, hnone, s', hs', hcore, -⟩ := turn_perform hs ht
    obtain ⟨hph, -, hb, -⟩ := Session.core_eq hcore
    refine ⟨⟨s', hs', hph.trans hphase, hb ▸ hfill⟩, ?_⟩
    intro _ y hy
    rw [hnone] at hy
    cases hy
  obtain ⟨hheld, -⟩ := turn_held ht hfetch hperform
  refine ⟨?_, ?_⟩
  swap
  · intro hquiet x hx
    exact hquiet x (hheld ▸ hx)
  obtain ⟨s', hs', hcase⟩ := turn_caller hs ht hfetch hperform hstop
  rcases hcase with ⟨_, _, _, _, rfl, -⟩ | ⟨target, -, rfl⟩ | ⟨_, _, -, rfl⟩ | rfl
  · cases hput
  · exact ⟨_, hs', rfl, JitterBuffer.fill_of_not_synced rfl⟩
  · exact ⟨_, hs', hphase, hfill⟩
  · exact ⟨_, hs', hphase, hfill⟩

theorem Unanchored.turn (hp : p.Unanchored) (ht : p.turn t = some q) (hstop : t.isStop = false)
    (hset : t.isSetAnchor = false) : q.Unanchored := by
  obtain ⟨s, hs, hanchor⟩ := hp
  by_cases hfetch : t = .fetch
  · subst hfetch
    obtain ⟨-, step, s', -, hs', hcase, -⟩ := turn_fetch hs ht
    exact ⟨s', hs', by rw [hcase.reference]; exact hanchor⟩
  by_cases hperform : t = .perform
  · subst hperform
    obtain ⟨x, -, -, -, s', hs', hcore, -⟩ := turn_perform hs ht
    exact ⟨s', hs', by rw [(Session.core_eq hcore).2.2.2]; exact hanchor⟩
  obtain ⟨s', hs', hcase⟩ := turn_caller hs ht hfetch hperform hstop
  rcases hcase with ⟨_, _, _, _, -, rfl⟩ | ⟨_, -, rfl⟩ | ⟨_, _, rfl, -⟩ | rfl
  · exact ⟨_, hs', hanchor⟩
  · exact ⟨_, hs', rfl⟩
  · cases hset
  · exact ⟨_, hs', hanchor⟩

/-- Without a put, an empty buffering session stays so along a run, and from a held flush or
idle step playback hands the output nothing but flushes and idle steps. -/
theorem run_quiet (hp : p.Quiet) (hts : ∀ t ∈ ts, t.isStop = false ∧ t.isPut = false)
    (hrun : p.run ts = some (steps, q)) : q.Quiet ∧ (p.HeldQuiet → ∀ x ∈ steps, x = .flushed ∨ x = .idle) := by
  refine ⟨(run_invariant Quiet _ (fun _ => True)
    (fun _ _ _ hp hc ht => ⟨(hp.turn ht hc.1 hc.2).1, fun _ _ => trivial⟩) ts p hp hts hrun).1, fun hheld => ?_⟩
  exact (run_invariant (fun p => p.Quiet ∧ p.HeldQuiet) _ (fun x => x = .flushed ∨ x = .idle)
    (fun _ _ _ hp hc ht => ⟨⟨(hp.1.turn ht hc.1 hc.2).1, (hp.1.turn ht hc.1 hc.2).2 hp.2⟩,
      fun x hx => hp.2 x (held_of_mem_carriedOut hx)⟩) ts p ⟨hp, hheld⟩ hts hrun).2

theorem run_unanchored (hp : p.Unanchored) (hts : ∀ t ∈ ts, t.isStop = false ∧ t.isSetAnchor = false)
    (hrun : p.run ts = some (steps, q)) : q.Unanchored :=
  (run_invariant Unanchored _ (fun _ => True)
    (fun _ _ _ hp hc ht => ⟨hp.turn ht hc.1 hc.2, fun _ _ => trivial⟩) ts p hp hts hrun).1

end Player

/-- A frame as a put among `turns` stores it: under the packet's sequence number and
timestamp, the samples `d` makes of its payload cut or padded to `frameSamples`. -/
def PutIn (d : FrameDecoder) (frameSamples : Nat) (turns : List Turn) (slot : Slot) : Prop :=
  ∃ payload, Turn.put slot.seq slot.ts payload ∈ turns ∧
    slot.pcm = JitterBuffer.fitTo frameSamples (d.samplesOf payload)

namespace Player

/-- Flushing while playback runs, over every interleaving of the caller's turns with playback's
two halves in which the session is not stopped. After the flush the output is handed at most
the step playback had already taken, then the flush, before anything else. No frame buffered
at the flush is played after that: each frame is one put since, or silence standing in for a
lost one. Without new packets the session stays buffering with an empty buffer, playback hands
the output nothing but flushes and idle steps, and the anchor stays cleared unless set again. -/
theorem flush_reaches_output_in_order {p : Player} {s : Session} (hs : p.engine.session = some s)
    {target : Option UInt32} {post : List Turn} (hstop : ∀ t ∈ post, t.isStop = false)
    {steps : List Step} {q : Player} (hrun : p.run (.flush target :: post) = some (steps, q)) :
    ∃ rest, (steps <+: p.held.toList ∨ steps = p.held.toList ++ .flushed :: rest) ∧
      (∀ x ∈ rest, x.FramesFrom (PutIn s.decoder s.buffer.shape.frameSamples post)) ∧
      ((∀ t ∈ post, t.isPut = false) →
        (∀ x ∈ rest, x = .flushed ∨ x = .idle) ∧
        ∃ s', q.engine.session = some s' ∧ s'.phase = .buffering ∧ s'.buffer.fill = 0 ∧
          ((∀ t ∈ post, t.isSetAnchor = false) → s'.reference.anchor = none)) := by
  obtain ⟨p₀, steps₀, hflush, hrun₀, rfl⟩ := run_cons_eq_some hrun
  simp only [turn, Option.some_inj] at hflush
  subst hflush
  set G := PutIn s.decoder s.buffer.shape.frameSamples post
  obtain ⟨s₀, hs₀, hphase₀, hflush₀, hbuffer₀, hanchor₀, hdecoder₀⟩ : ∃ s₀, (p.engine.flush target).session = some s₀ ∧
      s₀.phase = .buffering ∧ s₀.flushPending = true ∧ s₀.buffer = s.buffer.flush target ∧
      s₀.reference.anchor = none ∧ s₀.decoder = s.decoder :=
    ⟨{ s with
        buffer := s.buffer.flush target, reference := s.reference.clear, phase := .buffering
        flushPending := true },
      by simp [Engine.flush, Engine.modifySession, hs], rfl, rfl, rfl, rfl, rfl⟩
  have hputs : ∀ t ∈ post, t.isStop = false ∧ ∀ seq ts payload, t = .put seq ts payload →
      G ⟨seq, ts, JitterBuffer.fitTo s.buffer.shape.frameSamples (s.decoder.samplesOf payload)⟩ :=
    fun t ht => ⟨hstop t ht, fun seq ts payload h => ⟨payload, h ▸ ht, rfl⟩⟩
  have hstores₀ : Player.StoresOnly G s.decoder s.buffer.shape ⟨p.engine.flush target, p.held⟩ :=
    ⟨s₀, hs₀, by rw [hdecoder₀], by rw [hbuffer₀]; rfl, by rw [hbuffer₀]; exact JitterBuffer.storesOnly_flush target⟩
  have hquiet₀ : Player.Quiet ⟨p.engine.flush target, p.held⟩ :=
    ⟨s₀, hs₀, hphase₀, by rw [hbuffer₀]; exact JitterBuffer.fill_of_not_synced rfl⟩
  -- without new packets the run ends buffering on an empty buffer, unanchored unless set again
  have hfinal : (∀ t ∈ post, t.isPut = false) → ∃ s', q.engine.session = some s' ∧
      s'.phase = .buffering ∧ s'.buffer.fill = 0 ∧
      ((∀ t ∈ post, t.isSetAnchor = false) → s'.reference.anchor = none) := by
    intro hnoput
    obtain ⟨⟨s', hs', hphase', hfill'⟩, -⟩ := run_quiet hquiet₀ (fun t ht => ⟨hstop t ht, hnoput t ht⟩) hrun₀
    refine ⟨s', hs', hphase', hfill', fun hnoset => ?_⟩
    obtain ⟨s'', hs'', hanchor⟩ := run_unanchored ⟨s₀, hs₀, hanchor₀⟩ (fun t ht => ⟨hstop t ht, hnoset t ht⟩) hrun₀
    rw [hs', Option.some_inj] at hs''
    rw [hs'']
    exact hanchor
  rcases run_flushPending post _ ⟨s₀, hs₀, hflush₀⟩ hstop hrun₀ with
    hprefix | ⟨ts₁, ts₂, p₁, steps₂, rfl, hrun₁, hflushed, hrun₂, hsteps⟩
  · -- the output has not yet been told of the flush
    exact ⟨[], .inl hprefix, by simp, fun hnoput => ⟨by simp, hfinal hnoput⟩⟩
  -- playback took the flush as its step after the run's first part
  have hstores₁ := run_storesOnly hstores₀ (fun t ht => hputs t (List.mem_append_left _ ht)) hrun₁
  have hframes := run_framesFrom hstores₁ (fun x hx => by rw [hflushed, Option.some_inj] at hx; subst hx; trivial)
    (fun t ht => hputs t (List.mem_append_right _ ht)) hrun₂
  rcases run_held ts₂ p₁ hflushed hrun₂ with rfl | ⟨rest, rfl⟩
  · have hheld : steps = p.held.toList := by rw [hsteps, List.append_nil]
    exact ⟨[], .inl (hheld ▸ List.prefix_refl _), by simp, fun hnoput => ⟨by simp, hfinal hnoput⟩⟩
  refine ⟨rest, .inr hsteps, fun x hx => hframes x (List.mem_cons_of_mem _ hx), fun hnoput => ⟨?_, hfinal hnoput⟩⟩
  -- without new packets playback only flushes or idles
  have hnoput₁ : ∀ t ∈ ts₁, t.isStop = false ∧ t.isPut = false :=
    fun t ht => ⟨hstop t (List.mem_append_left _ ht), hnoput t (List.mem_append_left _ ht)⟩
  have hnoput₂ : ∀ t ∈ ts₂, t.isStop = false ∧ t.isPut = false :=
    fun t ht => ⟨hstop t (List.mem_append_right _ ht), hnoput t (List.mem_append_right _ ht)⟩
  have hquiet₁ := (run_quiet hquiet₀ hnoput₁ hrun₁).1
  have hheld₁ : p₁.HeldQuiet := fun x hx => by rw [hflushed, Option.some_inj] at hx; exact .inl hx.symm
  exact fun x hx => (run_quiet hquiet₁ hnoput₂ hrun₂).2 hheld₁ x (List.mem_cons_of_mem _ hx)

/-- A player whose playback holds the first frame of a packet of three, taken just as playback
started. -/
def heldFrame : Player :=
  let config : PlayoutConfig :=
    { bufferCapacity := 4, startFill := 1, defaultLatency := 0, rateCorrection := .disabled,
      maxResendSpan := 1 }
  let e₀ := Engine.create config (Sink.create (.recorder false)) 0
  let e₁ := (e₀.start ⟨StreamParams.pcm 3 44100, some 0⟩).2
  let e₂ := match e₁.put 0 0 (List.replicate 12 1) with
    | .ok (_, e) => e
    | .error _ => e₁
  ((⟨e₂.setAnchor 0 0, none⟩ : Player).turn .fetch).getD ⟨e₂, none⟩

/-- After a flush: the held frame goes out, the next packet arrives and is anchored, and
playback takes two steps. -/
def afterFlush : List Turn :=
  [.perform, .put 1 3 (List.replicate 12 2), .setAnchor 3 0, .fetch, .perform, .fetch, .perform]

set_option maxRecDepth 10000 in
/-- The frame held at the flush goes out, then the flush, then only the frame put since. -/
theorem flush_after_held_frame :
    ∃ rest, (((heldFrame.run (.flush none :: afterFlush)).getD default).1 <+: heldFrame.held.toList ∨
        ((heldFrame.run (.flush none :: afterFlush)).getD default).1 = heldFrame.held.toList ++ .flushed :: rest) ∧
      ∀ x ∈ rest, x.FramesFrom (PutIn (heldFrame.engine.session.getD default).decoder
        (heldFrame.engine.session.getD default).buffer.shape.frameSamples afterFlush) := by
  have hsession : heldFrame.engine.session.isSome = true := by decide +kernel
  have hsome : (heldFrame.run (.flush none :: afterFlush)).isSome = true := by decide +kernel
  have hrun : heldFrame.run (.flush none :: afterFlush) =
      some (((heldFrame.run (.flush none :: afterFlush)).getD default).1,
        ((heldFrame.run (.flush none :: afterFlush)).getD default).2) := by
    rw [Prod.mk.eta]
    exact (Option.getD_of_ne_none (Option.ne_none_iff_isSome.mpr hsome) default).symm
  obtain ⟨rest, horder, hframes, -⟩ := flush_reaches_output_in_order
    (Option.getD_of_ne_none (Option.ne_none_iff_isSome.mpr hsession) default).symm (by decide) hrun
  exact ⟨rest, horder, hframes⟩

end Player

end Playout
