import Playout.Engine.Control
import Playout.Proofs.Buffer.Steps
import Mathlib.Logic.Relation

/-!
# Phases of a session

A session's phase is kept in step with three companions: the buffer's buffering flag, the
buffer's sync state with the reference clock's anchor, and the pending flush. `PhaseCoherent`
ties them together: a session plays exactly when its buffer has stopped buffering, a session
past buffering has a synced buffer and an anchored clock, and a pending flush leaves it
buffering.

Each operation on the player is a `Transition`. `PassCase` lists what one pass of playback can
do to the session it finds, so the statements about playback split on its constructors and
never unfold the pass again.

* `coherent_of_reachable`: every player reached from one without a session, by any
  interleaving of operations and passes, has a coherent session; and every pass from it takes
  frames only when it ends playing, returns a frame only while playing, and sends lead-in
  silence only from a session that was not yet playing and ends synchronizing or playing.
-/

namespace Playout

namespace JitterBuffer

/-- `b'` buffers exactly when `b` does and is synced when `b` is. -/
structure KeepsFlags (b b' : JitterBuffer) : Prop where
  buffering : b'.buffering = b.buffering
  synced : b.synced = true → b'.synced = true

theorem KeepsFlags.refl (b : JitterBuffer) : b.KeepsFlags b := ⟨rfl, id⟩

theorem KeepsFlags.trans {b b' b'' : JitterBuffer} (h : b.KeepsFlags b') (h' : b'.KeepsFlags b'') :
    b.KeepsFlags b'' :=
  ⟨h'.buffering.trans h.buffering, fun hs => h'.synced (h.synced hs)⟩

theorem keepsFlags_put (b : JitterBuffer) (s : UInt16) (ts : UInt32) (pcm : List Sample) :
    b.KeepsFlags (b.put s ts pcm).2 := by
  have hcase := put_case b s ts pcm
  generalize (b.put s ts pcm).1 = o at hcase
  generalize (b.put s ts pcm).2 = b' at hcase ⊢
  -- a put restarts the window or stores into it; neither touches the buffering flag or unsyncs
  cases hcase with
  | flushed | duplicate | tooLate => exact ⟨rfl, id⟩
  | synced | overrun => exact ⟨by simp, fun _ => by simp⟩
  | expected | gap | late => exact ⟨by simp, fun hs => by simpa using hs⟩

theorem keepsFlags_get (b : JitterBuffer) : b.KeepsFlags b.get.2 := by
  by_cases hf : b.fill = 0
  · rw [get_of_fill_eq_zero hf]
    exact KeepsFlags.refl b
  · exact ⟨get_buffering hf, fun hs => (get_synced hf).trans hs⟩

theorem keepsFlags_skip (b : JitterBuffer) (n : Nat) : b.KeepsFlags (b.skip n).2 := by
  rw [skip_snd]
  have hk : b.KeepsFlags (b.skipLoop n 0).2 := by
    refine skipLoop_induction (fun b' => b.KeepsFlags b') ?_ b n 0 (KeepsFlags.refl b)
    intro b' _ hk
    exact hk.trans ⟨advance_buffering b' _, fun hs => (advance_synced b' _).trans hs⟩
  exact ⟨hk.buffering, hk.synced⟩

theorem keepsFlags_takeResends (b : JitterBuffer) : b.KeepsFlags { b with pending := [] } :=
  ⟨rfl, id⟩

end JitterBuffer

namespace Session

/-- The parts of a session its phase is kept in step with. -/
def core (s : Session) : Phase × Bool × JitterBuffer × ReferenceClock :=
  (s.phase, s.flushPending, s.buffer, s.reference)

/-- The phase agrees with the buffer, the clock and the pending flush. -/
structure PhaseCoherent (s : Session) : Prop where
  playing_iff : s.phase = .playing ↔ s.buffer.buffering = false
  ready : s.phase ≠ .buffering → s.buffer.synced = true ∧ s.reference.isAnchored = true
  flush : s.flushPending = true → s.phase = .buffering

variable {s s' : Session}

theorem PhaseCoherent.of_core (h : s.PhaseCoherent) (hc : s'.core = s.core) : s'.PhaseCoherent := by
  simp only [core, Prod.mk.injEq] at hc
  obtain ⟨hphase, hflush, hbuffer, hreference⟩ := hc
  exact ⟨by rw [hphase, hbuffer]; exact h.playing_iff, by rw [hphase, hbuffer, hreference]; exact h.ready,
    by rw [hphase, hflush]; exact h.flush⟩

theorem PhaseCoherent.withBuffer (h : s.PhaseCoherent) {b : JitterBuffer} (hk : s.buffer.KeepsFlags b) :
    { s with buffer := b }.PhaseCoherent := by
  refine ⟨?_, ?_, h.flush⟩
  · rw [hk.buffering]
    exact h.playing_iff
  · intro hp
    obtain ⟨hsynced, hanchored⟩ := h.ready hp
    exact ⟨hk.synced hsynced, hanchored⟩

end Session

namespace Engine

def Coherent (e : Engine) : Prop := ∀ s, e.session = some s → s.PhaseCoherent

/-- The operations on a player: the caller's, a pass of a live playout thread, and the pass the
thread stops on. A stop or a put that fails is no step; a start is one whatever it answers, since
a start can fail after it has changed the player. -/
inductive Transition : Engine → Engine → Prop
  | start (e : Engine) (sc : SessionConfig) (spawn : Except String Unit) : Transition e (e.start sc spawn).2
  | stop (e : Engine) {e' : Engine} (h : e.stop = .ok e') : Transition e e'
  | put (e : Engine) (seq : UInt16) (ts : UInt32) (payload : Bytes) {o : Option PutOutcome} {e' : Engine}
      (h : e.put seq ts payload = .ok (o, e')) : Transition e e'
  | receive (e : Engine) (datagram : Bytes) {o : Option PutOutcome} {e' : Engine}
      (h : e.receive datagram = .ok (.ok (o, e'))) : Transition e e'
  | setAnchor (e : Engine) (ts : UInt32) (time : UInt64) : Transition e (e.setAnchor ts time)
  | flush (e : Engine) (target : Option UInt32) : Transition e (e.flush target)
  | setVolume (e : Engine) (db : Float) : Transition e (e.setVolume db)
  | setClock (e : Engine) (t : UInt64) : Transition e (e.setClock t)
  | setQueued (e : Engine) (frames : Option Nat) : Transition e { e with sink := e.sink.setQueued frames }
  | pass (e : Engine) (hp : e.panicked = none) (hf : e.passFault = none) : Transition e e.pass.2
  | crash (e : Engine) {f : Fault} (hp : e.panicked = none) (hf : e.passFault = some f) : Transition e (e.crash f)

/-! ## The caller's operations -/

theorem startChecks_session {e : Engine} {sc : SessionConfig} {d : FrameDecoder}
    (h : e.startChecks sc = .ok d) : e.session = none := by
  cases hs : e.session with
  | none => rfl
  | some s => simp [startChecks, isRunning, hs, bind, Except.bind, throw, throwThe, MonadExceptOf.throw] at h

theorem startChecks_decoder {e : Engine} {sc : SessionConfig} {d : FrameDecoder}
    (h : e.startChecks sc = .ok d) : FrameDecoder.create sc.stream = .ok d := by
  unfold startChecks at h
  simp only [bind, Except.bind, pure, Except.pure, throw, throwThe, MonadExceptOf.throw] at h
  split at h
  · cases h
  · split at h
    · cases h
    · split at h
      · cases h
      · split at h
        · cases h
          assumption
        · cases h

/-- A start leaves the session as it was, or opens a new one on the stream it was given. -/
theorem start_session {e : Engine} {sc : SessionConfig} {spawn : Except String Unit} {s : Session}
    (h : (e.start sc spawn).2.session = some s) :
    e.session = some s ∨ ∃ d, e.startChecks sc = .ok d ∧ s = e.newSession sc d := by
  unfold start at h
  split at h
  · exact .inl h
  · rename_i d hd
    split at h
    · exact .inl h
    · dsimp only at h
      split at h
      · exact .inl h
      · -- the output opened; the session stays only if the thread was spawned
        split at h
        · cases h
        · cases h
          exact .inr ⟨d, hd, rfl⟩

/-- A start that succeeds passed its checks, opened the output and installed the session. -/
theorem start_ok {e e' : Engine} {sc : SessionConfig} {spawn : Except String Unit}
    (h : e.start sc spawn = (.ok (), e')) :
    ∃ d sink, e.startChecks sc = .ok d ∧ e.sink.start sc.stream.sampleRate.toNat = .ok sink ∧
      e' = { e with sinkInSlot := false }.openSession sc d sink := by
  unfold start at h
  split at h
  · cases h
  · rename_i d hd
    dsimp only at h
    split at h
    · cases h
    · split at h
      · cases h
      · rename_i sink hsink
        split at h
        · cases h
        · cases h
          exact ⟨d, sink, hd, hsink, rfl⟩

theorem newSession_fresh (e : Engine) (sc : SessionConfig) (d : FrameDecoder) :
    (e.newSession sc d).phase = .buffering ∧ (e.newSession sc d).flushPending = false ∧
      (e.newSession sc d).buffer.buffering = true := ⟨rfl, rfl, rfl⟩

theorem stop_session {e e' : Engine} (h : e.stop = .ok e') : e'.session = none := by
  unfold stop at h
  split at h
  · split at h <;> cases h <;> rfl
  · cases h

theorem put_session {e e' : Engine} {seq : UInt16} {ts : UInt32} {payload : Bytes} {o : Option PutOutcome}
    (h : e.put seq ts payload = .ok (o, e')) :
    (e.session = none ∧ e' = e) ∨ ∃ s pcm d, e.session = some s ∧
      e'.session = some { s with buffer := { (s.buffer.put seq ts pcm).2 with pending := [] }, decoder := d } := by
  unfold put at h
  split at h
  · cases h
    exact .inl ⟨by assumption, rfl⟩
  · rename_i s hs
    cases hd : s.decoder.decode payload with
    | error f =>
      rw [hd] at h
      cases h
    | ok v =>
      rw [hd] at h
      obtain ⟨decoded, d⟩ := v
      -- an undecodable payload is put as silence
      cases decoded with
      | ok pcm =>
        cases h
        exact .inr ⟨s, pcm, d, hs, rfl⟩
      | error err =>
        cases h
        exact .inr ⟨s, _, d, hs, rfl⟩

theorem eq_ok_of_map_ok {α ε ε' : Type} {x : Except ε α} {v : α}
    (h : (Except.ok <$> x : Except ε (Except ε' α)) = .ok (.ok v)) : x = .ok v := by
  cases x with
  | error f => cases h
  | ok w =>
    cases h
    rfl

theorem put_of_receive {e e' : Engine} {datagram : Bytes} {o : Option PutOutcome}
    (h : e.receive datagram = .ok (.ok (o, e'))) :
    ∃ seq ts payload, e.put seq ts payload = .ok (o, e') := by
  unfold receive at h
  -- a retransmitted packet and a plain one are both put
  split at h
  · dsimp only at h
    split at h
    · cases h
    · exact ⟨_, _, _, eq_ok_of_map_ok h⟩
  · dsimp only at h
    split at h
    · cases h
    · exact ⟨_, _, _, eq_ok_of_map_ok h⟩

theorem coherent_put {e e' : Engine} {seq : UInt16} {ts : UInt32} {payload : Bytes} {o : Option PutOutcome}
    (hc : e.Coherent) (h : e.put seq ts payload = .ok (o, e')) : e'.Coherent := by
  rcases put_session h with ⟨-, rfl⟩ | ⟨s, pcm, d, hs, hs'⟩
  · exact hc
  · intro s' h'
    rw [hs'] at h'
    cases h'
    exact ((hc s hs).withBuffer
      ((s.buffer.keepsFlags_put seq ts pcm).trans (JitterBuffer.keepsFlags_takeResends _))).of_core rfl

/-! ## One pass of playback -/

section Pass

variable {s : Session}

/-- What one pass does to the session it finds, as far as the phase and its companions go. -/
inductive PassCase (s : Session) : Step → Session → Prop
  /-- A pending flush is handed to the output. -/
  | flushed {s' : Session} (hf : s.flushPending = true) (hc : s'.core = { s with flushPending := false }.core) :
      PassCase s .flushed s'
  /-- Not ready: keep or fall back to buffering. -/
  | wait {s' : Session} (hf : s.flushPending = false) (hp : s.phase ≠ .playing)
      (hr : s.readyToSync = false) (hc : s'.core = { s with phase := .buffering }.core) :
      PassCase s .idle s'
  /-- Lead-in: silence, or nothing while the clock cannot place the frame. -/
  | leadIn {step : Step} {s' : Session} (hf : s.flushPending = false) (hp : s.phase ≠ .playing)
      (hr : s.readyToSync = true) (hstep : step = .idle ∨ ∃ n, step = .silence n)
      (hc : s'.core = { s with phase := .synchronizing }.core) : PassCase s step s'
  /-- The lead-in ends: playback starts, maybe skipping late frames and taking one. -/
  | enter {step : Step} {s' : Session} (hf : s.flushPending = false) (hp : s.phase ≠ .playing)
      (hr : s.readyToSync = true) (hphase : s'.phase = .playing) (hflush : s'.flushPending = false)
      (href : s'.reference = s.reference) (hk : (s.buffer.setBuffering false).KeepsFlags s'.buffer) :
      PassCase s step s'
  /-- The output ran dry after a frame: back to buffering with an emptied buffer. -/
  | underrun {s' : Session} (hf : s.flushPending = false) (hp : s.phase = .playing)
      (hc : s'.core = { s with phase := .buffering, buffer := s.buffer.reset }.core) :
      PassCase s .underrun s'
  /-- Playing: the next frame, or nothing when the buffer is empty. -/
  | play {step : Step} {s' : Session} (hf : s.flushPending = false) (hp : s.phase = .playing)
      (hstep : step = .idle ∨ ∃ f fill rs, step = .frame f fill rs) (hphase : s'.phase = .playing)
      (hflush : s'.flushPending = false) (href : s'.reference = s.reference)
      (hk : s.buffer.KeepsFlags s'.buffer) : PassCase s step s'

theorem playingStep_case (e : Engine) (s : Session) (queued : Option Nat) :
    ∃ s', (e.playingStep s queued).2.session = some s' ∧
      (((e.playingStep s queued).1 = .underrun ∧ s.playedSinceSync = true ∧
          s'.core = { s with phase := .buffering, buffer := s.buffer.reset }.core) ∨
        (((e.playingStep s queued).1 = .idle ∨ ∃ f fill rs, (e.playingStep s queued).1 = .frame f fill rs) ∧
          s'.phase = s.phase ∧ s'.flushPending = s.flushPending ∧ s'.reference = s.reference ∧
          s.buffer.KeepsFlags s'.buffer)) := by
  unfold playingStep
  split
  · rename_i hunder
    simp only [Bool.and_eq_true] at hunder
    exact ⟨_, rfl, .inl ⟨rfl, hunder.1, rfl⟩⟩
  · -- the buffer hands out its next frame, or nothing
    have hk := s.buffer.keepsFlags_get
    split
    · rename_i f b hget
      rw [hget] at hk
      exact ⟨_, rfl, .inr ⟨.inr ⟨_, _, _, rfl⟩, rfl, rfl, rfl,
        hk.trans (JitterBuffer.keepsFlags_takeResends b)⟩⟩
    · rename_i b hget
      rw [hget] at hk
      exact ⟨_, rfl, .inr ⟨.inl rfl, rfl, rfl, rfl, hk⟩⟩

/-- Right after playback starts nothing has been played, so the playing step cannot see an
underrun: it takes the next frame or nothing. -/
theorem continue_playing (e : Engine) {s₀ S : Session} (queued : Option Nat) (hf : s₀.flushPending = false)
    (hp : s₀.phase ≠ .playing) (hr : s₀.readyToSync = true) (hplayed : S.playedSinceSync = false)
    (hphase : S.phase = .playing) (hflush : S.flushPending = false) (href : S.reference = s₀.reference)
    (hk : (s₀.buffer.setBuffering false).KeepsFlags S.buffer) :
    ∃ s', (e.playingStep S queued).2.session = some s' ∧ PassCase s₀ (e.playingStep S queued).1 s' := by
  obtain ⟨s', hs', hcase⟩ := playingStep_case e S queued
  rcases hcase with ⟨-, hunder, -⟩ | ⟨-, hphase', hflush', href', hk'⟩
  · rw [hplayed] at hunder
    cases hunder
  · exact ⟨s', hs', .enter hf hp hr (hphase'.trans hphase) (hflush'.trans hflush) (href'.trans href)
      (hk.trans hk')⟩

theorem leadInStep_of_predicted (e : Engine) {s : Session} (queued : Option Nat) {predicted : UInt64}
    (hpred : s.reference.predict s.buffer.readTs = .ok (some predicted)) :
    e.leadInStep s queued = e.leadInDecide { s with leadIn := some (s.leadIn.getD ⟨e.now, 0⟩) } queued
      (e.leadInGap s queued predicted) (samplesToFixed s.framesPerPacket s.sampleRate) := by
  unfold leadInStep
  rw [hpred]

/-- A lead-in step waits, with the session as it was, while the clock cannot place the frame,
and otherwise decides on some gap and frame time. -/
theorem leadInStep_eq_or (e : Engine) (s : Session) (queued : Option Nat) :
    e.leadInStep s queued = (.idle, { e with session := some s }) ∨
      ∃ gap frameTime, e.leadInStep s queued =
        e.leadInDecide { s with leadIn := some (s.leadIn.getD ⟨e.now, 0⟩) } queued gap frameTime := by
  cases hpred : s.reference.predict s.buffer.readTs with
  | error f =>
    left
    unfold leadInStep
    rw [hpred]
  | ok r =>
    cases r with
    | none =>
      left
      unfold leadInStep
      rw [hpred]
    | some predicted => exact .inr ⟨_, _, leadInStep_of_predicted e queued hpred⟩

theorem leadInDecide_case (e : Engine) {s₀ s : Session} (queued : Option Nat) (gap frameTime : Int)
    (hf : s₀.flushPending = false) (hp : s₀.phase ≠ .playing) (hr : s₀.readyToSync = true)
    (hs : s.core = { s₀ with phase := .synchronizing }.core) :
    ∃ s', (e.leadInDecide s queued gap frameTime).2.session = some s' ∧
      PassCase s₀ (e.leadInDecide s queued gap frameTime).1 s' := by
  have hparts := hs
  simp only [Session.core, Prod.mk.injEq] at hparts
  obtain ⟨-, hflush, hbuffer, href⟩ := hparts
  unfold leadInDecide
  split
  · -- one more frame of silence
    exact ⟨_, rfl, .leadIn hf hp hr (.inr ⟨_, rfl⟩) hs⟩
  · -- playback starts, after a last partial silence or skipping the frames already due
    simp only [enterPlaying, modifySession, modifyCounters, Option.map_some]
    split
    · split
      · exact ⟨_, rfl, .enter hf hp hr rfl (hflush.trans hf) href
          (by rw [hbuffer]; exact JitterBuffer.KeepsFlags.refl _)⟩
      · exact continue_playing _ _ hf hp hr rfl rfl (hflush.trans hf) href
          (by rw [hbuffer]; exact JitterBuffer.KeepsFlags.refl _)
    · by_cases hlate : 0 < ((wrapSigned 64 (-gap)).tdiv frameTime).toNat
      · rw [if_pos hlate]
        exact continue_playing _ _ hf hp hr rfl rfl (hflush.trans hf) href
          (by rw [hbuffer]; exact JitterBuffer.keepsFlags_skip _ _)
      · rw [if_neg hlate]
        exact continue_playing _ _ hf hp hr rfl rfl (hflush.trans hf) href
          (by rw [hbuffer]; exact JitterBuffer.KeepsFlags.refl _)

theorem leadInStep_case (e : Engine) {s₀ s : Session} (queued : Option Nat) (hf : s₀.flushPending = false)
    (hp : s₀.phase ≠ .playing) (hr : s₀.readyToSync = true)
    (hs : s.core = { s₀ with phase := .synchronizing }.core) :
    ∃ s', (e.leadInStep s queued).2.session = some s' ∧ PassCase s₀ (e.leadInStep s queued).1 s' := by
  rcases leadInStep_eq_or e s queued with heq | ⟨gap, frameTime, heq⟩
  · rw [heq]
    exact ⟨_, rfl, .leadIn hf hp hr (.inl rfl) hs⟩
  · rw [heq]
    exact leadInDecide_case e queued gap frameTime hf hp hr hs

theorem nextStep_case (e : Engine) {s : Session} (queued : Option Nat) (hs : e.session = some s) :
    ∃ s', (e.nextStep queued).2.session = some s' ∧ PassCase s (e.nextStep queued).1 s' := by
  unfold nextStep
  rw [hs]
  dsimp only
  by_cases hf : s.flushPending = true
  · rw [if_pos hf]
    exact ⟨_, rfl, .flushed hf rfl⟩
  · rw [if_neg hf]
    have hf' : s.flushPending = false := by simpa using hf
    cases hphase : s.phase with
    | buffering =>
      dsimp only
      have hp : s.phase ≠ .playing := by simp [hphase]
      by_cases hr : s.readyToSync = true
      · rw [if_pos hr]
        exact leadInStep_case e queued hf' hp hr rfl
      · rw [if_neg hr]
        exact ⟨s, hs, .wait hf' hp (by simpa using hr) (by simp [Session.core, hphase])⟩
    | synchronizing =>
      dsimp only
      have hp : s.phase ≠ .playing := by simp [hphase]
      by_cases hr : s.readyToSync = true
      · rw [if_pos hr]
        exact leadInStep_case e queued hf' hp hr (by simp [Session.core, hphase])
      · rw [if_neg hr]
        exact ⟨_, rfl, .wait hf' hp (by simpa using hr) rfl⟩
    | playing =>
      dsimp only
      obtain ⟨s', hs', hcase⟩ := playingStep_case e s queued
      refine ⟨s', hs', ?_⟩
      rcases hcase with ⟨hstep, -, hcore⟩ | ⟨hstep, hphase', hflush', href', hk⟩
      · rw [hstep]
        exact .underrun hf' hphase hcore
      · exact .play hf' hphase hstep (hphase'.trans hphase) (hflush'.trans hf') href' hk

theorem playOut_session (e : Engine) (samples : List Int) : (e.playOut samples).session = e.session := by
  unfold playOut
  split <;> rfl

theorem perform_core (e : Engine) (step : Step) :
    (e.perform step).session.map Session.core = e.session.map Session.core := by
  cases step with
  | idle => rfl
  | flushed =>
    simp only [perform, modifySession]
    cases e.session <;> rfl
  | underrun =>
    simp only [perform, modifySession]
    cases e.session <;> rfl
  | silence frames => simp [perform, modifyCounters, playOut_session]
  | frame f fill resends =>
    simp only [perform, playFrame]
    cases hs : (e.request resends).session with
    | none =>
      simp only [request] at hs
      simp [request, hs]
    | some s =>
      simp only [request] at hs
      simp [modifySession, modifyCounters, playOut_session, request, hs, Session.core]

theorem forwardVolume_session (e : Engine) : e.forwardVolume.session = e.session := by
  unfold forwardVolume
  dsimp only
  split <;> rfl

theorem PassCase.of_core {s s₂ s' : Session} {step : Step} (hcase : PassCase s step s₂)
    (hc : s'.core = s₂.core) : PassCase s step s' := by
  have hparts := hc
  simp only [Session.core, Prod.mk.injEq] at hparts
  obtain ⟨hphase, hflush, hbuffer, href⟩ := hparts
  cases hcase with
  | flushed hf hcore => exact .flushed hf (hc.trans hcore)
  | wait hf hp hr hcore => exact .wait hf hp hr (hc.trans hcore)
  | leadIn hf hp hr hstep hcore => exact .leadIn hf hp hr hstep (hc.trans hcore)
  | enter hf hp hr hph hfl hrf hk =>
    exact .enter hf hp hr (hphase.trans hph) (hflush.trans hfl) (href.trans hrf) (hbuffer ▸ hk)
  | underrun hf hp hcore => exact .underrun hf hp (hc.trans hcore)
  | play hf hp hstep hph hfl hrf hk =>
    exact .play hf hp hstep (hphase.trans hph) (hflush.trans hfl) (href.trans hrf) (hbuffer ▸ hk)

theorem pass_case (e : Engine) {s : Session} (hs : e.session = some s) :
    ∃ s', e.pass.2.session = some s' ∧ PassCase s e.pass.1 s' := by
  have hs₁ : e.forwardVolume.session = some s := (forwardVolume_session e).trans hs
  obtain ⟨s₂, hs₂, hcase⟩ := nextStep_case e.forwardVolume e.forwardVolume.sink.delay hs₁
  have hperform := perform_core (e.forwardVolume.nextStep e.forwardVolume.sink.delay).2
    (e.forwardVolume.nextStep e.forwardVolume.sink.delay).1
  rw [hs₂, Option.map_some, Option.map_eq_some_iff] at hperform
  obtain ⟨s', hs', hcore⟩ := hperform
  exact ⟨s', hs', hcase.of_core hcore⟩

variable {s s' : Session} {step : Step}

theorem PassCase.coherent (h : s.PhaseCoherent) (hcase : PassCase s step s') : s'.PhaseCoherent := by
  have hready (hr : s.readyToSync = true) : s.buffer.synced = true ∧ s.reference.isAnchored = true := by
    simp only [Session.readyToSync, Bool.and_eq_true] at hr
    exact ⟨hr.1.1, hr.2⟩
  -- a session not playing is still buffering
  have hbuffering (hp : s.phase ≠ .playing) : s.buffer.buffering = true := by
    simpa using mt h.playing_iff.2 hp
  cases hcase with
  | flushed hf hcore =>
    exact Session.PhaseCoherent.of_core (s := { s with flushPending := false })
      ⟨h.playing_iff, h.ready, fun hfl => by cases hfl⟩ hcore
  | wait hf hp hr hcore =>
    refine Session.PhaseCoherent.of_core (s := { s with phase := .buffering })
      ⟨?_, fun hb => absurd rfl hb, fun _ => rfl⟩ hcore
    simp [hbuffering hp]
  | leadIn hf hp hr hstep hcore =>
    refine Session.PhaseCoherent.of_core (s := { s with phase := .synchronizing })
      ⟨?_, fun _ => hready hr, fun hfl => ?_⟩ hcore
    · simp [hbuffering hp]
    · simp [hf] at hfl
  | enter hf hp hr hphase hflush href hk =>
    refine ⟨?_, fun _ => ?_, fun hfl => ?_⟩
    · simp [hphase, hk.buffering, JitterBuffer.setBuffering]
    · rw [href]
      exact ⟨hk.synced (hready hr).1, (hready hr).2⟩
    · simp [hflush] at hfl
  | underrun hf hp hcore =>
    refine Session.PhaseCoherent.of_core (s := { s with phase := .buffering, buffer := s.buffer.reset })
      ⟨?_, fun hb => absurd rfl hb, fun _ => rfl⟩ hcore
    simp [JitterBuffer.reset]
  | play hf hp hstep hphase hflush href hk =>
    refine ⟨?_, fun _ => ?_, fun hfl => ?_⟩
    · simp [hphase, hk.buffering, h.playing_iff.1 hp]
    · obtain ⟨hsynced, hanchored⟩ := h.ready (by simp [hp])
      rw [href]
      exact ⟨hk.synced hsynced, hanchored⟩
    · simp [hflush] at hfl

theorem PassCase.buffer_of_not_playing (hcase : PassCase s step s') (hp : s'.phase ≠ .playing) :
    s'.buffer = s.buffer ∨ s'.buffer = s.buffer.reset := by
  have hbuffer (s₂ : Session) (hc : s'.core = s₂.core) : s'.buffer = s₂.buffer := by
    simp only [Session.core, Prod.mk.injEq] at hc
    exact hc.2.2.1
  cases hcase with
  | flushed _ hcore =>
    have hb := hbuffer _ hcore
    exact .inl hb
  | wait _ _ _ hcore =>
    have hb := hbuffer _ hcore
    exact .inl hb
  | leadIn _ _ _ _ hcore =>
    have hb := hbuffer _ hcore
    exact .inl hb
  | enter _ _ _ hphase => exact absurd hphase hp
  | underrun _ _ hcore =>
    have hb := hbuffer _ hcore
    exact .inr hb
  | play _ _ _ hphase => exact absurd hphase hp

theorem PassCase.phase_of_frame {f : Frame} {fill : Nat} {rs : List SeqRange}
    (hcase : PassCase s (.frame f fill rs) s') : s'.phase = .playing := by
  cases hcase with
  | leadIn _ _ _ hstep =>
    rcases hstep with h | ⟨_, h⟩ <;> cases h
  | enter _ _ _ hphase => exact hphase
  | play _ _ _ hphase => exact hphase

theorem PassCase.of_silence {n : Nat} (hcase : PassCase s (.silence n) s') :
    s.phase ≠ .playing ∧ s.readyToSync = true ∧ (s'.phase = .synchronizing ∨ s'.phase = .playing) := by
  cases hcase with
  | leadIn _ hp hr _ hcore =>
    simp only [Session.core, Prod.mk.injEq] at hcore
    exact ⟨hp, hr, .inl hcore.1⟩
  | enter _ hp hr hphase => exact ⟨hp, hr, .inr hphase⟩
  | play _ _ hstep =>
    rcases hstep with h | ⟨_, _, _, h⟩ <;> cases h

end Pass

/-- Each pass, wherever it starts: frames leave the buffer only in a pass that ends playing, a
frame is returned only while playing, and lead-in silence comes only from a session that was
ready but not yet playing, which ends synchronizing or, after a last partial silence, playing. -/
theorem pass_discipline (e : Engine) {s s' : Session} (hs : e.session = some s)
    (hs' : e.pass.2.session = some s') :
    (s'.phase ≠ .playing → s'.buffer = s.buffer ∨ s'.buffer = s.buffer.reset) ∧
    (∀ f fill rs, e.pass.1 = .frame f fill rs → s'.phase = .playing) ∧
    (∀ n, e.pass.1 = .silence n →
      s.phase ≠ .playing ∧ s.readyToSync = true ∧ (s'.phase = .synchronizing ∨ s'.phase = .playing)) := by
  obtain ⟨s₂, hs₂, hcase⟩ := pass_case e hs
  rw [hs₂] at hs'
  cases hs'
  refine ⟨hcase.buffer_of_not_playing, ?_, ?_⟩
  · intro f fill rs hstep
    rw [hstep] at hcase
    exact hcase.phase_of_frame
  · intro n hstep
    rw [hstep] at hcase
    exact hcase.of_silence

theorem pass_session_none {e : Engine} (hs : e.session = none) : e.pass.2.session = none := by
  have h₁ : e.forwardVolume.session = none := (forwardVolume_session e).trans hs
  simp only [pass, nextStep, h₁, perform]

/-! ## The pass a thread stops on -/

/-- Only a lead-in step faults: the session is ready, not playing, and has no flush pending. -/
theorem passFault_lead_in {e : Engine} {f : Fault} (h : e.passFault = some f) :
    ∃ s, e.session = some s ∧ s.flushPending = false ∧ s.phase ≠ .playing ∧ s.readyToSync = true := by
  unfold passFault at h
  dsimp only at h
  rw [forwardVolume_session] at h
  cases hs : e.session with
  | none => simp [hs] at h
  | some s =>
    simp only [hs] at h
    split_ifs at h with hflush hr
    · refine ⟨s, rfl, by simpa using hflush, ?_, hr⟩
      cases hphase : s.phase with
      | playing => simp [hphase] at h
      | _ => simp
    · cases hphase : s.phase <;> simp [hphase] at h

/-- The pass a thread stops on leaves the session as far as its lead-in step got: synchronizing,
or already playing where the gap's negation faults. -/
theorem crash_case {e : Engine} {f : Fault} (hf : e.passFault = some f) {s : Session}
    (hs : e.session = some s) : ∃ s', (e.crash f).session = some s' ∧ PassCase s .idle s' := by
  obtain ⟨s₀, hs₀, hflush, hp, hr⟩ := passFault_lead_in hf
  rw [hs, Option.some_inj] at hs₀
  subst hs₀
  have hs₁ : e.forwardVolume.session = some s := (forwardVolume_session e).trans hs
  have hstop : ∀ s₁ : Session, s₁.core = { s with phase := .synchronizing }.core →
      ∃ s', (if f = Fault.negOverflow then enterPlaying { e.forwardVolume with session := some s₁ }
        else { e.forwardVolume with session := some s₁ }).session = some s' ∧ PassCase s .idle s' := by
    intro s₁ hc
    have hparts := hc
    simp only [Session.core, Prod.mk.injEq] at hparts
    obtain ⟨-, hflush₁, hbuffer₁, href₁⟩ := hparts
    split
    · exact ⟨_, rfl, .enter hflush hp hr rfl (hflush₁.trans hflush) href₁
        (by dsimp only; rw [hbuffer₁]; exact JitterBuffer.KeepsFlags.refl _)⟩
    · exact ⟨s₁, rfl, .leadIn hflush hp hr (.inl rfl) hc⟩
  simp only [crash, hs₁]
  cases hphase : s.phase with
  | buffering => exact hstop _ rfl
  | synchronizing => exact hstop s (by simp [Session.core, hphase])
  | playing => exact absurd hphase hp

/-! ## Runs -/

/-- What a property of running sessions must survive to hold after an operation: a new session,
a put, an anchor, a flush, a pass, and the pass a thread stops on. -/
theorem Transition.sessions {P : Session → Prop} {e e' : Engine} (ht : Transition e e')
    (hP : ∀ s, e.session = some s → P s)
    (hstart : ∀ {sc d}, e.startChecks sc = .ok d → P (e.newSession sc d))
    (hput : ∀ {seq ts payload o}, e.put seq ts payload = .ok (o, e') → ∀ s, e'.session = some s → P s)
    (hanchor : ∀ ts time s, P s → P { s with reference := s.reference.setAnchor ts time })
    (hflush : ∀ target s, P s → P { s with
      buffer := s.buffer.flush target, reference := s.reference.clear, phase := .buffering
      flushPending := true })
    (hpass : ∀ s, e.session = some s → ∀ s', e.pass.2.session = some s' → P s')
    (hcrash : ∀ {f} s s', e.passFault = some f → e.session = some s → (e.crash f).session = some s' → P s') :
    ∀ s', e'.session = some s' → P s' := by
  intro s' hs'
  cases ht with
  | start sc spawn =>
    rcases start_session hs' with hs | ⟨d, hd, rfl⟩
    · exact hP s' hs
    · exact hstart hd
  | stop h =>
    rw [stop_session h] at hs'
    cases hs'
  | put seq ts payload h => exact hput h s' hs'
  | receive datagram h =>
    obtain ⟨seq, ts, payload, hput'⟩ := put_of_receive h
    exact hput hput' s' hs'
  | setAnchor ts time =>
    simp only [Engine.setAnchor, modifySession, Option.map_eq_some_iff] at hs'
    obtain ⟨s, hs, rfl⟩ := hs'
    exact hanchor ts time s (hP s hs)
  | flush target =>
    simp only [Engine.flush, modifySession, Option.map_eq_some_iff] at hs'
    obtain ⟨s, hs, rfl⟩ := hs'
    exact hflush target s (hP s hs)
  | setVolume | setClock | setQueued => exact hP s' hs'
  | pass =>
    cases hs : e.session with
    | none =>
      rw [pass_session_none hs] at hs'
      cases hs'
    | some s => exact hpass s hs s' hs'
  | crash _ hf =>
    obtain ⟨s, hs, -⟩ := passFault_lead_in hf
    exact hcrash s s' hf hs hs'

/-- A property of running sessions that every operation keeps holds on every player reached from
one without a session. -/
theorem sessions_of_reachable {P : Session → Prop}
    (hstep : ∀ {e e'}, (∀ s, e.session = some s → P s) → Transition e e' → ∀ s, e'.session = some s → P s)
    {e₀ e : Engine} (hnone : e₀.session = none) (hreach : Relation.ReflTransGen Transition e₀ e) :
    ∀ s, e.session = some s → P s := by
  induction hreach with
  | refl =>
    intro s hs
    rw [hnone] at hs
    cases hs
  | tail _ ht ih => exact hstep ih ht

theorem coherent_transition {e e' : Engine} (hc : e.Coherent) (ht : Transition e e') : e'.Coherent := by
  refine ht.sessions hc ?_ (fun h => coherent_put hc h) ?_ ?_ ?_ ?_
  · -- a new session buffers, with a buffering buffer and no flush pending
    intro sc d _
    obtain ⟨hphase, hflush, hbuffering⟩ := newSession_fresh e sc d
    refine ⟨by simp [hphase, hbuffering], fun hp => absurd hphase hp, fun hf => ?_⟩
    rw [hflush] at hf
    cases hf
  · exact fun _ _ s hs => ⟨hs.playing_iff, fun hp => ⟨(hs.ready hp).1, rfl⟩, hs.flush⟩
  · refine fun _ _ _ => ⟨?_, fun hp => absurd rfl hp, fun _ => rfl⟩
    simp [JitterBuffer.flush, JitterBuffer.reset]
  · intro s hs s' h'
    obtain ⟨s₂, hs₂, hcase⟩ := pass_case e hs
    rw [hs₂] at h'
    cases h'
    exact hcase.coherent (hc s hs)
  · intro f s s' hf hs h'
    obtain ⟨s₂, hs₂, hcase⟩ := crash_case hf hs
    rw [hs₂] at h'
    cases h'
    exact hcase.coherent (hc s hs)

theorem coherent_of_transitions {e₀ e : Engine} (h₀ : e₀.Coherent)
    (hreach : Relation.ReflTransGen Transition e₀ e) : e.Coherent := by
  induction hreach with
  | refl => exact h₀
  | tail _ ht ih => exact coherent_transition ih ht

/-- From a player without a session, through any interleaving of the caller's operations and
passes of playback, every session keeps its phase in step with its buffer, clock and pending
flush, and every pass takes frames, returns frames and sends lead-in silence only as its phase
allows. -/
theorem coherent_of_reachable {e₀ e : Engine} (hnone : e₀.session = none)
    (hreach : Relation.ReflTransGen Transition e₀ e) :
    (∀ s, e.session = some s → s.PhaseCoherent) ∧
    ∀ s s', e.session = some s → e.pass.2.session = some s' →
      (s'.phase ≠ .playing → s'.buffer = s.buffer ∨ s'.buffer = s.buffer.reset) ∧
      (∀ f fill rs, e.pass.1 = .frame f fill rs → s'.phase = .playing) ∧
      (∀ n, e.pass.1 = .silence n →
        s.phase ≠ .playing ∧ s.readyToSync = true ∧ (s'.phase = .synchronizing ∨ s'.phase = .playing)) := by
  have hstart : e₀.Coherent := by
    intro s hs
    rw [hnone] at hs
    cases hs
  exact ⟨coherent_of_transitions hstart hreach, fun s s' hs hs' => pass_discipline e hs hs'⟩

/-- A player that has started a session of 352-frame packets at 44.1 kHz. -/
theorem coherent_after_start :
    let e₀ := Engine.create {} (Sink.create .discard) 0
    let e := (e₀.start ⟨StreamParams.pcm 352 44100, none⟩).2
    e₀.session = none ∧ Relation.ReflTransGen Transition e₀ e ∧
    ((∀ s, e.session = some s → s.PhaseCoherent) ∧
    ∀ s s', e.session = some s → e.pass.2.session = some s' →
      (s'.phase ≠ .playing → s'.buffer = s.buffer ∨ s'.buffer = s.buffer.reset) ∧
      (∀ f fill rs, e.pass.1 = .frame f fill rs → s'.phase = .playing) ∧
      (∀ n, e.pass.1 = .silence n →
        s.phase ≠ .playing ∧ s.readyToSync = true ∧ (s'.phase = .synchronizing ∨ s'.phase = .playing))) := by
  intro e₀ e
  have hreach : Relation.ReflTransGen Transition e₀ e := .single (.start e₀ _ _)
  exact ⟨rfl, hreach, coherent_of_reachable rfl hreach⟩

end Engine

end Playout
