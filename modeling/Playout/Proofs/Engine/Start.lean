import Playout.Proofs.Engine.Flush

/-!
# Refused starts

A start takes its steps in order, each on the player as the one before left it. A start is
refused for one of the reasons `Engine.StartRefused` lists, checked in its order: a running
session, the two validations, the decoder, and the output, which must be in its slot and open.
The output leaves its slot for the session before it is opened and is put back when it does not
open, so a refused start leaves the player exactly as it was, and only a refused start does
(`Engine.start_eq_refused_iff`). The one other way a start fails is a thread that cannot be
spawned, and that failure comes after the start has changed the player
(`Engine.start_spawn_failure`): the counters are reset, the volume follows the new output's
mixer, and the output is out of its slot for good. A run of turns goes on after a refused start as
if it had not been called (`Player.run_refused_start`).

Main statement: `refused_start_changes_nothing`.
-/

namespace Playout

theorem PlayoutConfig.validate_error {c : PlayoutConfig} {err : PlayoutError} (h : c.validate = .error err) :
    ∃ msg, err = .invalidConfig msg := by
  unfold PlayoutConfig.validate at h
  simp only [bind, Except.bind, pure, Except.pure, throw, throwThe, MonadExceptOf.throw] at h
  repeat' split at h
  all_goals cases h
  all_goals exact ⟨_, rfl⟩

theorem SessionConfig.validate_error {sc : SessionConfig} {err : PlayoutError} (h : sc.validate = .error err) :
    ∃ msg, err = .invalidConfig msg := by
  unfold SessionConfig.validate at h
  simp only [bind, Except.bind, pure, Except.pure, throw, throwThe, MonadExceptOf.throw] at h
  repeat' split at h
  all_goals cases h
  all_goals exact ⟨_, rfl⟩

namespace Engine

/-- Why a start is refused, in the order the checks are made: a session already running, the
engine's settings, the session's settings, the decoder for its stream, an output missing from its
slot, and an output that does not open. Both validations refuse with `invalidConfig`. -/
inductive StartRefused (e : Engine) (sc : SessionConfig) : PlayoutError → Prop
  | running : e.isRunning = true → StartRefused e sc .alreadyRunning
  | config {msg : String} : e.isRunning = false → e.config.validate = .error (.invalidConfig msg) →
      StartRefused e sc (.invalidConfig msg)
  | session {msg : String} : e.isRunning = false → e.config.validate = .ok () →
      sc.validate = .error (.invalidConfig msg) → StartRefused e sc (.invalidConfig msg)
  | decoder {err : DecodeError} : e.isRunning = false → e.config.validate = .ok () → sc.validate = .ok () →
      FrameDecoder.create sc.stream = .error err → StartRefused e sc (.decoder err)
  | closed {d : FrameDecoder} : e.isRunning = false → e.config.validate = .ok () → sc.validate = .ok () →
      FrameDecoder.create sc.stream = .ok d → e.sinkInSlot = false → StartRefused e sc (.sink .closed)
  | sink {d : FrameDecoder} {err : SinkError} : e.isRunning = false → e.config.validate = .ok () →
      sc.validate = .ok () → FrameDecoder.create sc.stream = .ok d → e.sinkInSlot = true →
      e.sink.start sc.stream.sampleRate.toNat = .error err → StartRefused e sc (.sink err)

variable {e : Engine} {sc : SessionConfig} {err : PlayoutError} {spawn : Except String Unit}

theorem startRefused_of_startChecks (h : e.startChecks sc = .error err) : StartRefused e sc err := by
  unfold startChecks at h
  simp only [bind, Except.bind, pure, Except.pure, throw, throwThe, MonadExceptOf.throw] at h
  -- the checks in the order they are made; the first that fails gives the error
  split at h
  · cases h
    exact .running ‹_›
  rename_i hrun
  have hidle : e.isRunning = false := Bool.of_not_eq_true hrun
  split at h
  · rename_i hc
    cases h
    obtain ⟨msg, rfl⟩ := PlayoutConfig.validate_error hc
    exact .config hidle hc
  rename_i hc
  split at h
  · rename_i hs
    cases h
    obtain ⟨msg, rfl⟩ := SessionConfig.validate_error hs
    exact .session hidle hc hs
  rename_i hs
  split at h
  · cases h
  · rename_i hd
    cases h
    exact .decoder hidle hc hs hd

theorem startChecks_of_valid {d : FrameDecoder} (hidle : e.isRunning = false) (hc : e.config.validate = .ok ())
    (hs : sc.validate = .ok ()) (hd : FrameDecoder.create sc.stream = .ok d) : e.startChecks sc = .ok d := by
  simp [startChecks, hidle, hc, hs, hd, bind, Except.bind, pure, Except.pure]

theorem startChecks_valid {d : FrameDecoder} (h : e.startChecks sc = .ok d) :
    e.isRunning = false ∧ e.config.validate = .ok () ∧ sc.validate = .ok () ∧ FrameDecoder.create sc.stream = .ok d := by
  unfold startChecks at h
  simp only [bind, Except.bind, pure, Except.pure, throw, throwThe, MonadExceptOf.throw] at h
  split at h
  · cases h
  rename_i hrun
  split at h
  · cases h
  rename_i hc
  split at h
  · cases h
  rename_i hs
  split at h
  · cases h
    exact ⟨Bool.of_not_eq_true hrun, hc, hs, ‹_›⟩
  · cases h

/-- A start that errs and leaves the player as it was is refused for a reason on the list: where it
gets as far as the output, the output goes back into its slot. -/
theorem startRefused_of_start (h : e.start sc spawn = (.error err, e)) : StartRefused e sc err := by
  unfold start at h
  split at h
  · rename_i herr
    cases h
    exact startRefused_of_startChecks herr
  rename_i d hd
  obtain ⟨hidle, hc, hs, hcreate⟩ := startChecks_valid hd
  dsimp only at h
  split at h
  · rename_i hslot
    cases h
    exact .closed hidle hc hs hcreate (by simpa using hslot)
  rename_i hslot
  have hslot' : e.sinkInSlot = true := by simpa using hslot
  split at h
  · rename_i sinkErr hsink
    cases congrArg Prod.fst h
    exact .sink hidle hc hs hcreate hslot' hsink
  -- past the output's opening the player has changed: the output has left its slot
  split at h
  · have hout := congrArg (fun r => r.2.sinkInSlot) h
    simp only [openSession] at hout
    rw [hslot'] at hout
    cases hout
  · cases h

/-- A refused start errs and leaves the player as it was, whatever the system would answer to the
request for a thread. -/
theorem start_of_startRefused (h : StartRefused e sc err) (spawn : Except String Unit) :
    e.start sc spawn = (.error err, e) := by
  cases h with
  | running hrun => simp [start, startChecks, hrun, bind, Except.bind, throw, throwThe, MonadExceptOf.throw]
  | config hidle hc => simp [start, startChecks, hidle, hc, bind, Except.bind]
  | session hidle hc hs => simp [start, startChecks, hidle, hc, hs, bind, Except.bind]
  | decoder hidle hc hs hd =>
    simp [start, startChecks, hidle, hc, hs, hd, bind, Except.bind, throw, throwThe, MonadExceptOf.throw]
  | closed hidle hc hs hd hslot => simp [start, startChecks_of_valid hidle hc hs hd, hslot]
  | sink hidle hc hs hd hslot hsink =>
    -- the output goes back into the slot it was taken from
    simp only [start, startChecks_of_valid hidle hc hs hd, hslot, hsink, Bool.not_true, Bool.false_eq_true,
      if_false]
    obtain ⟨⟩ := e
    cases hslot
    rfl

theorem start_eq_refused_iff : e.start sc spawn = (.error err, e) ↔ StartRefused e sc err :=
  ⟨startRefused_of_start, fun h => start_of_startRefused h spawn⟩

/-- A start whose thread cannot be spawned fails after it has changed the player: no session
remains, but the output, opened for the session, stays out of its slot, the counters are reset
and the volume follows the new output's mixer. -/
theorem start_spawn_failure {d : FrameDecoder} (hchecks : e.startChecks sc = .ok d) (hslot : e.sinkInSlot = true)
    {sink : Sink} (hopen : e.sink.start sc.stream.sampleRate.toNat = .ok sink) (reason : String) :
    e.start sc (.error reason) = (.error (.threadSpawn reason),
      { e with
        sink := sink, sinkInSlot := false, volume := e.volume.setHardware sink.hasHardwareVolume
        counters := { rate := 1.0 }, panicked := none }) := by
  have hnone := startChecks_session hchecks
  simp only [start, hchecks, hslot, hopen, openSession, Bool.not_true, Bool.false_eq_true, if_false]
  obtain ⟨⟩ := e
  cases hnone
  rfl

/-- Every start that errs is refused for a reason on the list, or failed to spawn its thread. -/
theorem start_error_cases (h : (e.start sc spawn).1 = .error err) :
    StartRefused e sc err ∨ ∃ reason, spawn = .error reason ∧ err = .threadSpawn reason := by
  unfold start at h
  split at h
  · rename_i herr
    cases h
    exact .inl (startRefused_of_startChecks herr)
  rename_i d hd
  obtain ⟨hidle, hc, hs, hcreate⟩ := startChecks_valid hd
  dsimp only at h
  split at h
  · rename_i hslot
    cases h
    exact .inl (.closed hidle hc hs hcreate (by simpa using hslot))
  rename_i hslot
  split at h
  · rename_i sinkErr hsink
    cases h
    exact .inl (.sink hidle hc hs hcreate (by simpa using hslot) hsink)
  split at h
  · rename_i reason
    cases h
    exact .inr ⟨reason, rfl, rfl⟩
  · cases h

end Engine

namespace Player

variable {p q : Player} {sc : SessionConfig}

theorem turn_start_eq_self_iff : p.turn (.start sc) = some p ↔ ∃ err, (p.engine.start sc).1 = .error err := by
  constructor
  · intro h
    simp only [turn, Option.some.injEq] at h
    have he : (p.engine.start sc).2 = p.engine := congrArg Player.engine h
    cases hs : (p.engine.start sc).1 with
    | error err => exact ⟨err, rfl⟩
    | ok u =>
      -- a start that goes through opens a session where there was none
      obtain ⟨d, sink, hchecks, -, hopened⟩ := Engine.start_ok (Prod.ext hs he)
      have hsession := congrArg Engine.session hopened
      rw [Engine.startChecks_session hchecks] at hsession
      cases hsession
  · rintro ⟨err, h⟩
    obtain hrefused | ⟨reason, hspawn, -⟩ := Engine.start_error_cases h
    · simp only [turn, Engine.start_of_startRefused hrefused]
    · cases hspawn

/-- Taking two lists of turns one after the other is taking them together. -/
theorem run_append (p : Player) (ts₁ ts₂ : List Turn) :
    p.run (ts₁ ++ ts₂) = (p.run ts₁).bind fun r => (r.2.run ts₂).map fun r' => (r.1 ++ r'.1, r'.2) := by
  induction ts₁ generalizing p with
  | nil => simp [run]
  | cons t ts ih =>
    simp only [List.cons_append, run]
    cases p.turn t with
    | none => rfl
    | some q => simp [ih, Option.map_bind, Option.bind_map, Function.comp_def]

/-- A refused start can be left out of a run: the turns after it go exactly as if it had not
been called. -/
theorem run_refused_start {ts₁ ts₂ : List Turn} {out : List Step} (h : p.run ts₁ = some (out, q))
    (hq : ∃ err, (q.engine.start sc).1 = .error err) :
    p.run (ts₁ ++ .start sc :: ts₂) = p.run (ts₁ ++ ts₂) := by
  have hturn : q.turn (.start sc) = some q := turn_start_eq_self_iff.mpr hq
  have hskip : q.run (.start sc :: ts₂) = q.run ts₂ := by
    simp [run, hturn, carriedOut]
  rw [run_append, run_append, h, Option.bind_some, Option.bind_some, hskip]

end Player

/-- A refused start changes nothing. A start errs with the player left exactly as it was precisely
when it is refused for one of the reasons `Engine.StartRefused` lists, in its order, whatever the
system would answer to the request for a thread; the only other error is a thread that could not
be spawned. So a run goes on after a refused start as if the call had not been made, and a running
session refuses a start as already running and is not disturbed. -/
theorem refused_start_changes_nothing :
    (∀ (e : Engine) (sc : SessionConfig) (spawn : Except String Unit) (err : PlayoutError),
      e.start sc spawn = (.error err, e) ↔ Engine.StartRefused e sc err) ∧
    (∀ (e : Engine) (sc : SessionConfig) (spawn : Except String Unit) (err : PlayoutError),
      (e.start sc spawn).1 = .error err →
        Engine.StartRefused e sc err ∨ ∃ reason, spawn = .error reason ∧ err = .threadSpawn reason) ∧
    (∀ (p : Player) (sc : SessionConfig),
      p.turn (.start sc) = some p ↔ ∃ err, (p.engine.start sc).1 = .error err) ∧
    (∀ (p q : Player) (sc : SessionConfig) (ts₁ ts₂ : List Turn) (out : List Step),
      p.run ts₁ = some (out, q) → (∃ err, (q.engine.start sc).1 = .error err) →
        p.run (ts₁ ++ .start sc :: ts₂) = p.run (ts₁ ++ ts₂)) ∧
    (∀ (p : Player) (sc : SessionConfig) (spawn : Except String Unit), p.engine.isRunning = true →
      p.engine.start sc spawn = (.error .alreadyRunning, p.engine) ∧ p.turn (.start sc) = some p) := by
  refine ⟨fun e sc spawn err => Engine.start_eq_refused_iff, fun e sc spawn err h => Engine.start_error_cases h,
    fun p sc => Player.turn_start_eq_self_iff, fun p q sc ts₁ ts₂ out h hq => Player.run_refused_start h hq,
    fun p sc spawn hrun => ?_⟩
  have hrefused : Engine.StartRefused p.engine sc .alreadyRunning := .running hrun
  exact ⟨Engine.start_of_startRefused hrefused spawn,
    Player.turn_start_eq_self_iff.mpr ⟨_, by rw [Engine.start_of_startRefused hrefused]⟩⟩

end Playout
