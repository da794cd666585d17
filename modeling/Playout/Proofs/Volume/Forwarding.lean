import Playout.Proofs.Volume.Control
import Playout.Proofs.Engine.Output
import Playout.Proofs.Engine.Start

/-!
# Handing the volume to the output's mixer

An output with a mixer of its own gets the level in decibels from playback: starting a session
queues the level in force, a level set while the mixer is on is queued in its place, and each turn
of playback hands the queued level over, if there is one, before it takes its step. The caller may
set levels faster than playback takes them, so some are overwritten unseen; none is handed over
twice or out of order, and once playback has taken a turn after the last level set, that level is
the last one the mixer got.

`Engine.Forwards` is the invariant of a session: the levels handed over since it started, followed
by the one still queued, are some of the levels asked for in order, the first of those being the
level in force at the start.
-/

namespace Playout

namespace Sink

variable {s s' : Sink}

theorem hasHardwareVolume_iff : s.hasHardwareVolume = true ↔ s.kind = .recorder true := by
  unfold hasHardwareVolume
  split <;> simp_all

theorem hasHardwareVolume_of_kind (hk : s'.kind = s.kind) : s'.hasHardwareVolume = s.hasHardwareVolume := by
  simp only [hasHardwareVolume, hk]

theorem setVolume_volumes (h : s.hasHardwareVolume = true) (db : Float) :
    (s.setVolume db).recording.volumes = s.recording.volumes ++ [db] := by
  simp [setVolume, hasHardwareVolume_iff.1 h, Recording.volumes]

theorem start_mixer {rate : Nat} (h : s.start rate = .ok s') :
    s'.kind = s.kind ∧ s'.recording.levels = s.recording.levels := by
  unfold start at h
  split at h <;> cases h <;> exact ⟨rfl, rfl⟩

theorem play_mixer {samples : List Int} (h : s.play samples = .ok s') :
    s'.kind = s.kind ∧ s'.recording.levels = s.recording.levels := by
  unfold play at h
  split at h
  · cases h
    exact ⟨rfl, rfl⟩
  · -- a broken writer refuses a non-empty block
    split at h
    · cases h
    · cases h
      exact ⟨rfl, rfl⟩
  all_goals cases h
  all_goals exact ⟨rfl, rfl⟩

@[simp] theorem flush_kind : s.flush.kind = s.kind := by
  unfold flush
  split <;> rfl

@[simp] theorem flush_levels : s.flush.recording.levels = s.recording.levels := by
  unfold flush
  split <;> rfl

@[simp] theorem stop_kind : s.stop.kind = s.kind := by
  unfold stop
  split <;> rfl

@[simp] theorem stop_levels : s.stop.recording.levels = s.recording.levels := by
  unfold stop
  split <;> rfl

end Sink

namespace Engine

/-- A step that leaves alone all that volume forwarding reads and writes: the volume control,
the kind of output and the levels its mixer got. -/
structure KeepsMixer (e e' : Engine) : Prop where
  volume : e'.volume = e.volume
  kind : e'.sink.kind = e.sink.kind
  levels : e'.sink.recording.levels = e.sink.recording.levels

variable {e e' e₁ e₂ : Engine}

theorem KeepsMixer.rfl : KeepsMixer e e := ⟨Eq.refl _, Eq.refl _, Eq.refl _⟩

theorem KeepsMixer.trans (h₁ : KeepsMixer e e₁) (h₂ : KeepsMixer e₁ e₂) : KeepsMixer e e₂ :=
  ⟨h₂.volume.trans h₁.volume, h₂.kind.trans h₁.kind, h₂.levels.trans h₁.levels⟩

theorem keepsMixer_of_sink (hsink : e'.sink = e.sink) (hvolume : e'.volume = e.volume) : KeepsMixer e e' :=
  ⟨hvolume, hsink ▸ Eq.refl _, hsink ▸ Eq.refl _⟩

theorem playOut_keepsMixer (e : Engine) (samples : List Int) : KeepsMixer e (e.playOut samples) := by
  unfold playOut
  split
  · rename_i sink hplay
    obtain ⟨hkind, hlevels⟩ := Sink.play_mixer hplay
    exact ⟨Eq.refl _, hkind, hlevels⟩
  · exact keepsMixer_of_sink (Eq.refl _) (Eq.refl _)

@[simp] theorem playOut_volume (e : Engine) (samples : List Int) : (e.playOut samples).volume = e.volume :=
  (playOut_keepsMixer e samples).volume

@[simp] theorem playOut_kind (e : Engine) (samples : List Int) : (e.playOut samples).sink.kind = e.sink.kind :=
  (playOut_keepsMixer e samples).kind

@[simp] theorem playOut_levels (e : Engine) (samples : List Int) :
    (e.playOut samples).sink.recording.levels = e.sink.recording.levels :=
  (playOut_keepsMixer e samples).levels

theorem perform_keepsMixer (e : Engine) (step : Step) : KeepsMixer e (e.perform step) := by
  cases step with
  | frame f fill resends =>
    -- the frame goes out through `playOut`; the rest touches only the session and the counters
    simp only [perform, playFrame]
    split <;> constructor <;> simp [request, modifySession, modifyCounters]
  | _ => constructor <;> simp [perform, modifySession, modifyCounters]

theorem nextStep_keepsMixer (e : Engine) (queued : Option Nat) : KeepsMixer e (e.nextStep queued).2 := by
  cases hs : e.session with
  | none =>
    simp only [nextStep, hs]
    exact KeepsMixer.rfl
  | some s =>
    obtain ⟨s', -, hdec⟩ := nextStep_decided e queued hs
    exact keepsMixer_of_sink hdec.sink hdec.volume

theorem put_keepsMixer {seq : UInt16} {ts : UInt32} {payload : Bytes} {o : Option PutOutcome}
    (h : e.put seq ts payload = .ok (o, e')) : KeepsMixer e e' := by
  unfold put at h
  split at h
  · cases h
    exact KeepsMixer.rfl
  · rename_i s hs
    dsimp only at h
    cases hd : s.decoder.decode payload with
    | error f =>
      rw [hd] at h
      cases h
    | ok v =>
      rw [hd] at h
      obtain ⟨decoded, d⟩ := v
      cases decoded <;> cases h <;> exact keepsMixer_of_sink (Eq.refl _) (Eq.refl _)

@[simp] theorem forwardVolume_pending (e : Engine) : e.forwardVolume.volume.pending = none := by
  unfold forwardVolume
  dsimp only
  split <;> rfl

/-- A stop hands a live thread's queued level over before it closes the output; after a thread
that panicked it leaves the mixer alone. -/
theorem stop_keepsMixer (h : e.stop = .ok e') : KeepsMixer e e' ∨ KeepsMixer e.forwardVolume e' := by
  unfold stop at h
  split at h
  · split at h
    · cases h
      exact .inr ⟨Eq.refl _, Sink.stop_kind, Sink.stop_levels⟩
    · cases h
      exact .inl ⟨Eq.refl _, Eq.refl _, Eq.refl _⟩
  · cases h

/-- A start takes the output's word on whether it has a mixer, and keeps what its mixer got. -/
theorem start_mixer {sc : SessionConfig} (h : e.start sc = (.ok (), e')) :
    e'.volume = e.volume.setHardware e'.sink.hasHardwareVolume ∧ e'.sink.kind = e.sink.kind ∧
      e'.sink.recording.levels = e.sink.recording.levels := by
  obtain ⟨d, sink, -, hsink, rfl⟩ := start_ok h
  exact ⟨Eq.refl _, Sink.start_mixer hsink⟩

/-- Volume forwarding in a session on an output with a mixer. The mixer has got `fwd` after
`base`; the control is in mixer mode and holds the last level asked for, which is also the one
queued, if any; `fwd` and the queued level are some of the levels asked for, in order; and with
nothing queued the mixer's last level is the last one asked for. -/
structure Forwards (base asked fwd : List Float) (e : Engine) : Prop where
  mixer : e.sink.hasHardwareVolume = true
  hardware : e.volume.hardware = true
  latest : asked.getLast? = some e.volume.db
  queuedDb : ∀ x, e.volume.pending = some x → x = e.volume.db
  handed : e.sink.recording.volumes = base ++ fwd
  inOrder : (fwd ++ e.volume.pending.toList).Sublist asked
  caughtUp : e.volume.pending = none → fwd.getLast? = asked.getLast?

variable {base asked fwd : List Float}

theorem Forwards.keepsMixer (h : Forwards base asked fwd e) (hk : KeepsMixer e e') : Forwards base asked fwd e' where
  mixer := (Sink.hasHardwareVolume_of_kind hk.kind).trans h.mixer
  hardware := hk.volume ▸ h.hardware
  latest := hk.volume ▸ h.latest
  queuedDb := hk.volume ▸ h.queuedDb
  handed := by rw [Recording.volumes, hk.levels, ← Recording.volumes]; exact h.handed
  inOrder := hk.volume ▸ h.inOrder
  caughtUp := hk.volume ▸ h.caughtUp

/-- A start on an output with a mixer queues the level in force, and nothing has been handed over. -/
theorem forwards_start {sc : SessionConfig} (hmixer : e.sink.hasHardwareVolume = true) (h : e.start sc = (.ok (), e')) :
    Forwards e.sink.recording.volumes [e.volume.db] [] e' := by
  obtain ⟨hvolume, hkind, hlevels⟩ := start_mixer h
  have hmixer' : e'.sink.hasHardwareVolume = true := (Sink.hasHardwareVolume_of_kind hkind).trans hmixer
  rw [hmixer'] at hvolume
  refine ⟨hmixer', ?_, ?_, ?_, ?_, ?_, ?_⟩ <;>
    simp [hvolume, VolumeControl.setHardware, Recording.volumes, hlevels]

/-- Setting a level while the mixer is on queues it in place of the one queued. -/
theorem Forwards.setVolume (h : Forwards base asked fwd e) (db : Float) :
    Forwards base (asked ++ [db]) fwd (e.setVolume db) := by
  have hqueue : (e.setVolume db).volume = { e.volume with db, pending := some db } := by
    simp [Engine.setVolume, VolumeControl.setDb, h.hardware]
  have hfwd : fwd.Sublist asked := (List.sublist_append_left _ _).trans h.inOrder
  refine ⟨h.mixer, ?_, ?_, ?_, h.handed, ?_, ?_⟩ <;> simp only [hqueue]
  · exact h.hardware
  · simp
  · simp
  · exact hfwd.append (List.Sublist.refl [db])
  · simp

theorem forwardVolume_of_none (hp : e.volume.pending = none) :
    e.forwardVolume = { e with volume := { e.volume with pending := none } } := by
  simp [forwardVolume, VolumeControl.takeHardwareUpdate, hp]

theorem forwardVolume_of_some {x : Float} (hp : e.volume.pending = some x) :
    e.forwardVolume = { e with volume := { e.volume with pending := none }, sink := e.sink.setVolume x } := by
  simp [forwardVolume, VolumeControl.takeHardwareUpdate, hp]

/-- Playback's hand-over: the queued level, if any, goes to the mixer and nothing stays queued. -/
theorem Forwards.forwardVolume (h : Forwards base asked fwd e) : ∃ fwd', Forwards base asked fwd' e.forwardVolume := by
  cases hp : e.volume.pending with
  | none =>
    rw [forwardVolume_of_none hp]
    refine ⟨fwd, h.mixer, h.hardware, h.latest, (fun _ hx => by cases hx), h.handed, ?_, fun _ => h.caughtUp hp⟩
    simpa [hp] using h.inOrder
  | some x =>
    -- the queued level is the last one asked for, and now the last one the mixer got
    have hx : x = e.volume.db := h.queuedDb x hp
    rw [forwardVolume_of_some hp]
    refine ⟨fwd ++ [x], ?_, h.hardware, h.latest, (fun _ hy => by cases hy), ?_, ?_, fun _ => ?_⟩
    · exact (Sink.hasHardwareVolume_of_kind (Sink.setVolume_kind _ x)).trans h.mixer
    · simp [Sink.setVolume_volumes h.mixer, h.handed]
    · simpa [hp] using h.inOrder
    · simp [h.latest, hx]

end Engine

namespace Turn

def isStart : Turn → Bool
  | .start _ => true
  | _ => false

def level? : Turn → Option Float
  | .setVolume db => some db
  | _ => none

end Turn

/-- The levels a list of turns sets, in order. -/
def levelsSet (ts : List Turn) : List Float := ts.filterMap Turn.level?

@[simp] theorem levelsSet_nil : levelsSet [] = [] := rfl

theorem levelsSet_cons (t : Turn) (ts : List Turn) : levelsSet (t :: ts) = t.level?.toList ++ levelsSet ts := by
  cases h : t.level? <;> simp [levelsSet, h]

namespace Player

variable {p q : Player} {t : Turn} {ts : List Turn} {steps : List Step}

/-- What a turn other than a start does to volume forwarding: it sets a level, or it leaves the
mixer alone, after handing the queued level over (playback's turn, a stop) or not. -/
theorem turn_volume (ht : p.turn t = some q) (hstart : t.isStart = false) :
    (∃ db, t = .setVolume db ∧ q.engine = p.engine.setVolume db) ∨
      (t.level? = none ∧
        (Engine.KeepsMixer p.engine q.engine ∨ Engine.KeepsMixer p.engine.forwardVolume q.engine)) := by
  cases t with
  | start config => cases hstart
  | setVolume db =>
    simp only [turn, Option.some.injEq] at ht
    exact .inl ⟨db, rfl, by rw [← ht]⟩
  | stop =>
    refine .inr ⟨rfl, ?_⟩
    simp only [turn] at ht
    split at ht
    · rename_i e' hstop
      cases ht
      exact Engine.stop_keepsMixer hstop
    · cases ht
      exact .inl Engine.KeepsMixer.rfl
  | put seq ts payload =>
    refine .inr ⟨rfl, .inl ?_⟩
    simp only [turn] at ht
    split at ht
    · rename_i o e' hput
      cases ht
      exact Engine.put_keepsMixer hput
    · cases ht
  | fetch =>
    refine .inr ⟨rfl, .inr ?_⟩
    simp only [turn] at ht
    split at ht
    · cases ht
      exact Engine.nextStep_keepsMixer _ _
    · cases ht
  | perform =>
    refine .inr ⟨rfl, .inl ?_⟩
    simp only [turn] at ht
    split at ht
    · cases ht
      exact Engine.perform_keepsMixer _ _
    · cases ht
  | _ =>
    simp only [turn, Option.some.injEq] at ht
    subst ht
    exact .inr ⟨rfl, .inl ⟨Eq.refl _, Eq.refl _, Eq.refl _⟩⟩

theorem turn_fetch_pending (ht : p.turn .fetch = some q) : q.engine.volume.pending = none := by
  simp only [turn] at ht
  split at ht
  · cases ht
    rw [(Engine.nextStep_keepsMixer _ _).volume]
    exact Engine.forwardVolume_pending _
  · cases ht

theorem Forwards.turn {base asked fwd : List Float} (h : p.engine.Forwards base asked fwd)
    (ht : p.turn t = some q) (hstart : t.isStart = false) :
    ∃ fwd', q.engine.Forwards base (asked ++ t.level?.toList) fwd' := by
  rcases turn_volume ht hstart with ⟨db, rfl, hq⟩ | ⟨hlevel, hk | hk⟩
  · exact ⟨fwd, hq ▸ h.setVolume db⟩
  · exact ⟨fwd, by simpa [hlevel] using h.keepsMixer hk⟩
  · obtain ⟨fwd', h'⟩ := h.forwardVolume
    exact ⟨fwd', by simpa [hlevel] using h'.keepsMixer hk⟩

/-- Over a run of turns with no new start, the mixer's levels stay some of the levels asked for,
in order. -/
theorem run_forwards {base : List Float} :
    ∀ (ts : List Turn) (p : Player) {asked fwd : List Float} {steps : List Step} {q : Player},
      (∀ t ∈ ts, t.isStart = false) → p.engine.Forwards base asked fwd → p.run ts = some (steps, q) →
      ∃ fwd', q.engine.Forwards base (asked ++ levelsSet ts) fwd' := by
  intro ts
  induction ts with
  | nil =>
    intro p asked fwd steps q _ h hrun
    cases hrun
    exact ⟨fwd, by simpa using h⟩
  | cons t ts ih =>
    intro p asked fwd steps q hts h hrun
    obtain ⟨p', steps', ht, hrun', -⟩ := run_cons_eq_some hrun
    obtain ⟨fwd', h'⟩ := Forwards.turn h ht (hts t (by simp))
    obtain ⟨fwd'', hq⟩ := ih p' (fun t' ht' => hts t' (by simp [ht'])) h' hrun'
    exact ⟨fwd'', by simpa [levelsSet_cons] using hq⟩

/-- Once nothing is queued, turns that neither start a session nor set a level queue nothing. -/
theorem run_pending_none (ts : List Turn) (hts : ∀ t ∈ ts, t.isStart = false ∧ t.level? = none)
    (hp : p.engine.volume.pending = none) (hrun : p.run ts = some (steps, q)) :
    q.engine.volume.pending = none := by
  refine (run_invariant (fun r => r.engine.volume.pending = none) (fun t => t.isStart = false ∧ t.level? = none)
    (fun _ => True) ?_ ts p hp hts hrun).1
  intro r t r' hr ⟨hstart, hlevel⟩ ht
  refine ⟨?_, fun _ _ => trivial⟩
  rcases turn_volume ht hstart with ⟨db, rfl, -⟩ | ⟨-, hk | hk⟩
  · cases hlevel
  · exact hk.volume ▸ hr
  · exact hk.volume ▸ Engine.forwardVolume_pending _

theorem run_append_eq_some {ts₁ ts₂ : List Turn} (h : p.run (ts₁ ++ ts₂) = some (steps, q)) :
    ∃ r steps₁ steps₂, p.run ts₁ = some (steps₁, r) ∧ r.run ts₂ = some (steps₂, q) := by
  rw [run_append] at h
  obtain ⟨⟨steps₁, r⟩, h₁, h₂⟩ := Option.bind_eq_some_iff.1 h
  obtain ⟨⟨steps₂, q'⟩, h₃, heq⟩ := Option.map_eq_some_iff.1 h₂
  cases heq
  exact ⟨r, steps₁, steps₂, h₁, h₃⟩

/-- On an output with a mixer, the mixer gets some of the levels asked for, in order, and after
playback's turn following the last level set, that last level. -/
theorem mixer_levels_in_order {sc : SessionConfig} {e : Engine}
    (hmixer : p.engine.sink.hasHardwareVolume = true) (hstart : p.engine.start sc = (.ok (), e))
    (hts : ∀ t ∈ ts, t.isStart = false) (hrun : p.run (.start sc :: ts) = some (steps, q)) :
    ∃ fwd, q.engine.sink.recording.volumes = p.engine.sink.recording.volumes ++ fwd ∧
      fwd.Sublist (p.engine.volume.db :: levelsSet ts) ∧
      ∀ a b, ts = a ++ .fetch :: b → levelsSet b = [] →
        fwd.getLast? = (p.engine.volume.db :: levelsSet ts).getLast? := by
  obtain ⟨p₁, steps₁, ht, hrun₁, -⟩ := run_cons_eq_some hrun
  have hp₁ : p₁.engine = e := by
    simp only [turn, hstart, Option.some.injEq] at ht
    rw [← ht]
  have h₁ := Engine.forwards_start hmixer hstart
  rw [← hp₁] at h₁
  obtain ⟨fwd, hq⟩ := run_forwards ts p₁ hts h₁ hrun₁
  simp only [List.singleton_append] at hq
  refine ⟨fwd, hq.handed, (List.sublist_append_left _ _).trans hq.inOrder, ?_⟩
  -- after the last level set, playback's turn empties the queue and nothing fills it again
  rintro a b rfl hb
  obtain ⟨r, steps₂, steps₃, -, hrest⟩ := run_append_eq_some hrun₁
  obtain ⟨r', steps₄, hfetch, hrun', -⟩ := run_cons_eq_some hrest
  have hnone : q.engine.volume.pending = none := by
    refine run_pending_none b (fun t ht => ⟨hts t (by simp [ht]), ?_⟩) (turn_fetch_pending hfetch) hrun'
    cases hl : t.level? with
    | none => rfl
    | some db =>
      have hmem : db ∈ levelsSet b := List.mem_filterMap.2 ⟨t, ht, hl⟩
      rw [hb] at hmem
      cases hmem
  exact hq.caughtUp hnone

-- Two levels set before playback's turn: the first is overwritten unseen, and the level in force
-- at the start (mute) is never handed over.
example :
    ((⟨Engine.create ⟨4, 1, 0, .disabled, 1, -144.0⟩ (Sink.create (.recorder true)) 0, none⟩ : Player).run
      [.start ⟨StreamParams.pcm 4 44100, some 0⟩, .setVolume (-10.0), .setVolume (-20.0), .fetch]).map
      (·.2.engine.sink.recording.volumes) = some [-20.0] := by
  rfl

end Player

/-- The volume control after any history of levels set, mixer switches and takes from a starting
level: it holds the latest level; with the mixer on its gain is unity; with the mixer off its gain
is that of the latest level, wherever in the history it was set, between zero and unity, and a
take gets nothing; a take gets the latest level exactly when one is queued, and nothing right
after another take. In a session on an output with a mixer, the mixer gets some of the levels
asked for (the one in force at the start, then each level set) in order, and once playback has
taken a turn after the last level set, the last level it got is the last one asked for. -/
theorem volume_follows_latest_level :
    (∀ (d0 : Float) (ops : List VolumeOp),
      (VolumeControl.replay d0 ops).db = latestDb d0 ops ∧
      (hardwareMode ops = true →
        (VolumeControl.replay d0 ops).linear = 1.0 ∧ (VolumeControl.replay d0 ops).fixed = unityGain) ∧
      (hardwareMode ops = false →
        (VolumeControl.replay d0 ops).linear = dbToLinear (latestDb d0 ops) ∧
        (VolumeControl.replay d0 ops).fixed = linearToFixed (VolumeControl.replay d0 ops).linear ∧
        0 ≤ (VolumeControl.replay d0 ops).fixed ∧ (VolumeControl.replay d0 ops).fixed ≤ unityGain ∧
        (VolumeControl.replay d0 ops).takeHardwareUpdate.1 = none) ∧
      ((VolumeControl.replay d0 ops).takeHardwareUpdate.1 = some (latestDb d0 ops) ↔ Queued ops) ∧
      ((VolumeControl.replay d0 ops).takeHardwareUpdate.1 = none ↔ ¬ Queued ops) ∧
      (VolumeControl.replay d0 (ops ++ [.take])).takeHardwareUpdate.1 = none) ∧
    (∀ (p q : Player) (sc : SessionConfig) (e : Engine) (ts : List Turn) (steps : List Step),
      p.engine.sink.hasHardwareVolume = true → p.engine.start sc = (.ok (), e) → (∀ t ∈ ts, t.isStart = false) →
      p.run (.start sc :: ts) = some (steps, q) →
      ∃ fwd, q.engine.sink.recording.volumes = p.engine.sink.recording.volumes ++ fwd ∧
        fwd.Sublist (p.engine.volume.db :: levelsSet ts) ∧
        ∀ a b, ts = a ++ .fetch :: b → levelsSet b = [] →
          fwd.getLast? = (p.engine.volume.db :: levelsSet ts).getLast?) :=
  ⟨fun d0 ops => ⟨(VolumeControl.replay_follows d0 ops).db, VolumeControl.replay_mixerGain d0 ops,
      VolumeControl.replay_softwareGain d0 ops, (VolumeControl.replay_take d0 ops).1,
      (VolumeControl.replay_take d0 ops).2, VolumeControl.take_after_take d0 ops⟩,
    fun _ _ _ _ _ _ hmixer hstart hts hrun => Player.mixer_levels_in_order hmixer hstart hts hrun⟩

/-- With the mixer switched on, the gain is unity whatever level follows; on an output with a
mixer, of two levels set before playback's turn the mixer ends on the second. -/
theorem mixer_ends_on_last_level :
    (VolumeControl.replay (-144.0) [.setHardware true, .setDb (-20.0)]).linear = 1.0 ∧
      ∃ steps q, ((⟨Engine.create ⟨4, 1, 0, .disabled, 1, -144.0⟩ (Sink.create (.recorder true)) 0, none⟩ :
          Player).run [.start ⟨StreamParams.pcm 4 44100, some 0⟩, .setVolume (-10.0), .setVolume (-20.0), .fetch]) =
          some (steps, q) ∧
        q.engine.sink.recording.volumes.getLast? = some (-20.0) := by
  have hgain := ((volume_follows_latest_level.1 (-144.0) [.setHardware true, .setDb (-20.0)]).2.1 rfl).1
  obtain ⟨⟨steps, q⟩, hrun⟩ := Option.isSome_iff_exists.mp
    (show ((⟨Engine.create ⟨4, 1, 0, .disabled, 1, -144.0⟩ (Sink.create (.recorder true)) 0, none⟩ : Player).run
      [.start ⟨StreamParams.pcm 4 44100, some 0⟩, .setVolume (-10.0), .setVolume (-20.0), .fetch]).isSome by rfl)
  obtain ⟨fwd, hvol, -, hlast⟩ := volume_follows_latest_level.2 _ q _ _ _ steps rfl (Prod.ext rfl rfl)
    (by decide) hrun
  refine ⟨hgain, steps, q, hrun, ?_⟩
  rw [hvol]
  -- the recorder starts with no level
  change ([] ++ fwd).getLast? = some (-20.0)
  rw [List.nil_append, hlast [.setVolume (-10.0), .setVolume (-20.0)] [] rfl rfl]
  rfl

end Playout
