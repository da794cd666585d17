import Playout.Proofs.Engine.Output
import Playout.Proofs.Engine.Start
import Playout.Proofs.Buffer.Store
import Playout.Proofs.Buffer.Rejected

/-!
# The audio of each sequence number

Playback hands the output what the buffer's `get` returns (`Engine.OutputLaw`), and on a history
that puts no aliased number the buffer answers as the store of frames by sequence number
(`JitterBuffer.refines_run`). Together: the frame a pass plays is the store's frame at its read
cursor, that is the packet stored under the number cut or padded to a frame, or a frame of zeros
marked missing when no packet was stored under it before its slot was read.

A session's buffer goes through a history of operations from the fresh buffer its start makes
(`Engine.BufferHistory`): a put stores the packet's samples and hands over its resend requests, a
pass does playback's operations, a flush flushes, and nothing else touches it. Every run of the
session that puts no aliased number (`Engine.UnaliasedStep`) has such a history.
-/

namespace Playout

namespace JitterBuffer

variable {b b' : JitterBuffer}

theorem run_append_snd (b : JitterBuffer) (ops more : List BufferOp) :
    (b.run (ops ++ more)).2 = ((b.run ops).2.run more).2 := by
  induction ops generalizing b with
  | nil => rfl
  | cons op ops ih => rw [List.cons_append, run_cons_snd, run_cons_snd, ih]

theorem aliasFree_append (b : JitterBuffer) (ops more : List BufferOp) :
    b.aliasFree (ops ++ more) = (b.aliasFree ops && (b.run ops).2.aliasFree more) := by
  induction ops generalizing b with
  | nil => simp [aliasFree]
  | cons op ops ih => rw [List.cons_append, aliasFree, aliasFree, ih, run_cons_snd, Bool.and_assoc]

theorem not_aliased_of_unsynced (h : b.synced = false) (s : UInt16) : ¬b.Aliased s := by
  rintro ⟨hs, -⟩
  rw [h] at hs
  cases hs

theorem received_put (b : JitterBuffer) (s : UInt16) (ts : UInt32) (pcm : List Sample) :
    (b.put s ts pcm).2.stats.received = b.stats.received + 1 := by
  rw [stats_put]
  cases (b.put s ts pcm).1 <;> rfl

/-- Playback's changes are a run of operations that puts nothing. -/
theorem Playback.exists_run (hp : Playback b b') : ∃ ops, b.aliasFree ops = true ∧ (b.run ops).2 = b' := by
  induction hp with
  | refl => exact ⟨[], rfl, rfl⟩
  | tail _ hop ih =>
    obtain ⟨ops, hfree, hrun⟩ := ih
    obtain ⟨op, hal, rfl⟩ := hop.exec
    refine ⟨ops ++ [op], ?_, ?_⟩
    · rw [aliasFree_append, hfree, hrun]
      simp [aliasFree, hal]
    · rw [run_append_snd, hrun]
      rfl

/-- From a buffer that stands for a store, after operations that put no aliased number, `get`
takes the store's frame at its read cursor. -/
theorem get_of_refines {a : Store} (hw : b.Window) (hr : b.Refines a) (hcap : b.shape.capacity ∣ 65536)
    (hpos : 0 < b.shape.capacity) (hle : b.shape.capacity ≤ 16384) {ops : List BufferOp}
    (hops : b.aliasFree ops = true) {f : Frame} (hget : (b.run ops).2.get.1 = some f) :
    f = (a.run b.shape ops).2.frameAt b.shape := by
  have hshape := shape_run b ops
  obtain ⟨-, hr'⟩ := refines_run hw hr hcap hpos hle ops hops
  obtain ⟨hf, -⟩ := refines_get (window_run hw hpos hle ops hops) hr' (by rwa [hshape]) (by rwa [hshape])
  rw [hget, hshape] at hf
  unfold Store.get at hf
  split at hf
  · cases hf
  · exact Option.some_inj.1 hf

end JitterBuffer

theorem Store.run_append_snd (a : Store) (shape : BufferShape) (ops more : List BufferOp) :
    (a.run shape (ops ++ more)).2 = ((a.run shape ops).2.run shape more).2 := by
  induction ops generalizing a with
  | nil => rfl
  | cons op ops ih => rw [List.cons_append, Store.run_cons_snd, Store.run_cons_snd, ih]

/-- Settings that pass their checks give the buffer a power of two of slots, from 4 to 16384. -/
theorem PlayoutConfig.capacity_of_validate {c : PlayoutConfig} (h : c.validate = .ok ()) :
    isPowerOfTwo c.bufferCapacity = true ∧ 4 ≤ c.bufferCapacity ∧ c.bufferCapacity ≤ 16384 := by
  unfold PlayoutConfig.validate at h
  simp only [bind, Except.bind, pure, Except.pure, throw, throwThe, MonadExceptOf.throw] at h
  split at h
  · cases h
  rename_i hshape
  split at h
  · cases h
  rename_i hmax
  simp only [Bool.or_eq_true, Bool.not_eq_true', decide_eq_true_eq, not_or, Bool.not_eq_false] at hshape
  obtain ⟨hpow, hlo⟩ := hshape
  -- a power of two below 2 ^ 15 is at most 2 ^ 14
  obtain ⟨k, hk⟩ := Seq.exists_pow_of_isPowerOfTwo hpow
  have hk15 : k < 15 := (Nat.pow_lt_pow_iff_right (by decide : 1 < 2)).1 (by omega)
  have hle : 2 ^ k ≤ 2 ^ 14 := Nat.pow_le_pow_right (by decide) (by omega)
  exact ⟨hpow, by omega, by omega⟩

namespace Engine

open JitterBuffer

variable {e e' : Engine} {s s' : Session}

/-- A pass changes the session's buffer only as playback does. -/
theorem pass_playback (e : Engine) (hs : e.session = some s) (hs' : e.pass.2.session = some s') :
    Playback s.buffer s'.buffer := by
  obtain ⟨step, e₂, s₂, hpass, hs₂, -, hplays, -⟩ := pass_halves e hs
  obtain ⟨s₃, hs₃, hcore, -⟩ := perform_session hs₂ step
  rw [hpass] at hs'
  dsimp only at hs'
  rw [hs₃, Option.some_inj] at hs'
  subst hs'
  rw [(Session.core_eq hcore).2.2.1]
  exact hplays.buffer

/-- The frame a pass hands the output is one `get` took after playback's changes to the buffer. -/
theorem pass_frame_taken (e : Engine) (hs : e.session = some s) {f : Frame} {fill : Nat}
    {resends : List SeqRange} (hstep : e.pass.1 = .frame f fill resends) :
    ∃ b, Playback s.buffer b ∧ b.get.1 = some f := by
  obtain ⟨step, e₂, s₂, hpass, -, -, hplays, -⟩ := pass_halves e hs
  rw [hpass] at hstep
  exact hplays.frame f fill resends hstep

/-- The buffer a start makes is fresh, with a power of two of slots from 4 to 16384. -/
theorem start_buffer {e₀ e₁ : Engine} {sc : SessionConfig} {spawn : Except String Unit}
    (h : e₀.start sc spawn = (.ok (), e₁)) :
    ∃ s, e₁.session = some s ∧ s.buffer.Window ∧ s.buffer.Refines Store.empty ∧
      s.buffer.shape.capacity ∣ 65536 ∧ 0 < s.buffer.shape.capacity ∧ s.buffer.shape.capacity ≤ 16384 := by
  obtain ⟨d, sink, hchecks, -, rfl⟩ := start_ok h
  obtain ⟨-, hvalid, -, -⟩ := startChecks_valid hchecks
  obtain ⟨hpow, hlo, hhi⟩ := PlayoutConfig.capacity_of_validate hvalid
  refine ⟨_, rfl, window_create _ _ _ _ _, refines_create _ _ _ _ _, ?_, ?_, ?_⟩
  · show e₀.config.bufferCapacity ∣ 65536
    exact Seq.dvd_of_isPowerOfTwo hpow (by omega)
  · show 0 < e₀.config.bufferCapacity
    omega
  · exact hhi

/-! ## The history of a session's buffer -/

/-- The running session's buffer is `b₀` after the operations `ops`, none of which puts a number
aliased in the buffer it meets. -/
def BufferHistory (b₀ : JitterBuffer) (ops : List BufferOp) (e : Engine) : Prop :=
  ∃ s, e.session = some s ∧ b₀.aliasFree ops = true ∧ (b₀.run ops).2 = s.buffer

/-- A step that keeps a session running and puts no packet under a number aliased in its
buffer. -/
def UnaliasedStep (e e' : Engine) : Prop :=
  Transition e e' ∧ e'.isRunning = true ∧
    ∀ s seq ts payload o, e.session = some s → e.put seq ts payload = .ok (o, e') → ¬s.buffer.Aliased seq

/-- A put counts its packet as received, so a step that keeps the buffer is no put. -/
theorem unaliasedStep_of_buffer_kept (ht : Transition e e') (hrunning : e'.isRunning = true)
    (hkept : ∀ s s', e.session = some s → e'.session = some s' → s'.buffer = s.buffer) :
    UnaliasedStep e e' := by
  refine ⟨ht, hrunning, fun s seq ts payload o hs h => ?_⟩
  obtain ⟨buf, hstored⟩ := put_stores hs h
  have hcount := congrArg (fun b => b.stats.received) (hkept s _ hs hstored)
  simp only [received_put] at hcount
  omega

variable {b₀ : JitterBuffer} {ops : List BufferOp}

theorem BufferHistory.extend (hh : BufferHistory b₀ ops e) (hs : e.session = some s) (hs' : e'.session = some s')
    (more : List BufferOp) (hfree : s.buffer.aliasFree more = true) (hrun : (s.buffer.run more).2 = s'.buffer) :
    BufferHistory b₀ (ops ++ more) e' := by
  obtain ⟨s₀, hs₀, hfree₀, hrun₀⟩ := hh
  rw [hs, Option.some_inj] at hs₀
  subst hs₀
  refine ⟨s', hs', ?_, ?_⟩
  · rw [aliasFree_append, hfree₀, hrun₀, hfree]
    rfl
  · rw [run_append_snd, hrun₀, hrun]

theorem BufferHistory.keep (hh : BufferHistory b₀ ops e) (hs : e.session = some s) (hs' : e'.session = some s')
    (hkept : s'.buffer = s.buffer) : ∃ more, BufferHistory b₀ (ops ++ more) e' :=
  ⟨[], hh.extend hs hs' [] rfl hkept.symm⟩

theorem BufferHistory.playback (hh : BufferHistory b₀ ops e) (hs : e.session = some s) (hs' : e'.session = some s')
    (hp : Playback s.buffer s'.buffer) : ∃ more, BufferHistory b₀ (ops ++ more) e' := by
  obtain ⟨more, hfree, hrun⟩ := hp.exists_run
  exact ⟨more, hh.extend hs hs' more hfree hrun⟩

/-- A put of an unaliased number is that put and the hand-over of its resend requests. -/
theorem BufferHistory.put (hh : BufferHistory b₀ ops e) (hs : e.session = some s) {seq : UInt16}
    {ts : UInt32} {payload : Bytes} {o : Option PutOutcome} (h : e.put seq ts payload = .ok (o, e'))
    (hal : ¬s.buffer.Aliased seq) : ∃ more, BufferHistory b₀ (ops ++ more) e' := by
  obtain ⟨buf, hstored⟩ := put_stores hs h
  refine ⟨[.put seq ts (s.decoder.samplesOf payload), .takeResends], hh.extend hs hstored _ ?_ rfl⟩
  simp [aliasFree, aliases, hal]

/-- Every unaliased step extends the history: by its put, by playback's operations, by a flush, or
by nothing. -/
theorem BufferHistory.step (hh : BufferHistory b₀ ops e) (hstep : UnaliasedStep e e') :
    ∃ more, BufferHistory b₀ (ops ++ more) e' := by
  obtain ⟨ht, hrunning, hal⟩ := hstep
  obtain ⟨s, hs, -⟩ := id hh
  obtain ⟨s', hs'⟩ := Option.isSome_iff_exists.mp hrunning
  cases ht with
  | start sc spawn =>
    refine hh.keep hs hs' ?_
    rw [start_of_running hs] at hs'
    dsimp only at hs'
    rw [hs, Option.some_inj] at hs'
    rw [hs']
  | stop h =>
    rw [stop_session h] at hs'
    cases hs'
  | put seq ts payload h => exact hh.put hs h (hal s seq ts payload _ hs h)
  | receive datagram h =>
    obtain ⟨seq, ts, payload, hput⟩ := put_of_receive h
    exact hh.put hs hput (hal s seq ts payload _ hs hput)
  | setAnchor ts time =>
    refine hh.keep hs hs' ?_
    simp only [Engine.setAnchor, modifySession, hs, Option.map_some, Option.some_inj] at hs'
    rw [← hs']
  | flush target =>
    refine ⟨[.flush target], hh.extend hs hs' _ rfl ?_⟩
    simp only [Engine.flush, modifySession, hs, Option.map_some, Option.some_inj] at hs'
    rw [← hs']
    rfl
  | setVolume db =>
    refine hh.keep hs hs' ?_
    rw [show (e.setVolume db).session = e.session from rfl, hs, Option.some_inj] at hs'
    rw [hs']
  | setClock t =>
    refine hh.keep hs hs' ?_
    rw [show (e.setClock t).session = e.session from rfl, hs, Option.some_inj] at hs'
    rw [hs']
  | setQueued frames =>
    refine hh.keep hs hs' ?_
    rw [hs, Option.some_inj] at hs'
    rw [hs']
  | pass => exact hh.playback hs hs' (pass_playback e hs hs')
  | crash _ hf =>
    obtain ⟨s₂, hs₂, hplays⟩ := crash_playsFrom e _ hs
    rw [hs₂, Option.some_inj] at hs'
    subst hs'
    exact hh.playback hs hs₂ hplays.buffer

theorem BufferHistory.of_run (hh : BufferHistory b₀ ops e) (hrun : Relation.ReflTransGen UnaliasedStep e e') :
    ∃ more, BufferHistory b₀ (ops ++ more) e' := by
  induction hrun with
  | refl => exact ⟨[], by rwa [List.append_nil]⟩
  | tail _ hstep ih =>
    obtain ⟨more, hmore⟩ := ih
    obtain ⟨more', hmore'⟩ := hmore.step hstep
    exact ⟨more ++ more', by rwa [List.append_assoc] at hmore'⟩

/-- On a run of a session from its start that puts no aliased number, the frame a pass hands the
output is the store's frame after the session's history and playback's operations before `get`. -/
theorem pass_frame_of_store {e₀ e₁ e : Engine} {sc : SessionConfig} {spawn : Except String Unit}
    (hstart : e₀.start sc spawn = (.ok (), e₁)) (hrun : Relation.ReflTransGen UnaliasedStep e₁ e)
    (hs : e.session = some s) {f : Frame} {fill : Nat} {resends : List SeqRange}
    (hframe : e.pass.1 = .frame f fill resends) :
    ∃ s₁ ops pre, e₁.session = some s₁ ∧ BufferHistory s₁.buffer ops e ∧
      Playback s.buffer (s.buffer.run pre).2 ∧ s.buffer.aliasFree pre = true ∧
      (s.buffer.run pre).2.get.1 = some f ∧ s₁.buffer.shape.frameSamples = 2 * s.framesPerPacket ∧
      f = (Store.empty.run s₁.buffer.shape (ops ++ pre)).2.frameAt s₁.buffer.shape := by
  obtain ⟨s₁, hs₁, hw, hr, hcap, hpos, hle⟩ := start_buffer hstart
  obtain ⟨ops, hh⟩ := (show BufferHistory s₁.buffer [] e₁ from ⟨s₁, hs₁, rfl, rfl⟩).of_run hrun
  rw [List.nil_append] at hh
  obtain ⟨s₂, hs₂, hfree, hbuf⟩ := hh
  rw [hs, Option.some_inj] at hs₂
  subst hs₂
  obtain ⟨b, hplay, hget⟩ := pass_frame_taken e hs hframe
  obtain ⟨pre, hfree', rfl⟩ := hplay.exists_run
  -- the session's buffer keeps the shape of the one its start made, which fits its stream
  obtain ⟨d, sink, hchecks, -, -⟩ := start_ok hstart
  have hopen : Transition e₀ e₁ := by
    have h := Transition.start e₀ sc spawn
    rwa [hstart] at h
  have hreach : Relation.ReflTransGen Transition e₀ e :=
    .head hopen (Relation.ReflTransGen.mono (fun _ _ h => h.1) _ _ hrun)
  have hfit := (faithful_of_reachable (startChecks_session hchecks) hreach s hs).frames.frameSamples
  rw [← hbuf, shape_run] at hfit
  have hfull : s₁.buffer.aliasFree (ops ++ pre) = true := by
    rw [aliasFree_append, hfree, hbuf, hfree']
    rfl
  have hget' : (s₁.buffer.run (ops ++ pre)).2.get.1 = some f := by
    rw [run_append_snd, hbuf]
    exact hget
  exact ⟨s₁, ops, pre, hs₁, ⟨s, hs, hfree, hbuf⟩, hplay, hfree', hget, hfit,
    get_of_refines hw hr hcap hpos hle hfull hget'⟩

/-! ## Between resyncs -/

/-- Within a session, between two resyncs (its start, or a flush or an underrun reaching the
output), the output is handed lead-in silence and then exactly the frames the buffer returns, in
order, each counted once, on every player reached from one without a session (`OutputLaw`). On a
run of the session from its start that puts no aliased number, each such frame is the store's
frame at its read cursor after the session's history: the packet stored under that number, or a
frame of zeros, two samples to a stereo frame. -/
theorem output_between_resyncs :
    (∀ (e₀ e : Engine) (s : Session), e₀.session = none → Relation.ReflTransGen Transition e₀ e →
      e.session = some s → OutputLaw e s) ∧
    (∀ (e₀ e₁ e : Engine) (sc : SessionConfig) (spawn : Except String Unit) (s : Session) (f : Frame)
      (fill : Nat) (resends : List SeqRange), e₀.start sc spawn = (.ok (), e₁) →
      Relation.ReflTransGen UnaliasedStep e₁ e → e.session = some s → e.pass.1 = .frame f fill resends →
      ∃ s₁ ops pre, e₁.session = some s₁ ∧ BufferHistory s₁.buffer ops e ∧
        Playback s.buffer (s.buffer.run pre).2 ∧ s.buffer.aliasFree pre = true ∧
        (s.buffer.run pre).2.get.1 = some f ∧ s₁.buffer.shape.frameSamples = 2 * s.framesPerPacket ∧
        f = (Store.empty.run s₁.buffer.shape (ops ++ pre)).2.frameAt s₁.buffer.shape) :=
  ⟨fun _ _ _ hnone hreach hs => outputLaw_of_reachable hnone hreach hs,
    fun _ _ _ _ _ _ _ _ _ hstart hrun hs hframe => pass_frame_of_store hstart hrun hs hframe⟩

/-- A player with a hardware mixer that has started a session of 4-frame packets at 44.1 kHz,
taken one packet and anchored it. -/
theorem reachable_anchored_with_mixer :
    let e₀ := Engine.create ⟨4, 1, 0, .disabled, 1, 0.0⟩ (Sink.create (.recorder true)) 0
    let e₁ := (e₀.start ⟨StreamParams.pcm 4 44100, some 0⟩).2
    let p := (e₁.put 0 0 [0, 1, 0, 2, 0, 3, 0, 4, 0, 5, 0, 6, 0, 7, 0, 8]).toOption.getD (none, e₁)
    Relation.ReflTransGen Transition e₀ (p.2.setAnchor 0 0) :=
  reachable_anchored _ _ (by decide) 0 0

/-- The player of `reachable_anchored_with_mixer` calls its output as `OutputLaw` says, and its
next pass plays the packet's four stereo frames, the store's frame for number 0. -/
theorem output_between_resyncs_with_mixer :
    let e₀ := Engine.create ⟨4, 1, 0, .disabled, 1, 0.0⟩ (Sink.create (.recorder true)) 0
    let e₁ := (e₀.start ⟨StreamParams.pcm 4 44100, some 0⟩).2
    let p := (e₁.put 0 0 [0, 1, 0, 2, 0, 3, 0, 4, 0, 5, 0, 6, 0, 7, 0, 8]).toOption.getD (none, e₁)
    let e := p.2.setAnchor 0 0
    OutputLaw e (e.session.getD default) ∧ e.pass.1 = .frame ⟨0, 0, [1, 2, 3, 4, 5, 6, 7, 8], false⟩ 0 [] ∧
      ∃ s₁ ops pre, e₁.session = some s₁ ∧ BufferHistory s₁.buffer ops e ∧
        (⟨0, 0, [1, 2, 3, 4, 5, 6, 7, 8], false⟩ : Frame) =
          (Store.empty.run s₁.buffer.shape (ops ++ pre)).2.frameAt s₁.buffer.shape := by
  intro e₀ e₁ p e
  have hs : e.session = some (e.session.getD default) :=
    (Option.getD_of_ne_none (Option.ne_none_iff_isSome.2 (by decide)) _).symm
  have hstart : e₀.start ⟨StreamParams.pcm 4 44100, some 0⟩ = (.ok (), e₁) :=
    Prod.ext (eq_ok_of_isOk () (by decide)) rfl
  -- the packet is the session's first, put into a buffer that is not yet synced
  have hput : UnaliasedStep e₁ p.2 := by
    refine ⟨.put e₁ 0 0 _ (eq_ok_of_isOk (none, e₁) (by decide)), by decide, fun s seq _ _ _ hs₁ _ => ?_⟩
    obtain ⟨s₁, hs₁', -, hr, -⟩ := start_buffer hstart
    rw [hs₁, Option.some_inj] at hs₁'
    subst hs₁'
    exact not_aliased_of_unsynced hr.synced seq
  have hanchor : UnaliasedStep p.2 e := by
    refine unaliasedStep_of_buffer_kept (.setAnchor p.2 0 0) (by decide) fun s s' hs₂ hs' => ?_
    simp only [e, Engine.setAnchor, modifySession, hs₂, Option.map_some, Option.some_inj] at hs'
    rw [← hs']
  have hframe : e.pass.1 = .frame ⟨0, 0, [1, 2, 3, 4, 5, 6, 7, 8], false⟩ 0 [] := by decide
  obtain ⟨s₁, ops, pre, hs₁, hh, -, -, -, -, hf⟩ :=
    output_between_resyncs.2 e₀ e₁ e _ _ _ _ _ _ hstart (.tail (.single hput) hanchor) hs hframe
  exact ⟨output_between_resyncs.1 e₀ e _ rfl reachable_anchored_with_mixer hs, hframe, s₁, ops, pre, hs₁, hh, hf⟩

/-- The player of `reachable_anchored_with_mixer` plays its frame, stops, and starts a session
with 8 samples of latency that takes a packet and is anchored. -/
theorem reachable_second_session :
    let e₀ := Engine.create ⟨4, 1, 0, .disabled, 1, 0.0⟩ (Sink.create (.recorder true)) 0
    let e₁ := (e₀.start ⟨StreamParams.pcm 4 44100, some 0⟩).2
    let p₁ := (e₁.put 0 0 [0, 1, 0, 2, 0, 3, 0, 4, 0, 5, 0, 6, 0, 7, 0, 8]).toOption.getD (none, e₁)
    let e₂ := (p₁.2.setAnchor 0 0).pass.2
    let e₃ := e₂.stop.toOption.getD e₂
    let e₄ := (e₃.start ⟨StreamParams.pcm 4 44100, some 8⟩).2
    let p₂ := (e₄.put 5 0 [0, 9, 0, 16, 0, 17, 0, 18, 0, 19, 0, 20, 0, 21, 0, 22]).toOption.getD (none, e₄)
    Relation.ReflTransGen Transition e₀ (p₂.2.setAnchor 0 0).pass.2 := by
  intro e₀ e₁ p₁ e₂ e₃ e₄ p₂
  have hstop : e₂.stop = .ok e₃ := eq_ok_of_isOk e₂ (by decide)
  have hfirst : Relation.ReflTransGen Transition e₀ e₃ :=
    (reachable_anchored_with_mixer.tail (.pass _ (by decide) (by decide))).tail (.stop e₂ hstop)
  exact (hfirst.trans (reachable_anchored _ _ (by decide) 0 0)).tail (.pass _ (by decide) (by decide))

/-- Resyncs are not the only places where lead-in silence may follow a frame: a new session
starts with its lead-in. With no flush and no underrun in the whole run, the output is handed the
first session's frame and then the second session's lead-in silence. -/
theorem leadIn_follows_frame_across_sessions :
    let e₀ := Engine.create ⟨4, 1, 0, .disabled, 1, 0.0⟩ (Sink.create (.recorder true)) 0
    let e₁ := (e₀.start ⟨StreamParams.pcm 4 44100, some 0⟩).2
    let p₁ := (e₁.put 0 0 [0, 1, 0, 2, 0, 3, 0, 4, 0, 5, 0, 6, 0, 7, 0, 8]).toOption.getD (none, e₁)
    let e₂ := (p₁.2.setAnchor 0 0).pass.2
    let e₃ := e₂.stop.toOption.getD e₂
    let e₄ := (e₃.start ⟨StreamParams.pcm 4 44100, some 8⟩).2
    let p₂ := (e₄.put 5 0 [0, 9, 0, 16, 0, 17, 0, 18, 0, 19, 0, 20, 0, 21, 0, 22]).toOption.getD (none, e₄)
    let e := (p₂.2.setAnchor 0 0).pass.2
    Relation.ReflTransGen Transition e₀ e ∧
      e.sink.recording.chunks = [[1, 2, 3, 4, 5, 6, 7, 8], List.replicate 8 0] ∧
      e.sink.recording.flushes = 0 ∧ e₂.counters.underruns = 0 ∧ e.counters.underruns = 0 :=
  ⟨reachable_second_session, by decide, by decide, by decide, by decide⟩

end Engine

end Playout
