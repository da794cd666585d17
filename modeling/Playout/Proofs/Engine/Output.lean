import Playout.Proofs.Engine.Faults
import Playout.Proofs.Drift.WarmUp

/-!
# What playback hands the output

Each pass of playback calls the output at most once: with a block of lead-in silence, or with a
frame the buffer returned, scaled to the software volume and maybe stretched or shrunk by a
sample pair. This module shows that at unity gain and within the rate corrector's warm-up the
frame goes out exactly as the buffer returned it, and that the calls between two resyncs are
lead-in silence followed by frames.

* Every sample a session stores is a 16-bit sample: the decoders make nothing else, and missing
  frames are zeros. Scaling a 16-bit sample by unity gain gives it back, with no dither drawn.
* A rate corrector holds rate one while it warms up (`Corrector.Steady`), so it asks for no pair
  to be inserted or dropped.
* A session carries a frame mark, set by the first frame played since playback last started.
  Lead-in silence needs the mark clear; only a flush or an underrun reaching the output, or a new
  session, clears it again.

`outputLaw_of_reachable` puts these together for every player reached from one without a
session.
-/

namespace Playout

/-! ## Samples -/

/-- A 16-bit sample. -/
def IsSample (x : Int) : Prop := -32768 ≤ x ∧ x < 32768

instance (x : Int) : Decidable (IsSample x) := inferInstanceAs (Decidable (_ ∧ _))

/-- `n` samples, each a 16-bit one. -/
def Pcm16 (n : Nat) (pcm : List Int) : Prop := pcm.length = n ∧ ∀ x ∈ pcm, IsSample x

theorem isSample_signed16 (x : UInt16) : IsSample (signed16 x) := signed16_bounds x

theorem wrapSigned_32_bounds (i : Int) : -2147483648 ≤ wrapSigned 32 i ∧ wrapSigned 32 i < 2147483648 := by
  have hmod : 0 ≤ i % 4294967296 ∧ i % 4294967296 < 4294967296 :=
    ⟨Int.emod_nonneg i (by decide), Int.emod_lt_of_pos i (by decide)⟩
  have h1 : Nat.pow 2 (32 - 1) = 2147483648 := rfl
  unfold wrapSigned signedOf
  rw [h1, pow_two_32]
  split <;> omega

theorem isSample_toSample16 (depth : Nat) (s : Int) : IsSample (Alac.toSample16 depth s) := by
  have hw := wrapSigned_32_bounds (s * Nat.pow 2 (32 - depth))
  have h16 : ((Nat.pow 2 16 : Nat) : Int) = 65536 := rfl
  unfold Alac.toSample16 Alac.sar Alac.word
  rw [h16]
  constructor <;> omega

theorem decodeL16_samples {data : Bytes} {pcm : List Int} (h : decodeL16 data = .ok pcm) :
    ∀ x ∈ pcm, IsSample x := by
  unfold decodeL16 at h
  split at h
  · cases h
  · cases h
    intro x hx
    obtain ⟨i, -, rfl⟩ := List.mem_map.1 hx
    exact isSample_signed16 _

theorem Alac.decode_samples {cfg : AlacConfig} {data : List UInt8} {pcm : List Int}
    (h : Alac.decode cfg data = .ok pcm) : ∀ x ∈ pcm, IsSample x := by
  unfold Alac.decode at h
  simp only [bind, Except.bind, pure, Except.pure] at h
  split at h
  · cases h
  · cases h
    intro x hx
    obtain ⟨i, -, hx⟩ := List.mem_flatMap.1 hx
    obtain ⟨c, -, rfl⟩ := List.mem_map.1 hx
    exact isSample_toSample16 _ _

namespace FrameDecoder

theorem fit_eq_ok {d : FrameDecoder} {pcm pcm' : List Int} (h : d.fit pcm = .ok pcm') : pcm' = pcm := by
  unfold fit at h
  split at h
  · cases h
  · cases h
    rfl

/-- Bytes that decode give 16-bit samples: both codecs end in `fit`, which passes the codec's
samples on unchanged. -/
theorem decodeFrame_samples {d : FrameDecoder} {data : Bytes} {pcm : List Int}
    (h : d.decodeFrame data = .ok (.ok pcm)) : ∀ x ∈ pcm, IsSample x := by
  unfold decodeFrame at h
  split at h
  · split at h
    · rename_i pcm₀ hpcm
      rw [fit_eq_ok (Except.ok.inj h)]
      exact Alac.decode_samples hpcm
    · cases h
    · cases h
  · have hbind := Except.ok.inj h
    simp only [bind, Except.bind] at hbind
    split at hbind
    · cases hbind
    · rename_i pcm₀ hl
      rw [fit_eq_ok hbind]
      exact decodeL16_samples hl

/-- A session stores 16-bit samples: the decoded frame, or silence where a payload does not
decode. -/
theorem samplesOf_samples (d : FrameDecoder) (payload : Bytes) : ∀ x ∈ d.samplesOf payload, IsSample x := by
  unfold samplesOf
  split
  · rename_i pcm hd
    exact decodeFrame_samples hd
  · intro x hx
    rw [List.eq_of_mem_replicate hx]
    decide

theorem create_frameSamples {p : StreamParams} {d : FrameDecoder} (h : create p = .ok d) :
    d.frameSamples = p.frameSamples := by
  unfold create at h
  simp only [bind, Except.bind, pure, Except.pure, throw, throwThe, MonadExceptOf.throw] at h
  -- every decoder the codec and cipher checks let through is built with the stream's frame size
  repeat' split at h
  all_goals cases h
  all_goals rfl

end FrameDecoder

theorem fitTo_pcm16 (n : Nat) {pcm : List Int} (h : ∀ x ∈ pcm, IsSample x) : Pcm16 n (JitterBuffer.fitTo n pcm) := by
  refine ⟨JitterBuffer.fitTo_length n pcm, fun x hx => ?_⟩
  rcases List.mem_append.1 hx with hx | hx
  · exact h x (List.mem_of_mem_take hx)
  · rw [List.eq_of_mem_replicate hx]
    decide

/-! ## Unity gain -/

namespace Stuffer

theorem scale_unity (s : Stuffer) {x : Int} (hx : IsSample x) : s.scale x unityGain = (x, s) := by
  have hcancel : x * 65536 / 65536 = x := Int.mul_ediv_cancel x (by decide)
  unfold scale
  simp only [unityGain, lt_self_iff_false, if_false, hcancel]
  obtain ⟨hlo, hhi⟩ := hx
  congr 1
  omega

theorem scaleAll_unity (s : Stuffer) (acc : Array Int) {xs : List Int} (h : ∀ x ∈ xs, IsSample x) :
    s.scaleAll unityGain acc xs = (acc ++ xs.toArray, s) := by
  induction xs generalizing acc with
  | nil => simp [scaleAll]
  | cons x xs ih =>
    have hx : IsSample x := h x (List.mem_cons_self ..)
    unfold scaleAll
    rw [scale_unity s hx]
    dsimp only
    rw [ih _ fun y hy => h y (List.mem_cons_of_mem x hy)]
    simp

theorem apply_unity (s : Stuffer) {frame : List Int} (h : ∀ x ∈ frame, IsSample x) :
    s.apply frame 0 unityGain = (frame, s) := by
  unfold apply
  rw [if_pos (.inl rfl)]
  rw [scaleAll_unity s #[] h]
  simp

end Stuffer

/-! ## Rate correction at rate one -/

theorem DriftController.correction_warmup_of_le (d : DriftController) (fill : Nat)
    (hw : DriftController.warmupFrames ≤ d.warmup) : (d.correction fill).2.warmup = d.warmup := by
  unfold DriftController.correction DriftController.update
  rw [if_neg (by omega)]

namespace Corrector

/-- A corrector at rate one until its warm-up is over. -/
def Steady : Corrector → Prop
  | .drift d => d.warmup < DriftController.warmupFrames → d.rate = 1.0
  | .fixed => True

/-- Fewer than `warmupFrames` frames corrected since playback last started. -/
def WarmingUp : Corrector → Prop
  | .drift d => d.warmup < DriftController.warmupFrames
  | .fixed => True

theorem steady_reset (c : Corrector) : c.reset.Steady := by
  cases c with
  | drift d => exact fun _ => rfl
  | fixed => trivial

theorem Steady.calm {c : Corrector} (h : c.Steady) (hw : c.WarmingUp) :
    ∃ n, n < DriftController.warmupFrames ∧ c.Calm n := by
  cases c with
  | drift d => exact ⟨d.warmup, hw, rfl, h hw⟩
  | fixed => exact ⟨0, by decide, trivial⟩

theorem Steady.correction {c : Corrector} (h : c.Steady) (fill : Nat) : (c.correction fill).2.Steady := by
  cases c with
  | drift d =>
    by_cases hw : d.warmup < DriftController.warmupFrames
    · obtain ⟨-, -, hrate⟩ := d.correction_of_warmup fill hw (h hw)
      exact fun _ => hrate
    · -- past the warm-up the rate is free, and the corrector stays past it
      intro hlt
      have hkeep := d.correction_warmup_of_le fill (by omega)
      exact absurd (hkeep ▸ hlt) hw
  | fixed => trivial

end Corrector

/-! ## The output's side -/

namespace Sink

@[simp] theorem setVolume_kind (k : Sink) (db : Float) : (k.setVolume db).kind = k.kind := by
  unfold setVolume
  split <;> rfl

@[simp] theorem setVolume_played (k : Sink) (db : Float) :
    (k.setVolume db).recording.played = k.recording.played := by
  unfold setVolume
  split <;> rfl

@[simp] theorem flush_played (k : Sink) : k.flush.recording.played = k.recording.played := by
  unfold flush
  split <;> rfl

theorem play_recorder {k : Sink} {mixer : Bool} (h : k.kind = .recorder mixer) (samples : List Int) :
    k.play samples = .ok { k with recording := { k.recording with played := samples :: k.recording.played } } := by
  simp [play, h]

end Sink

namespace Engine

@[simp] theorem playOut_framesPlayed (e : Engine) (samples : List Int) :
    (e.playOut samples).counters.framesPlayed = e.counters.framesPlayed := by
  unfold playOut
  split <;> rfl

@[simp] theorem playOut_silenceSamples (e : Engine) (samples : List Int) :
    (e.playOut samples).counters.silenceSamples = e.counters.silenceSamples := by
  unfold playOut
  split <;> rfl

theorem playOut_recorder {e : Engine} {mixer : Bool} (h : e.sink.kind = .recorder mixer) (samples : List Int) :
    (e.playOut samples).sink.recording.played = samples :: e.sink.recording.played := by
  unfold playOut
  rw [Sink.play_recorder h]

@[simp] theorem forwardVolume_kind (e : Engine) : e.forwardVolume.sink.kind = e.sink.kind := by
  unfold forwardVolume
  dsimp only
  split <;> simp

@[simp] theorem forwardVolume_played (e : Engine) :
    e.forwardVolume.sink.recording.played = e.sink.recording.played := by
  unfold forwardVolume
  dsimp only
  split <;> simp

@[simp] theorem forwardVolume_fixed (e : Engine) : e.forwardVolume.volume.fixed = e.volume.fixed := by
  unfold forwardVolume
  dsimp only
  split <;> rfl

/-! ## Carrying a step out -/

section Perform

variable {e : Engine} {s : Session}

theorem perform_flushed_session (hs : e.session = some s) :
    (e.perform .flushed).session = some { s with leadIn := none, playedSinceSync := false } := by
  simp [perform, modifySession, hs]

theorem perform_underrun_session (hs : e.session = some s) :
    (e.perform .underrun).session = some { s with leadIn := none, playedSinceSync := false } := by
  simp [perform, modifySession, hs]

theorem perform_frame_session (hs : e.session = some s) (f : Frame) (fill : Nat) (resends : List SeqRange) :
    (e.perform (.frame f fill resends)).session = some { s with
      corrector := (s.corrector.correction fill).2
      stuffer := (s.stuffer.apply f.pcm (s.corrector.correction fill).1 e.volume.fixed).2
      playedSinceSync := true } := by
  simp [perform, playFrame, request, modifySession, modifyCounters, playOut_session, hs]

theorem perform_frame_counted (hs : e.session = some s) (f : Frame) (fill : Nat) (resends : List SeqRange) :
    (e.perform (.frame f fill resends)).counters.framesPlayed = e.counters.framesPlayed + 1 ∧
      (e.perform (.frame f fill resends)).counters.silenceSamples = e.counters.silenceSamples := by
  simp [perform, playFrame, request, modifySession, modifyCounters, hs]

theorem perform_frame_played (hs : e.session = some s) {mixer : Bool} (hk : e.sink.kind = .recorder mixer)
    (f : Frame) (fill : Nat) (resends : List SeqRange) :
    (e.perform (.frame f fill resends)).sink.recording.played =
      (s.stuffer.apply f.pcm (s.corrector.correction fill).1 e.volume.fixed).1 :: e.sink.recording.played := by
  simp only [perform, playFrame, request, hs, modifySession, modifyCounters]
  apply playOut_recorder
  exact hk

@[simp] theorem perform_silence_framesPlayed (n : Nat) :
    (e.perform (.silence n)).counters.framesPlayed = e.counters.framesPlayed := by
  simp [perform, modifyCounters]

theorem perform_silence_played {mixer : Bool} (hk : e.sink.kind = .recorder mixer) (n : Nat) :
    (e.perform (.silence n)).sink.recording.played = List.replicate (2 * n) 0 :: e.sink.recording.played := by
  simp only [perform, modifyCounters]
  apply playOut_recorder
  exact hk

end Perform

/-! ## Deciding a step -/

/-- A step of playback decided and not yet carried out, from `e` running `s` to `e'` running
`s'`: the output, the volume and the output's counts are as they were, the session plays the same
stream, and its frame mark and corrector are kept or, as playback starts, cleared and reset. -/
structure Decided (e : Engine) (s : Session) (e' : Engine) (s' : Session) : Prop where
  sink : e'.sink = e.sink
  volume : e'.volume = e.volume
  framesPlayed : e'.counters.framesPlayed = e.counters.framesPlayed
  silenceSamples : e'.counters.silenceSamples = e.counters.silenceSamples
  framesPerPacket : s'.framesPerPacket = s.framesPerPacket
  mark : (s'.playedSinceSync = s.playedSinceSync ∧ s'.corrector = s.corrector) ∨
    (s.phase ≠ .playing ∧ s'.playedSinceSync = false ∧ s'.corrector = s.corrector.reset)

section Decide

variable {e e' e₁ e₂ : Engine} {s s' S s₁ s₂ : Session}

theorem Decided.keep (e : Engine) (s : Session) (hfpp : s'.framesPerPacket = s.framesPerPacket)
    (hmark : s'.playedSinceSync = s.playedSinceSync) (hcorrector : s'.corrector = s.corrector) :
    Decided e s { e with session := some s' } s' :=
  ⟨rfl, rfl, rfl, rfl, hfpp, .inl ⟨hmark, hcorrector⟩⟩

theorem Decided.then (h₁ : Decided e s e₁ s₁) (h₂ : Decided e₁ s₁ e₂ s₂)
    (hmark : s₂.playedSinceSync = s₁.playedSinceSync) (hcorrector : s₂.corrector = s₁.corrector) :
    Decided e s e₂ s₂ where
  sink := h₂.sink.trans h₁.sink
  volume := h₂.volume.trans h₁.volume
  framesPlayed := h₂.framesPlayed.trans h₁.framesPlayed
  silenceSamples := h₂.silenceSamples.trans h₁.silenceSamples
  framesPerPacket := h₂.framesPerPacket.trans h₁.framesPerPacket
  mark := by
    rcases h₁.mark with ⟨hm, hc⟩ | ⟨hp, hm, hc⟩
    · exact .inl ⟨hmark.trans hm, hcorrector.trans hc⟩
    · exact .inr ⟨hp, hmark.trans hm, hcorrector.trans hc⟩

/-- A step decided on a copy of the session with the same stream, mark and corrector, and a phase
past playing only where the session's is. -/
theorem Decided.of_copy (h : Decided e S e' s') (hfpp : S.framesPerPacket = s.framesPerPacket)
    (hmark : S.playedSinceSync = s.playedSinceSync) (hcorrector : S.corrector = s.corrector)
    (hphase : S.phase ≠ .playing → s.phase ≠ .playing) : Decided e s e' s' where
  sink := h.sink
  volume := h.volume
  framesPlayed := h.framesPlayed
  silenceSamples := h.silenceSamples
  framesPerPacket := h.framesPerPacket.trans hfpp
  mark := by
    rcases h.mark with ⟨hm, hc⟩ | ⟨hp, hm, hc⟩
    · exact .inl ⟨hm.trans hmark, hc.trans hcorrector⟩
    · exact .inr ⟨hphase hp, hm, hc.trans (congrArg Corrector.reset hcorrector)⟩

/-- The playing step keeps the mark and the corrector, even on an underrun: the mark is cleared
when the underrun is carried out. -/
theorem playingStep_decided (e : Engine) (s : Session) (queued : Option Nat) :
    ∃ s', (e.playingStep s queued).2.session = some s' ∧ Decided e s (e.playingStep s queued).2 s' ∧
      s'.playedSinceSync = s.playedSinceSync ∧ s'.corrector = s.corrector := by
  unfold playingStep
  split
  · exact ⟨_, rfl, ⟨rfl, rfl, rfl, rfl, rfl, .inl ⟨rfl, rfl⟩⟩, rfl, rfl⟩
  · split
    · exact ⟨_, rfl, Decided.keep e s rfl rfl rfl, rfl, rfl⟩
    · exact ⟨_, rfl, Decided.keep e s rfl rfl rfl, rfl, rfl⟩

theorem playingStep_then (h : Decided e s e₁ s₁) (queued : Option Nat) :
    ∃ s', (e₁.playingStep s₁ queued).2.session = some s' ∧ Decided e s (e₁.playingStep s₁ queued).2 s' := by
  obtain ⟨s', hs', hdec, hmark, hcorrector⟩ := playingStep_decided e₁ s₁ queued
  exact ⟨s', hs', h.then hdec hmark hcorrector⟩

theorem leadInDecide_decided (e : Engine) (S : Session) (queued : Option Nat) (gap frameTime : Int)
    (hp : S.phase ≠ .playing) :
    ∃ s', (e.leadInDecide S queued gap frameTime).2.session = some s' ∧
      Decided e S (e.leadInDecide S queued gap frameTime).2 s' := by
  unfold leadInDecide
  split
  · -- one more frame of silence
    exact ⟨_, rfl, Decided.keep e S rfl rfl rfl⟩
  · -- playback starts, clearing the mark and resetting the corrector, after a last partial
    simp only [enterPlaying, modifySession, modifyCounters, Option.map_some]
    split
    · split
      · exact ⟨_, rfl, ⟨rfl, rfl, rfl, rfl, rfl, .inr ⟨hp, rfl, rfl⟩⟩⟩
      · refine playingStep_then ?_ queued
        exact ⟨rfl, rfl, rfl, rfl, rfl, .inr ⟨hp, rfl, rfl⟩⟩
    · by_cases hlate : 0 < ((wrapSigned 64 (-gap)).tdiv frameTime).toNat
      · rw [if_pos hlate]
        refine playingStep_then ?_ queued
        exact ⟨rfl, rfl, rfl, rfl, rfl, .inr ⟨hp, rfl, rfl⟩⟩
      · rw [if_neg hlate]
        refine playingStep_then ?_ queued
        exact ⟨rfl, rfl, rfl, rfl, rfl, .inr ⟨hp, rfl, rfl⟩⟩

theorem leadInStep_decided (e : Engine) (S : Session) (queued : Option Nat) (hp : S.phase ≠ .playing) :
    ∃ s', (e.leadInStep S queued).2.session = some s' ∧ Decided e S (e.leadInStep S queued).2 s' := by
  rcases leadInStep_eq_or e S queued with heq | ⟨gap, frameTime, heq⟩
  · rw [heq]
    exact ⟨_, rfl, Decided.keep e S rfl rfl rfl⟩
  · rw [heq]
    obtain ⟨s', hs', hdec⟩ := leadInDecide_decided e { S with leadIn := some (S.leadIn.getD ⟨e.now, 0⟩) }
      queued gap frameTime hp
    exact ⟨s', hs', hdec.of_copy rfl rfl rfl id⟩

/-- Deciding the next step keeps the output, the volume, the output's counts and the stream; it
clears the mark and resets the corrector only as playback starts. -/
theorem nextStep_decided (e : Engine) (queued : Option Nat) (hs : e.session = some s) :
    ∃ s', (e.nextStep queued).2.session = some s' ∧ Decided e s (e.nextStep queued).2 s' := by
  unfold nextStep
  rw [hs]
  dsimp only
  split
  · exact ⟨_, rfl, Decided.keep e s rfl rfl rfl⟩
  · split
    · rename_i hphase
      split
      · obtain ⟨s', hs', hdec⟩ := leadInStep_decided e { s with phase := .synchronizing, leadIn := some ⟨e.now, 0⟩ }
          queued (by simp)
        exact ⟨s', hs', hdec.of_copy rfl rfl rfl fun _ => by simp [hphase]⟩
      · exact ⟨s, hs, ⟨rfl, rfl, rfl, rfl, rfl, .inl ⟨rfl, rfl⟩⟩⟩
    · rename_i hphase
      split
      · exact leadInStep_decided e s queued (by simp [hphase])
      · exact ⟨_, rfl, Decided.keep e s rfl rfl rfl⟩
    · obtain ⟨s', hs', hdec, -, -⟩ := playingStep_decided e s queued
      exact ⟨s', hs', hdec⟩

end Decide

end Engine

/-! ## What a session keeps for its output -/

namespace JitterBuffer

theorem pcm16_of_get {b : JitterBuffer} {n : Nat} (hn : b.shape.frameSamples = n)
    (h : b.StoresOnly fun slot => Pcm16 n slot.pcm) {f : Frame} (hf : b.get.1 = some f) : Pcm16 n f.pcm := by
  by_cases hfill : b.fill = 0
  · rw [get_of_fill_eq_zero hfill] at hf
    cases hf
  · rw [get_fst hfill] at hf
    cases hf
    unfold frameAt
    split
    · rename_i slot hlookup
      exact h slot (mem_of_lookup hlookup).1
    · refine ⟨by simp [hn], fun x hx => ?_⟩
      rw [List.eq_of_mem_replicate hx]
      decide

end JitterBuffer

namespace Session

/-- The buffer holds frames of one packet's stereo 16-bit samples. -/
structure FramesFit (s : Session) : Prop where
  frameSamples : s.buffer.shape.frameSamples = 2 * s.framesPerPacket
  stores : s.buffer.StoresOnly fun slot => Pcm16 (2 * s.framesPerPacket) slot.pcm

/-- The frame mark is set only while the session plays or has a flush pending. -/
def MarkSound (s : Session) : Prop := s.playedSinceSync = true → s.phase = .playing ∨ s.flushPending = true

/-- What lets a session hand its frames to the output unchanged, and its lead-in silence only
before the first frame since playback started. -/
structure Faithful (s : Session) : Prop where
  frames : s.FramesFit
  corrector : s.corrector.Steady
  mark : s.MarkSound

variable {s s' : Session}

theorem FramesFit.of_playback (h : s.FramesFit) (hp : JitterBuffer.Playback s.buffer s'.buffer)
    (hfpp : s'.framesPerPacket = s.framesPerPacket) : s'.FramesFit where
  frameSamples := by rw [hp.shape, hfpp]; exact h.frameSamples
  stores := by rw [hfpp]; exact hp.storesOnly h.stores

theorem FramesFit.frame (h : s.FramesFit) {b : JitterBuffer} (hp : JitterBuffer.Playback s.buffer b) {f : Frame}
    (hget : b.get.1 = some f) : Pcm16 (2 * s.framesPerPacket) f.pcm :=
  JitterBuffer.pcm16_of_get (by rw [hp.shape]; exact h.frameSamples) (hp.storesOnly h.stores) hget

theorem MarkSound.clear (h : s.MarkSound) (hp : s.phase ≠ .playing) (hf : s.flushPending = false) :
    s.playedSinceSync = false := by
  cases hm : s.playedSinceSync with
  | false => rfl
  | true =>
    rcases h hm with hplaying | hflush
    · exact absurd hplaying hp
    · rw [hf] at hflush
      cases hflush

theorem markSound_of_clear (h : s.playedSinceSync = false) : s.MarkSound := by
  intro hm
  rw [h] at hm
  cases hm

theorem Faithful.put (h : s.Faithful) (seq : UInt16) (ts : UInt32) (payload buf : Bytes) :
    { s with
      buffer := { (s.buffer.put seq ts (s.decoder.samplesOf payload)).2 with pending := [] }
      decoder := { s.decoder with plaintext := buf } }.Faithful := by
  have hshape : (s.buffer.put seq ts (s.decoder.samplesOf payload)).2.shape = s.buffer.shape :=
    JitterBuffer.shape_exec s.buffer (.put seq ts (s.decoder.samplesOf payload))
  have hnew : Pcm16 (2 * s.framesPerPacket) (JitterBuffer.fitTo s.buffer.shape.frameSamples (s.decoder.samplesOf payload)) := by
    rw [h.frames.frameSamples]
    exact fitTo_pcm16 _ (FrameDecoder.samplesOf_samples s.decoder payload)
  refine ⟨⟨?_, h.frames.stores.put hnew⟩, h.corrector, h.mark⟩
  show (s.buffer.put seq ts (s.decoder.samplesOf payload)).2.shape.frameSamples = 2 * s.framesPerPacket
  rw [hshape]
  exact h.frames.frameSamples

end Session

namespace Engine

section Pass

variable {e e' : Engine} {s s₂ : Session} {step : Step}

theorem Decided.steady (hdec : Decided e s e' s₂) (h : s.corrector.Steady) : s₂.corrector.Steady := by
  rcases hdec.mark with ⟨-, hc⟩ | ⟨-, -, hc⟩
  · rw [hc]
    exact h
  · rw [hc]
    exact Corrector.steady_reset _

theorem Decided.of_playing (hdec : Decided e s e' s₂) (hp : s.phase = .playing) :
    s₂.playedSinceSync = s.playedSinceSync ∧ s₂.corrector = s.corrector := by
  rcases hdec.mark with hkeep | ⟨hnp, -, -⟩
  · exact hkeep
  · exact absurd hp hnp

theorem Decided.clear (hdec : Decided e s e' s₂) (hm : s.MarkSound) (hp : s.phase ≠ .playing)
    (hf : s.flushPending = false) : s₂.playedSinceSync = false := by
  rcases hdec.mark with ⟨hkeep, -⟩ | ⟨-, hclear, -⟩
  · rw [hkeep]
    exact hm.clear hp hf
  · exact hclear

/-- Unless the step hands the output a flush or an underrun, the session the step was decided on
keeps its mark sound. -/
theorem PassCase.markSound (hcase : PassCase s step s₂) (hdec : Decided e s e' s₂) (hm : s.MarkSound)
    (hflushed : step ≠ .flushed) (hunderrun : step ≠ .underrun) : s₂.MarkSound := by
  cases hcase with
  | flushed => exact absurd rfl hflushed
  | wait hf hp _ _ => exact Session.markSound_of_clear (hdec.clear hm hp hf)
  | leadIn hf hp _ _ _ => exact Session.markSound_of_clear (hdec.clear hm hp hf)
  | enter _ _ _ hphase => exact fun _ => .inl hphase
  | underrun => exact absurd rfl hunderrun
  | play _ _ _ hphase => exact fun _ => .inl hphase

theorem pass_halves (e : Engine) (hs : e.session = some s) :
    ∃ step e₂ s₂, e.pass = (step, e₂.perform step) ∧ e₂.session = some s₂ ∧
      Decided e.forwardVolume s e₂ s₂ ∧ PlaysFrom s step s₂ ∧ PassCase s step s₂ := by
  have hs₁ : e.forwardVolume.session = some s := (forwardVolume_session e).trans hs
  obtain ⟨s₂, hs₂, hdec⟩ := nextStep_decided e.forwardVolume e.forwardVolume.sink.delay hs₁
  obtain ⟨s₃, hs₃, hplays⟩ := nextStep_playsFrom e.forwardVolume e.forwardVolume.sink.delay hs₁
  obtain ⟨s₄, hs₄, hcase⟩ := nextStep_case e.forwardVolume e.forwardVolume.sink.delay hs₁
  rw [hs₂, Option.some_inj] at hs₃ hs₄
  subst hs₃ hs₄
  exact ⟨_, _, s₂, rfl, hs₂, hdec, hplays, hcase⟩

/-- Lead-in silence comes only while the mark is clear; it is a block of zeros, counted as
silence. -/
theorem pass_silence (e : Engine) (hs : e.session = some s) (hf : s.Faithful) {n : Nat}
    (hstep : e.pass.1 = .silence n) :
    s.playedSinceSync = false ∧ e.pass.2.counters.silenceSamples = e.counters.silenceSamples + n ∧
      e.pass.2.counters.framesPlayed = e.counters.framesPlayed ∧
      ∀ mixer, e.sink.kind = .recorder mixer →
        e.pass.2.sink.recording.played = List.replicate (2 * n) 0 :: e.sink.recording.played := by
  obtain ⟨step, e₂, s₂, hpass, -, hdec, -, hcase⟩ := pass_halves e hs
  rw [hpass] at hstep ⊢
  dsimp only at hstep ⊢
  subst hstep
  -- silence is a lead-in step, so the session was not playing and had no flush pending
  obtain ⟨hp, -, -⟩ := hcase.of_silence
  have hflush : s.flushPending = false := by
    cases hfl : s.flushPending with
    | false => rfl
    | true => cases hcase.flushed_of_pending hfl
  refine ⟨hf.mark.clear hp hflush, ?_, ?_, fun mixer hkind => ?_⟩
  · rw [perform_silence_counted, hdec.silenceSamples, forwardVolume_counters]
  · rw [perform_silence_framesPlayed, hdec.framesPlayed, forwardVolume_counters]
  · have hkind₂ : e₂.sink.kind = .recorder mixer := by rw [hdec.sink, forwardVolume_kind]; exact hkind
    rw [perform_silence_played hkind₂, hdec.sink, forwardVolume_played]

/-- A frame is one the buffer returned, of 16-bit samples, counted and setting the mark; at unity
gain within the warm-up the output is handed exactly its samples. -/
theorem pass_frame (e : Engine) (hs : e.session = some s) (hf : s.Faithful) {f : Frame} {fill : Nat}
    {resends : List SeqRange} (hstep : e.pass.1 = .frame f fill resends) :
    (∃ b, JitterBuffer.Playback s.buffer b ∧ b.get.1 = some f) ∧ Pcm16 (2 * s.framesPerPacket) f.pcm ∧
      e.pass.2.counters.framesPlayed = e.counters.framesPlayed + 1 ∧
      e.pass.2.counters.silenceSamples = e.counters.silenceSamples ∧
      (∃ s', e.pass.2.session = some s' ∧ s'.playedSinceSync = true) ∧
      (e.volume.fixed = unityGain → s.corrector.WarmingUp → ∀ mixer, e.sink.kind = .recorder mixer →
        e.pass.2.sink.recording.played = f.pcm :: e.sink.recording.played) := by
  obtain ⟨step, e₂, s₂, hpass, hs₂, hdec, hplays, -⟩ := pass_halves e hs
  rw [hpass] at hstep ⊢
  dsimp only at hstep ⊢
  subst hstep
  obtain ⟨b, hb, hget⟩ := hplays.frame f fill resends rfl
  have hpcm := hf.frames.frame hb hget
  have hcounted := perform_frame_counted hs₂ f fill resends
  refine ⟨⟨b, hb, hget⟩, hpcm, ?_, ?_, ⟨_, perform_frame_session hs₂ f fill resends, rfl⟩, ?_⟩
  · rw [hcounted.1, hdec.framesPlayed, forwardVolume_counters]
  · rw [hcounted.2, hdec.silenceSamples, forwardVolume_counters]
  · intro hunity hwarm mixer hkind
    have hkind₂ : e₂.sink.kind = .recorder mixer := by rw [hdec.sink, forwardVolume_kind]; exact hkind
    have hfixed : e₂.volume.fixed = unityGain := by rw [hdec.volume, forwardVolume_fixed]; exact hunity
    -- the corrector the frame meets is the session's, or one reset as playback started: either
    -- way it is warming up at rate one and asks for no pair
    obtain ⟨k, hk, hcalm⟩ : ∃ k, k < DriftController.warmupFrames ∧ s₂.corrector.Calm k := by
      rcases hdec.mark with ⟨-, hc⟩ | ⟨-, -, hc⟩
      · rw [hc]
        exact hf.corrector.calm hwarm
      · rw [hc]
        exact ⟨0, by decide, Corrector.calm_reset _⟩
    rw [perform_frame_played hs₂ hkind₂, (hcalm.correction hk fill).1, hfixed, Stuffer.apply_unity _ hpcm.2,
      hdec.sink, forwardVolume_played]

theorem pass_quiet (e : Engine) (hs : e.session = some s)
    (hstep : e.pass.1 = .idle ∨ e.pass.1 = .flushed ∨ e.pass.1 = .underrun) :
    e.pass.2.sink.recording.played = e.sink.recording.played ∧
      e.pass.2.counters.framesPlayed = e.counters.framesPlayed ∧
      e.pass.2.counters.silenceSamples = e.counters.silenceSamples := by
  obtain ⟨step, e₂, s₂, hpass, -, hdec, -, -⟩ := pass_halves e hs
  rw [hpass] at hstep ⊢
  dsimp only at hstep ⊢
  have hplayed : e₂.sink.recording.played = e.sink.recording.played := by
    rw [hdec.sink, forwardVolume_played]
  have hframes : e₂.counters.framesPlayed = e.counters.framesPlayed := by
    rw [hdec.framesPlayed, forwardVolume_counters]
  have hsilence : e₂.counters.silenceSamples = e.counters.silenceSamples := by
    rw [hdec.silenceSamples, forwardVolume_counters]
  rcases hstep with rfl | rfl | rfl
  · exact ⟨hplayed, hframes, hsilence⟩
  · -- the output is flushed, which leaves what it was handed
    exact ⟨(Sink.flush_played e₂.sink).trans hplayed, hframes, hsilence⟩
  · exact ⟨hplayed, hframes, hsilence⟩

/-- A marked session stays marked through any pass but one that hands the output a flush or an
underrun. -/
theorem pass_keeps_mark (e : Engine) (hs : e.session = some s) (hf : s.Faithful) (hm : s.playedSinceSync = true)
    (hflushed : e.pass.1 ≠ .flushed) (hunderrun : e.pass.1 ≠ .underrun) :
    ∃ s', e.pass.2.session = some s' ∧ s'.playedSinceSync = true := by
  obtain ⟨step, e₂, s₂, hpass, hs₂, hdec, -, hcase⟩ := pass_halves e hs
  rw [hpass] at hflushed hunderrun ⊢
  dsimp only at hflushed hunderrun ⊢
  -- a marked session plays: with a flush pending, the flush would have been the step
  have hp : s.phase = .playing := by
    rcases hf.mark hm with hp | hfl
    · exact hp
    · exact absurd (hcase.flushed_of_pending hfl) hflushed
  have hm₂ : s₂.playedSinceSync = true := (hdec.of_playing hp).1.trans hm
  cases step with
  | idle => exact ⟨s₂, hs₂, hm₂⟩
  | flushed => exact absurd rfl hflushed
  | underrun => exact absurd rfl hunderrun
  | silence n => exact ⟨s₂, (perform_silence_session e₂ n).trans hs₂, hm₂⟩
  | frame f fill resends => exact ⟨_, perform_frame_session hs₂ f fill resends, rfl⟩

theorem pass_faithful (e : Engine) (hs : e.session = some s) (hf : s.Faithful) {s' : Session}
    (hs' : e.pass.2.session = some s') : s'.Faithful := by
  obtain ⟨step, e₂, s₂, hpass, hs₂, hdec, hplays, hcase⟩ := pass_halves e hs
  rw [hpass] at hs'
  dsimp only at hs'
  have hframes : s₂.FramesFit := hf.frames.of_playback hplays.buffer hdec.framesPerPacket
  have hsteady : s₂.corrector.Steady := hdec.steady hf.corrector
  -- carrying the step out keeps the buffer and the stream; it clears the mark on a flush or an
  -- underrun and sets it on a frame, which is played only while playing
  cases step with
  | idle =>
    rw [show (e₂.perform .idle).session = e₂.session from rfl, hs₂] at hs'
    obtain rfl := Option.some_inj.1 hs'
    exact ⟨hframes, hsteady, hcase.markSound hdec hf.mark nofun nofun⟩
  | flushed =>
    rw [perform_flushed_session hs₂] at hs'
    obtain rfl := Option.some_inj.1 hs'
    exact ⟨⟨hframes.frameSamples, hframes.stores⟩, hsteady, Session.markSound_of_clear rfl⟩
  | underrun =>
    rw [perform_underrun_session hs₂] at hs'
    obtain rfl := Option.some_inj.1 hs'
    exact ⟨⟨hframes.frameSamples, hframes.stores⟩, hsteady, Session.markSound_of_clear rfl⟩
  | silence n =>
    rw [perform_silence_session, hs₂] at hs'
    obtain rfl := Option.some_inj.1 hs'
    exact ⟨hframes, hsteady, hcase.markSound hdec hf.mark nofun nofun⟩
  | frame f fill resends =>
    rw [perform_frame_session hs₂] at hs'
    obtain rfl := Option.some_inj.1 hs'
    exact ⟨⟨hframes.frameSamples, hframes.stores⟩, hsteady.correction fill, fun _ => .inl hcase.phase_of_frame⟩

/-- The pass a thread stops on keeps the output, its counts and the stream; it clears the mark and
resets the corrector only where it enters playing. -/
theorem crash_decided (e : Engine) {f : Fault} (hf : e.passFault = some f) (hs : e.session = some s) :
    ∃ s', (e.crash f).session = some s' ∧ Decided e.forwardVolume s (e.crash f) s' := by
  obtain ⟨s₀, hs₀, -, hp, -⟩ := passFault_lead_in hf
  rw [hs, Option.some_inj] at hs₀
  subst hs₀
  have hs₁ : e.forwardVolume.session = some s := (forwardVolume_session e).trans hs
  unfold crash
  simp only [hs₁]
  cases hphase : s.phase with
  | playing => exact absurd hphase hp
  | _ =>
    dsimp only
    split
    · exact ⟨_, rfl, ⟨rfl, rfl, rfl, rfl, rfl, .inr ⟨hp, rfl, rfl⟩⟩⟩
    · exact ⟨_, rfl, ⟨rfl, rfl, rfl, rfl, rfl, .inl ⟨rfl, rfl⟩⟩⟩

theorem crash_faithful (e : Engine) {f : Fault} (hf : e.passFault = some f) (hs : e.session = some s)
    (hfaith : s.Faithful) {s' : Session} (hs' : (e.crash f).session = some s') : s'.Faithful := by
  obtain ⟨s₂, hs₂, hdec⟩ := crash_decided e hf hs
  obtain ⟨s₃, hs₃, hplays⟩ := crash_playsFrom e f hs
  obtain ⟨s₄, hs₄, hcase⟩ := crash_case hf hs
  rw [hs'] at hs₂ hs₃ hs₄
  obtain rfl := Option.some_inj.1 hs₂
  obtain rfl := Option.some_inj.1 hs₃
  obtain rfl := Option.some_inj.1 hs₄
  exact ⟨hfaith.frames.of_playback hplays.buffer hdec.framesPerPacket, hdec.steady hfaith.corrector,
    hcase.markSound hdec hfaith.mark nofun nofun⟩

end Pass

/-! ## Runs -/

def Faithful (e : Engine) : Prop := ∀ s, e.session = some s → s.Faithful

theorem newSession_faithful {e : Engine} {sc : SessionConfig} {d : FrameDecoder}
    (hd : e.startChecks sc = .ok d) : (e.newSession sc d).Faithful := by
  have hframes : d.frameSamples = 2 * sc.stream.framesPerPacket.toNat := by
    rw [FrameDecoder.create_frameSamples (startChecks_decoder hd), StreamParams.frameSamples, channels, Nat.mul_comm]
  refine ⟨⟨hframes, JitterBuffer.storesOnly_of_empty rfl⟩, ?_, Session.markSound_of_clear rfl⟩
  -- a drift controller starts its warm-up at rate one
  unfold newSession
  dsimp only
  split
  · exact fun _ => rfl
  · trivial

theorem faithful_put {e e' : Engine} {seq : UInt16} {ts : UInt32} {payload : Bytes} {o : Option PutOutcome}
    (hf : e.Faithful) (h : e.put seq ts payload = .ok (o, e')) : e'.Faithful := by
  rcases put_session h with ⟨-, rfl⟩ | ⟨s, -, -, hs, -⟩
  · exact hf
  · intro s' h'
    obtain ⟨buf, hstored⟩ := put_stores hs h
    rw [hstored] at h'
    obtain rfl := Option.some_inj.1 h'
    exact (hf s hs).put seq ts payload buf

theorem faithful_transition {e e' : Engine} (hf : e.Faithful) (ht : Transition e e') : e'.Faithful := by
  refine ht.sessions hf (fun hd => newSession_faithful hd) (fun h => faithful_put hf h) ?_ ?_ ?_ ?_
  · exact fun _ _ s hs => ⟨⟨hs.frames.frameSamples, hs.frames.stores⟩, hs.corrector, hs.mark⟩
  · -- a flush empties the buffer and leaves the flush pending, which any mark may wait for
    exact fun target s hs =>
      ⟨⟨hs.frames.frameSamples, JitterBuffer.storesOnly_flush target⟩, hs.corrector, fun _ => .inr rfl⟩
  · exact fun s hs s' hs' => pass_faithful e hs (hf s hs) hs'
  · exact fun s s' hfault hs hs' => crash_faithful e hfault hs (hf s hs) hs'

/-- A pass keeps every session faithful, whether or not the thread would reach it. -/
theorem Faithful.pass {e : Engine} (hf : e.Faithful) : e.pass.2.Faithful := by
  intro s' hs'
  cases hs : e.session with
  | none =>
    rw [pass_session_none hs] at hs'
    cases hs'
  | some s => exact pass_faithful e hs (hf s hs) hs'

theorem faithful_of_reachable {e₀ e : Engine} (hnone : e₀.session = none)
    (hreach : Relation.ReflTransGen Transition e₀ e) : e.Faithful :=
  sessions_of_reachable faithful_transition hnone hreach

/-- Only a pass that hands the output a flush or an underrun clears the mark of a running
session. -/
theorem mark_transition {e e' : Engine} (hf : e.Faithful) (ht : Transition e e') {s s' : Session}
    (hs : e.session = some s) (hs' : e'.session = some s') (hm : s.playedSinceSync = true)
    (hclear : s'.playedSinceSync = false) : e' = e.pass.2 ∧ (e.pass.1 = .flushed ∨ e.pass.1 = .underrun) := by
  rcases ht.of_running hs hs' with rfl | ⟨f, hfault, rfl⟩ | ⟨_, _, _, _, rfl⟩ | ⟨_, _, rfl⟩ | ⟨_, rfl⟩ | rfl
  · refine ⟨rfl, ?_⟩
    by_contra hstep
    obtain ⟨s₂, hs₂, hm₂⟩ := pass_keeps_mark e hs (hf s hs) hm (fun h => hstep (.inl h)) (fun h => hstep (.inr h))
    rw [hs₂, Option.some_inj] at hs'
    rw [hs', hclear] at hm₂
    cases hm₂
  · -- a thread stops only in a lead-in, before any frame since playback last started
    obtain ⟨s₀, hs₀, hflush, hp, -⟩ := passFault_lead_in hfault
    rw [hs, Option.some_inj] at hs₀
    subst hs₀
    rw [(hf s hs).mark.clear hp hflush] at hm
    cases hm
  -- every operation of the caller keeps the mark
  all_goals simp [hm] at hclear

/-! ## Between resyncs -/

/-- How a pass from `e`, running `s`, calls the output. -/
structure OutputLaw (e : Engine) (s : Session) : Prop where
  /-- Lead-in silence comes only while the mark is clear, as a block of zeros counted as silence. -/
  silence : ∀ n, e.pass.1 = .silence n → s.playedSinceSync = false ∧
    e.pass.2.counters.silenceSamples = e.counters.silenceSamples + n ∧
    e.pass.2.counters.framesPlayed = e.counters.framesPlayed ∧
    ∀ mixer, e.sink.kind = .recorder mixer →
      e.pass.2.sink.recording.played = List.replicate (2 * n) 0 :: e.sink.recording.played
  /-- A frame is one the buffer returned as playback left it, one packet of stereo 16-bit samples,
  counted as played and setting the mark; at unity gain within the corrector's warm-up the output
  is handed exactly its samples. -/
  frame : ∀ f fill resends, e.pass.1 = .frame f fill resends →
    (∃ b, JitterBuffer.Playback s.buffer b ∧ b.get.1 = some f) ∧ Pcm16 (2 * s.framesPerPacket) f.pcm ∧
    e.pass.2.counters.framesPlayed = e.counters.framesPlayed + 1 ∧
    e.pass.2.counters.silenceSamples = e.counters.silenceSamples ∧
    (∃ s', e.pass.2.session = some s' ∧ s'.playedSinceSync = true) ∧
    (e.volume.fixed = unityGain → s.corrector.WarmingUp → ∀ mixer, e.sink.kind = .recorder mixer →
      e.pass.2.sink.recording.played = f.pcm :: e.sink.recording.played)
  /-- No other pass hands the output anything or counts anything. -/
  quiet : e.pass.1 = .idle ∨ e.pass.1 = .flushed ∨ e.pass.1 = .underrun →
    e.pass.2.sink.recording.played = e.sink.recording.played ∧
    e.pass.2.counters.framesPlayed = e.counters.framesPlayed ∧
    e.pass.2.counters.silenceSamples = e.counters.silenceSamples
  /-- Of all the steps a player can take, only a pass handing the output a flush or an underrun
  clears the mark of a running session. -/
  resync : ∀ e' s', Transition e e' → e'.session = some s' → s.playedSinceSync = true →
    s'.playedSinceSync = false → e' = e.pass.2 ∧ (e.pass.1 = .flushed ∨ e.pass.1 = .underrun)

/-- On every player reached from one without a session, the output is called as `OutputLaw`
says. -/
theorem outputLaw_of_reachable {e₀ e : Engine} (hnone : e₀.session = none)
    (hreach : Relation.ReflTransGen Transition e₀ e) {s : Session} (hs : e.session = some s) : OutputLaw e s := by
  have hf := faithful_of_reachable hnone hreach
  exact ⟨fun _ hstep => pass_silence e hs (hf s hs) hstep, fun _ _ _ hstep => pass_frame e hs (hf s hs) hstep,
    pass_quiet e hs, fun _ _ ht hs' hm hclear => mark_transition hf ht hs hs' hm hclear⟩

end Engine

end Playout
