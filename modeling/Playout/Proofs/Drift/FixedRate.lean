import Playout.Proofs.Engine.Output

/-!
# Warm-up plays at a fixed rate

A drift controller spends its first `warmupFrames` corrections learning the usual fill: through
them it asks for no pair to be inserted or dropped and keeps the rate at exactly one, whatever
the frame size and the random source, and it reports itself warmed up from the last of them on.

Playback reads its corrector only to correct a frame, and resets it as playback starts. So
within the warm-up a player does exactly what the same player with a fixed rate does: `fixRate`
swaps the corrector for `.fixed`, and every pass of playback commutes with that swap as long as
each frame it plays is among the first `warmupFrames` since playback last started.
-/

namespace Playout

namespace DriftController

/-- The corrections for each fill in turn, and the controller after them. -/
def corrections (d : DriftController) : List Nat → List Int × DriftController
  | [] => ([], d)
  | fill :: fills =>
    let (stuff, d₁) := d.correction fill
    let (rest, d₂) := d₁.corrections fills
    (stuff :: rest, d₂)

theorem correction_warmup (d : DriftController) (fill : Nat) :
    (d.correction fill).2.warmup = if d.warmup < warmupFrames then d.warmup + 1 else d.warmup := by
  by_cases hw : d.warmup < warmupFrames
  · unfold correction update
    rw [if_pos hw, if_pos hw]
  · rw [if_neg hw]
    exact d.correction_warmup_of_le fill (by omega)

/-- The warm-up count goes up by one a correction until it reaches `warmupFrames`. -/
theorem corrections_warmup (d : DriftController) (fills : List Nat) :
    (d.corrections fills).2.warmup = max d.warmup (min (d.warmup + fills.length) warmupFrames) := by
  induction fills generalizing d with
  | nil => simp [corrections]
  | cons fill fills ih =>
    simp only [corrections, ih, correction_warmup, List.length_cons]
    split <;> simp [warmupFrames] at * <;> omega

/-- From `n` corrections into warm-up at rate one, the corrections up to the end of the warm-up
ask for nothing and keep the rate at one. -/
theorem corrections_of_warmup (d : DriftController) (fills : List Nat) (hr : d.rate = 1.0)
    (hw : d.warmup + fills.length ≤ warmupFrames) :
    (d.corrections fills).1 = List.replicate fills.length 0 ∧ (d.corrections fills).2.rate = 1.0 := by
  induction fills generalizing d with
  | nil => exact ⟨rfl, hr⟩
  | cons fill fills ih =>
    have hlen : d.warmup < warmupFrames := by
      simp only [List.length_cons] at hw
      omega
    obtain ⟨hstuff, hwarm, hrate⟩ := d.correction_of_warmup fill hlen hr
    obtain ⟨hrest, hrate'⟩ := ih (d.correction fill).2 hrate (by
      simp only [List.length_cons] at hw
      omega)
    simp only [corrections, hstuff, hrest, hrate', List.length_cons, List.replicate_succ, and_self]

theorem create_fresh (frameSize sampleRate : Nat) (rng : ChaChaRng) :
    (create frameSize sampleRate rng).warmup = 0 ∧ (create frameSize sampleRate rng).rate = 1.0 :=
  ⟨rfl, rfl⟩

theorem reset_fresh (d : DriftController) : d.reset.warmup = 0 ∧ d.reset.rate = 1.0 := ⟨rfl, rfl⟩

/-- A controller at the start of its warm-up: for the first `warmupFrames` fills every correction
is zero and the rate stays one, and it is warmed up exactly from the `warmupFrames`-th on. -/
theorem warmUp_of_fresh (d : DriftController) (hw : d.warmup = 0) (hr : d.rate = 1.0) (fills : List Nat) :
    (fills.length ≤ warmupFrames →
      (d.corrections fills).1 = List.replicate fills.length 0 ∧ (d.corrections fills).2.rate = 1.0) ∧
    (d.corrections fills).2.isWarmedUp = decide (warmupFrames ≤ fills.length) := by
  refine ⟨fun hlen => d.corrections_of_warmup fills hr (by omega), ?_⟩
  simp only [isWarmedUp, corrections_warmup, hw, warmupFrames]
  exact decide_eq_decide.2 (by omega)

end DriftController

end Playout

namespace Playout

namespace Session

/-- The session with its rate correction replaced by a fixed rate. -/
def fixRate (s : Session) : Session := { s with corrector := .fixed }

end Session

namespace Engine

/-- The player with its session's rate correction replaced by a fixed rate. -/
def fixRate (e : Engine) : Engine := e.modifySession Session.fixRate

theorem forwardVolume_fixRate (e : Engine) : e.fixRate.forwardVolume = e.forwardVolume.fixRate := by
  simp only [forwardVolume, fixRate, modifySession]
  split <;> rfl

theorem playingStep_fixRate (e : Engine) (s : Session) (queued : Option Nat) :
    e.fixRate.playingStep s.fixRate queued = ((e.playingStep s queued).1, (e.playingStep s queued).2.fixRate) := by
  simp only [playingStep, Session.fixRate, fixRate, modifySession]
  by_cases hunder : (s.playedSinceSync && queued == some 0) = true
  · simp only [hunder, ↓reduceIte]
    rfl
  · simp only [hunder, Bool.false_eq_true, ↓reduceIte]
    rcases hget : s.buffer.get with ⟨_ | f, b⟩ <;> rfl

/-- The playing step of the running session, if there is one. -/
def continuePlaying (e : Engine) (queued : Option Nat) : Step × Engine :=
  match e.session with
  | some s => e.playingStep s queued
  | none => (.idle, e)

/-- The running session skips `late` frames, if there are any. -/
def skipLate (e : Engine) (late : Nat) : Engine :=
  if 0 < late then e.modifySession fun s => { s with buffer := (s.buffer.skip late).2 } else e

/-- The end of a lead-in step, spelled out in the pieces above. -/
theorem leadInDecide_eq (e : Engine) (S : Session) (queued : Option Nat) (gap frameTime : Int) :
    e.leadInDecide S queued gap frameTime =
      if frameTime < gap then
        (.silence S.framesPerPacket, { e with session := some (S.noteEmitted S.framesPerPacket) })
      else if 0 < gap then
        if 0 < (fixedToSamples gap S.sampleRate).toNat then
          (.silence (fixedToSamples gap S.sampleRate).toNat, enterPlaying { e with session := some S })
        else (enterPlaying { e with session := some S }).continuePlaying queued
      else ((enterPlaying { e with session := some S }).skipLate
        (Int.tdiv (wrapSigned 64 (-gap)) frameTime).toNat).continuePlaying queued := rfl

theorem withSession_fixRate (e : Engine) (S : Session) :
    { e.fixRate with session := some S.fixRate } = { e with session := some S }.fixRate := rfl

theorem enterPlaying_fixRate (e : Engine) : e.fixRate.enterPlaying = e.enterPlaying.fixRate := by
  simp only [enterPlaying, fixRate, modifySession, modifyCounters]
  cases e.session <;> rfl

theorem skipLate_fixRate (e : Engine) (late : Nat) : e.fixRate.skipLate late = (e.skipLate late).fixRate := by
  simp only [skipLate, fixRate, modifySession]
  split
  · cases e.session <;> rfl
  · rfl

theorem continuePlaying_fixRate (e : Engine) (queued : Option Nat) :
    e.fixRate.continuePlaying queued = ((e.continuePlaying queued).1, (e.continuePlaying queued).2.fixRate) := by
  unfold continuePlaying
  cases hs : e.session with
  | none => simp [fixRate, modifySession, hs]
  | some s =>
    have hfix : e.fixRate.session = some s.fixRate := by simp [fixRate, modifySession, hs]
    rw [hfix]
    exact playingStep_fixRate e s queued

theorem leadInDecide_fixRate (e : Engine) (S : Session) (queued : Option Nat) (gap frameTime : Int) :
    e.fixRate.leadInDecide S.fixRate queued gap frameTime =
      ((e.leadInDecide S queued gap frameTime).1, (e.leadInDecide S queued gap frameTime).2.fixRate) := by
  have hfpp : S.fixRate.framesPerPacket = S.framesPerPacket := rfl
  have hrate : S.fixRate.sampleRate = S.sampleRate := rfl
  have hnote : { e.fixRate with session := some (S.fixRate.noteEmitted S.framesPerPacket) } =
      { e with session := some (S.noteEmitted S.framesPerPacket) }.fixRate := rfl
  rw [leadInDecide_eq, leadInDecide_eq, hfpp, hrate, hnote, withSession_fixRate, enterPlaying_fixRate]
  by_cases hsilence : frameTime < gap
  · simp only [hsilence, ↓reduceIte]
  · by_cases hpos : 0 < gap
    · by_cases hpart : 0 < (fixedToSamples gap S.sampleRate).toNat
      · simp only [hsilence, hpos, hpart, ↓reduceIte]
      · simp only [hsilence, hpos, hpart, ↓reduceIte]
        exact continuePlaying_fixRate _ queued
    · simp only [hsilence, hpos, ↓reduceIte]
      rw [skipLate_fixRate]
      exact continuePlaying_fixRate _ queued

theorem leadInGap_fixRate (e : Engine) (S : Session) (queued : Option Nat) (predicted : UInt64) :
    leadInGap e.fixRate S.fixRate queued predicted = leadInGap e S queued predicted := rfl

theorem leadInStep_fixRate (e : Engine) (S : Session) (queued : Option Nat) :
    e.fixRate.leadInStep S.fixRate queued = ((e.leadInStep S queued).1, (e.leadInStep S queued).2.fixRate) := by
  have hpred' : S.fixRate.reference.predict S.fixRate.buffer.readTs = S.reference.predict S.buffer.readTs := rfl
  cases hpred : S.reference.predict S.buffer.readTs with
  | error f =>
    unfold leadInStep
    rw [hpred', hpred]
    rfl
  | ok r =>
    cases r with
    | none =>
      unfold leadInStep
      rw [hpred', hpred]
      rfl
    | some predicted =>
      have hpredFix : S.fixRate.reference.predict S.fixRate.buffer.readTs = .ok (some predicted) := hpred' ▸ hpred
      rw [leadInStep_of_predicted e queued hpred, leadInStep_of_predicted e.fixRate queued hpredFix,
        leadInGap_fixRate]
      exact leadInDecide_fixRate e { S with leadIn := some (S.leadIn.getD ⟨e.now, 0⟩) } queued _ _

theorem nextStep_fixRate (e : Engine) (queued : Option Nat) :
    e.fixRate.nextStep queued = ((e.nextStep queued).1, (e.nextStep queued).2.fixRate) := by
  cases hs : e.session with
  | none =>
    have hnone : e.fixRate.session = none := by simp [fixRate, modifySession, hs]
    simp only [nextStep, hs, hnone]
  | some s =>
    have hfix : e.fixRate.session = some s.fixRate := by simp [fixRate, modifySession, hs]
    have hnow : e.fixRate.now = e.now := rfl
    simp only [nextStep, hs, hfix]
    by_cases hf : s.flushPending = true
    · simp only [Session.fixRate, hf, ↓reduceIte]
      rfl
    · have hf' : s.fixRate.flushPending = false := by simpa [Session.fixRate] using hf
      simp only [hf', hf, Bool.false_eq_true, ↓reduceIte]
      have hready : s.fixRate.readyToSync = s.readyToSync := rfl
      have hphase : s.fixRate.phase = s.phase := rfl
      rw [hready, hphase, hnow]
      cases s.phase with
      | buffering =>
        by_cases hr : s.readyToSync = true
        · simp only [hr, ↓reduceIte]
          -- the flush test has already put `false` in for the session's pending flush
          exact leadInStep_fixRate e
            { s with phase := .synchronizing, leadIn := some ⟨e.now, 0⟩, flushPending := false } queued
        · simp only [hr, Bool.false_eq_true, ↓reduceIte]
      | synchronizing =>
        by_cases hr : s.readyToSync = true
        · simp only [hr, ↓reduceIte]
          exact leadInStep_fixRate e s queued
        · simp only [hr, Bool.false_eq_true, ↓reduceIte]
          rfl
      | playing =>
        simp only
        exact playingStep_fixRate e s queued

/-! ## The corrector a frame meets -/

theorem continuePlaying_corrector {E : Engine} {S : Session} (hE : E.session = some S) (queued : Option Nat) :
    ∃ s', (E.continuePlaying queued).2.session = some s' ∧ s'.corrector = S.corrector := by
  unfold continuePlaying
  rw [hE]
  obtain ⟨s', hs', -, -, hc⟩ := playingStep_decided E S queued
  exact ⟨s', hs', hc⟩

theorem skipLate_corrector {E : Engine} {S : Session} (hE : E.session = some S) (late : Nat) :
    ∃ S', (E.skipLate late).session = some S' ∧ S'.corrector = S.corrector := by
  unfold skipLate
  split
  · exact ⟨{ S with buffer := (S.buffer.skip late).2 }, by simp [modifySession, hE], rfl⟩
  · exact ⟨S, hE, rfl⟩

/-- A frame that ends a lead-in meets the corrector reset as playback started. -/
theorem leadInDecide_frame_corrector (e : Engine) (S : Session) (queued : Option Nat) (gap frameTime : Int)
    {f : Frame} {fill : Nat} {resends : List SeqRange}
    (h : (e.leadInDecide S queued gap frameTime).1 = .frame f fill resends) :
    ∃ s', (e.leadInDecide S queued gap frameTime).2.session = some s' ∧ s'.corrector = S.corrector.reset := by
  have hstart := enterPlaying_session e S
  rw [leadInDecide_eq] at h ⊢
  by_cases hsilence : frameTime < gap
  · simp only [hsilence, ↓reduceIte, reduceCtorEq] at h
  · by_cases hpos : 0 < gap
    · by_cases hpart : 0 < (fixedToSamples gap S.sampleRate).toNat
      · simp only [hsilence, hpos, hpart, ↓reduceIte, reduceCtorEq] at h
      · simp only [hsilence, hpos, hpart, ↓reduceIte]
        exact continuePlaying_corrector hstart queued
    · simp only [hsilence, hpos, ↓reduceIte]
      obtain ⟨S', hS', hc⟩ := skipLate_corrector hstart ((wrapSigned 64 (-gap)).tdiv frameTime).toNat
      obtain ⟨s', hs', hc'⟩ := continuePlaying_corrector hS' queued
      exact ⟨s', hs', hc'.trans hc⟩

theorem leadInStep_frame_corrector (e : Engine) (S : Session) (queued : Option Nat)
    {f : Frame} {fill : Nat} {resends : List SeqRange} (h : (e.leadInStep S queued).1 = .frame f fill resends) :
    ∃ s', (e.leadInStep S queued).2.session = some s' ∧ s'.corrector = S.corrector.reset := by
  rcases leadInStep_eq_or e S queued with heq | ⟨gap, frameTime, heq⟩
  · rw [heq] at h
    cases h
  · rw [heq] at h ⊢
    exact leadInDecide_frame_corrector e _ queued gap frameTime h

/-- A frame played by a session not yet playing meets the corrector reset as playback started. -/
theorem nextStep_frame_corrector {e : Engine} {s : Session} (hs : e.session = some s) (hp : s.phase ≠ .playing)
    (queued : Option Nat) {f : Frame} {fill : Nat} {resends : List SeqRange}
    (h : (e.nextStep queued).1 = .frame f fill resends) :
    ∃ s', (e.nextStep queued).2.session = some s' ∧ s'.corrector = s.corrector.reset := by
  simp only [nextStep, hs] at h ⊢
  by_cases hf : s.flushPending = true
  · simp only [hf, ↓reduceIte, reduceCtorEq] at h
  · simp only [hf, Bool.false_eq_true, ↓reduceIte] at h ⊢
    cases hphase : s.phase with
    | buffering =>
      simp only [hphase] at h ⊢
      by_cases hr : s.readyToSync = true
      · simp only [hr, ↓reduceIte] at h ⊢
        exact leadInStep_frame_corrector e _ queued h
      · simp only [hr, Bool.false_eq_true, ↓reduceIte, reduceCtorEq] at h
    | synchronizing =>
      simp only [hphase] at h ⊢
      by_cases hr : s.readyToSync = true
      · simp only [hr, ↓reduceIte] at h ⊢
        exact leadInStep_frame_corrector e s queued h
      · simp only [hr, Bool.false_eq_true, ↓reduceIte, reduceCtorEq] at h
    | playing => exact absurd hphase hp

/-! ## Carrying a step out at a fixed rate -/

theorem playOut_fixRate (e : Engine) (samples : List Int) :
    e.fixRate.playOut samples = (e.playOut samples).fixRate := by
  have hsink : e.fixRate.sink = e.sink := rfl
  unfold playOut
  rw [hsink]
  cases e.sink.play samples <;> rfl

theorem playOut_stuffing (e : Engine) (samples : List Int) :
    (e.playOut samples).counters.samplesInserted = e.counters.samplesInserted ∧
      (e.playOut samples).counters.samplesDeleted = e.counters.samplesDeleted := by
  unfold playOut
  split <;> exact ⟨rfl, rfl⟩

theorem perform_fixRate (e : Engine) {step : Step} (h : ∀ f fill resends, step ≠ .frame f fill resends) :
    e.fixRate.perform step = (e.perform step).fixRate := by
  cases step with
  | idle => rfl
  | flushed =>
    simp only [perform, fixRate, modifySession]
    cases e.session <;> rfl
  | underrun =>
    simp only [perform, fixRate, modifySession]
    cases e.session <;> rfl
  | silence n =>
    simp only [perform]
    rw [playOut_fixRate]
    rfl
  | frame f fill resends => exact absurd rfl (h f fill resends)

/-- A frame corrected within the warm-up is played as at a fixed rate, and no pair is inserted or
dropped. -/
theorem playFrame_fixRate {e : Engine} {s : Session} (hs : e.session = some s) {k : Nat}
    (hcalm : s.corrector.Calm k) (hk : k < DriftController.warmupFrames) (f : Frame) (fill : Nat) :
    e.fixRate.playFrame f fill = (e.playFrame f fill).fixRate ∧
      (e.playFrame f fill).counters.samplesInserted = e.counters.samplesInserted ∧
      (e.playFrame f fill).counters.samplesDeleted = e.counters.samplesDeleted := by
  obtain ⟨hzero, -, hrate⟩ := hcalm.correction hk fill
  have hcorr : s.corrector.correction fill = (0, (s.corrector.correction fill).2) := Prod.ext hzero rfl
  have hfix : e.fixRate.session = some s.fixRate := by simp [fixRate, modifySession, hs]
  have hfixed : s.fixRate.corrector.correction fill = (0, .fixed) := rfl
  unfold playFrame
  rw [hs, hfix]
  dsimp only
  rw [hcorr, hfixed]
  refine ⟨?_, ?_, ?_⟩
  · -- both players hand the output the same block and count the same; only the corrector differs
    have hone : Corrector.fixed.playbackRate = 1.0 := rfl
    simp only [hrate, hone, modifyCounters, modifySession, fixRate, Session.fixRate]
    unfold playOut
    cases e.sink.play (s.stuffer.apply f.pcm 0 e.volume.fixed).1 <;> rfl
  · simp [modifyCounters, modifySession, playOut_stuffing]
  · simp [modifyCounters, modifySession, playOut_stuffing]

/-! ## Deciding a step inserts and drops nothing -/

/-- `e'` has inserted and dropped as many pairs as `e`. -/
def KeepsStuffing (e e' : Engine) : Prop :=
  e'.counters.samplesInserted = e.counters.samplesInserted ∧ e'.counters.samplesDeleted = e.counters.samplesDeleted

theorem KeepsStuffing.trans {e₁ e₂ e₃ : Engine} (h₁ : KeepsStuffing e₁ e₂) (h₂ : KeepsStuffing e₂ e₃) :
    KeepsStuffing e₁ e₃ :=
  ⟨h₂.1.trans h₁.1, h₂.2.trans h₁.2⟩

theorem playingStep_keepsStuffing (e : Engine) (s : Session) (queued : Option Nat) :
    KeepsStuffing e (e.playingStep s queued).2 := by
  unfold playingStep
  split
  · exact ⟨rfl, rfl⟩
  · split <;> exact ⟨rfl, rfl⟩

theorem continuePlaying_keepsStuffing (e : Engine) (queued : Option Nat) :
    KeepsStuffing e (e.continuePlaying queued).2 := by
  unfold continuePlaying
  split
  · exact playingStep_keepsStuffing e _ queued
  · exact ⟨rfl, rfl⟩

theorem skipLate_keepsStuffing (e : Engine) (late : Nat) : KeepsStuffing e (e.skipLate late) := by
  unfold skipLate
  split <;> exact ⟨rfl, rfl⟩

theorem leadInDecide_keepsStuffing (e : Engine) (S : Session) (queued : Option Nat) (gap frameTime : Int) :
    KeepsStuffing e (e.leadInDecide S queued gap frameTime).2 := by
  have hstart : KeepsStuffing e (enterPlaying { e with session := some S }) := ⟨rfl, rfl⟩
  rw [leadInDecide_eq]
  by_cases hsilence : frameTime < gap
  · simp only [hsilence, ↓reduceIte]
    exact ⟨rfl, rfl⟩
  · by_cases hpos : 0 < gap
    · by_cases hpart : 0 < (fixedToSamples gap S.sampleRate).toNat
      · simp only [hsilence, hpos, hpart, ↓reduceIte]
        exact hstart
      · simp only [hsilence, hpos, hpart, ↓reduceIte]
        exact hstart.trans (continuePlaying_keepsStuffing _ queued)
    · simp only [hsilence, hpos, ↓reduceIte]
      exact (hstart.trans (skipLate_keepsStuffing _ _)).trans (continuePlaying_keepsStuffing _ queued)

theorem leadInStep_keepsStuffing (e : Engine) (S : Session) (queued : Option Nat) :
    KeepsStuffing e (e.leadInStep S queued).2 := by
  rcases leadInStep_eq_or e S queued with heq | ⟨gap, frameTime, heq⟩
  · rw [heq]
    exact ⟨rfl, rfl⟩
  · rw [heq]
    exact leadInDecide_keepsStuffing e _ queued gap frameTime

theorem nextStep_keepsStuffing (e : Engine) (queued : Option Nat) : KeepsStuffing e (e.nextStep queued).2 := by
  unfold nextStep
  split
  · exact ⟨rfl, rfl⟩
  · split
    · exact ⟨rfl, rfl⟩
    · split
      · split
        · exact leadInStep_keepsStuffing e _ queued
        · exact ⟨rfl, rfl⟩
      · split
        · exact leadInStep_keepsStuffing e _ queued
        · exact ⟨rfl, rfl⟩
      · exact playingStep_keepsStuffing e _ queued

theorem forwardVolume_keepsStuffing (e : Engine) : KeepsStuffing e e.forwardVolume := by
  simp [KeepsStuffing]

theorem perform_keepsStuffing (e : Engine) {step : Step} (h : ∀ f fill resends, step ≠ .frame f fill resends) :
    KeepsStuffing e (e.perform step) := by
  cases step with
  | idle => exact ⟨rfl, rfl⟩
  | flushed =>
    simp only [perform, modifySession]
    exact ⟨rfl, rfl⟩
  | underrun =>
    simp only [perform, modifySession]
    exact ⟨rfl, rfl⟩
  | silence n => exact playOut_stuffing e _
  | frame f fill resends => exact absurd rfl (h f fill resends)

/-! ## A pass within the warm-up -/

/-- A pass whose frame, if it plays one, is corrected within the warm-up does exactly what it
does at a fixed rate, and inserts and drops nothing. -/
theorem pass_fixRate (e : Engine) {s : Session} (hs : e.session = some s) (hsteady : s.corrector.Steady)
    (hwarm : s.phase = .playing → s.corrector.WarmingUp) :
    e.fixRate.pass = (e.pass.1, e.pass.2.fixRate) ∧ KeepsStuffing e e.pass.2 := by
  have hs₁ : e.forwardVolume.session = some s := (forwardVolume_session e).trans hs
  have hfix : e.fixRate.pass = ((e.forwardVolume.nextStep e.forwardVolume.sink.delay).1,
      (e.forwardVolume.nextStep e.forwardVolume.sink.delay).2.fixRate.perform
        (e.forwardVolume.nextStep e.forwardVolume.sink.delay).1) := by
    unfold pass
    rw [forwardVolume_fixRate]
    exact congrArg (fun r => (r.1, r.2.perform r.1)) (nextStep_fixRate e.forwardVolume e.forwardVolume.sink.delay)
  have hpass : e.pass = ((e.forwardVolume.nextStep e.forwardVolume.sink.delay).1,
      (e.forwardVolume.nextStep e.forwardVolume.sink.delay).2.perform
        (e.forwardVolume.nextStep e.forwardVolume.sink.delay).1) := rfl
  have hkeep := (forwardVolume_keepsStuffing e).trans (nextStep_keepsStuffing e.forwardVolume e.forwardVolume.sink.delay)
  obtain ⟨s₂, hs₂, hdec⟩ := nextStep_decided e.forwardVolume e.forwardVolume.sink.delay hs₁
  have hframe : s.phase ≠ .playing → ∀ {f fill resends},
      (e.forwardVolume.nextStep e.forwardVolume.sink.delay).1 = .frame f fill resends →
      ∃ s', (e.forwardVolume.nextStep e.forwardVolume.sink.delay).2.session = some s' ∧
        s'.corrector = s.corrector.reset :=
    fun hp _ _ _ => nextStep_frame_corrector hs₁ hp _
  rw [hfix, hpass]
  generalize e.forwardVolume.nextStep e.forwardVolume.sink.delay = D at hs₂ hdec hkeep hframe ⊢
  obtain ⟨step, E₂⟩ := D
  dsimp only at hs₂ hdec hkeep hframe ⊢
  cases step with
  | frame f fill resends =>
    -- the frame meets the session's corrector while it plays, or one reset as playback starts
    obtain ⟨k, hk, hcalm⟩ : ∃ k, k < DriftController.warmupFrames ∧ s₂.corrector.Calm k := by
      by_cases hp : s.phase = .playing
      · rw [(hdec.of_playing hp).2]
        exact hsteady.calm (hwarm hp)
      · obtain ⟨s', hs', hc⟩ := hframe hp rfl
        rw [hs₂, Option.some_inj] at hs'
        rw [hs', hc]
        exact ⟨0, by decide, Corrector.calm_reset _⟩
    have hreq : (E₂.request resends).session = some s₂ := hs₂
    obtain ⟨hplay, hins, hdel⟩ := playFrame_fixRate hreq hcalm hk f fill
    exact ⟨congrArg (Prod.mk _) hplay, hkeep.trans ⟨hins, hdel⟩⟩
  | _ =>
    exact ⟨congrArg (Prod.mk _) (perform_fixRate E₂ nofun), hkeep.trans (perform_keepsStuffing E₂ nofun)⟩

theorem fixRate_of_none {e : Engine} (hs : e.session = none) : e.fixRate = e := by
  cases e
  simp_all [fixRate, modifySession]

/-- Without a session a pass only forwards the volume: there is no corrector to fix. -/
theorem pass_fixRate_of_none {e : Engine} (hs : e.session = none) :
    e.fixRate.pass = (e.pass.1, e.pass.2.fixRate) ∧ KeepsStuffing e e.pass.2 := by
  have h₁ : e.forwardVolume.session = none := (forwardVolume_session e).trans hs
  have hidle : (e.forwardVolume.nextStep e.forwardVolume.sink.delay).1 = .idle := by
    simp only [nextStep, h₁]
  have hpass : e.pass.2 = (e.forwardVolume.nextStep e.forwardVolume.sink.delay).2.perform
      (e.forwardVolume.nextStep e.forwardVolume.sink.delay).1 := rfl
  have hkeep := (forwardVolume_keepsStuffing e).trans (nextStep_keepsStuffing e.forwardVolume e.forwardVolume.sink.delay)
  rw [fixRate_of_none hs, fixRate_of_none (pass_session_none hs)]
  refine ⟨rfl, ?_⟩
  rw [hpass]
  exact hkeep.trans (perform_keepsStuffing _ (by rw [hidle]; intro _ _ _ h; cases h))

/-- A session that plays has corrected fewer than `warmupFrames` frames since playback last
started. -/
def WarmingUp (e : Engine) : Prop :=
  ∀ s, e.session = some s → s.phase = .playing → s.corrector.WarmingUp

theorem pass_fixRate_of_warmingUp {e : Engine} (hf : e.Faithful) (hw : e.WarmingUp) :
    e.fixRate.pass = (e.pass.1, e.pass.2.fixRate) ∧ KeepsStuffing e e.pass.2 := by
  cases hs : e.session with
  | none => exact pass_fixRate_of_none hs
  | some s => exact pass_fixRate e hs (hf s hs).corrector (hw s hs)

/-- Passes that each start within the warm-up play exactly what they play at a fixed rate; the
induction along the passes carries `Faithful`. -/
theorem passes_fixRate (n : Nat) (e : Engine) (hf : e.Faithful) (hw : ∀ k < n, (passes k e).2.WarmingUp) :
    passes n e.fixRate = ((passes n e).1, (passes n e).2.fixRate) ∧ KeepsStuffing e (passes n e).2 := by
  induction n generalizing e with
  | zero => exact ⟨rfl, ⟨rfl, rfl⟩⟩
  | succ n ih =>
    obtain ⟨hpass, hkeep⟩ := pass_fixRate_of_warmingUp hf (hw 0 (by omega))
    obtain ⟨hrest, hkeeps⟩ := ih e.pass.2 hf.pass
      fun k hk => hw (k + 1) (by omega)
    refine ⟨?_, hkeep.trans hkeeps⟩
    simp only [passes, hpass, hrest]

end Engine

/-- Warm-up applies no correction. A drift controller fresh from `create` or `reset`, whatever
its frame size, sample rate and random source, asks for nothing and keeps the rate at exactly one
through its first `warmupFrames` corrections, and it is warmed up exactly from the
`warmupFrames`-th on; at rate one the chance of stuffing is zero for every frame size. So on
every player reached from one without a session, passes that each start within the warm-up play
exactly what they play at a fixed rate, and insert and drop nothing. -/
theorem warmUp_plays_at_fixed_rate :
    (∀ (d : DriftController) (fills : List Nat),
      ((∃ frameSize sampleRate rng, d = DriftController.create frameSize sampleRate rng) ∨
        ∃ d₀ : DriftController, d = d₀.reset) →
      (fills.length ≤ DriftController.warmupFrames →
        (d.corrections fills).1 = List.replicate fills.length 0 ∧ (d.corrections fills).2.rate = 1.0) ∧
      (d.corrections fills).2.isWarmedUp = decide (DriftController.warmupFrames ≤ fills.length)) ∧
    (∀ frameSize, stuffProbability 1.0 frameSize = 0.0) ∧
    (∀ (e₀ e : Engine) (n : Nat), e₀.session = none → Relation.ReflTransGen Engine.Transition e₀ e →
      (∀ k < n, (Engine.passes k e).2.WarmingUp) →
      Engine.passes n e.fixRate = ((Engine.passes n e).1, (Engine.passes n e).2.fixRate) ∧
        Engine.KeepsStuffing e (Engine.passes n e).2) := by
  refine ⟨?_, stuffProbability_one, ?_⟩
  · rintro d fills (⟨frameSize, sampleRate, rng, rfl⟩ | ⟨d₀, rfl⟩)
    · obtain ⟨hw, hr⟩ := DriftController.create_fresh frameSize sampleRate rng
      exact DriftController.warmUp_of_fresh _ hw hr fills
    · obtain ⟨hw, hr⟩ := d₀.reset_fresh
      exact DriftController.warmUp_of_fresh _ hw hr fills
  · intro e₀ e n hnone hreach hwarm
    exact Engine.passes_fixRate n e (Engine.faithful_of_reachable hnone hreach) hwarm

/-- A fresh controller asks for nothing over its first three readings, keeps the rate at one and
is not yet warmed up. -/
theorem fresh_controller_asks_nothing :
    ((DriftController.create 352 44100 (ChaChaRng.ofSeed 0)).corrections [100, 100, 100]).1 = [0, 0, 0] ∧
      ((DriftController.create 352 44100 (ChaChaRng.ofSeed 0)).corrections [100, 100, 100]).2.rate = 1.0 ∧
      ((DriftController.create 352 44100 (ChaChaRng.ofSeed 0)).corrections [100, 100, 100]).2.isWarmedUp =
        false := by
  have h := warmUp_plays_at_fixed_rate.1 (DriftController.create 352 44100 (ChaChaRng.ofSeed 0)) [100, 100, 100]
    (.inl ⟨352, 44100, ChaChaRng.ofSeed 0, rfl⟩)
  obtain ⟨hfixed, hrate⟩ := h.1 (by decide)
  exact ⟨hfixed, hrate, h.2⟩

end Playout
