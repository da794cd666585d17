import Playout.Proofs.Engine.LeadIn
import Playout.Proofs.Engine.Flush

/-!
# Where playback can stop

A pass of playback works on 64-bit words: the clock, the due time of the first frame, the
gap between them and the count of lead-in silence. `passFault` names the fault a pass stops on.
Only a lead-in step can fault, and on a player whose sessions all passed validation it faults in
two places only (`pass_faults_only_at_lead_in`):

* playback starts with the first frame's due time exactly `2^63` units behind the output, and the
  gap's negation has no 64-bit value;
* a frame of lead-in silence carries the count of silent samples past `2^64 - 1`.

No pass divides by zero: every session's clock runs at the validated, nonzero sample rate
(`rateSet_of_reachable`). The first fault is reachable from a fresh player with a clock that
reads `2^63` while the first frame is due at time zero (`pass_negates_half_turn_gap`).
-/

namespace Playout

namespace Engine

/-! ## Every session's clock has a rate -/

/-- Every running session's clock runs at a nonzero rate. -/
def RateSet (e : Engine) : Prop := ∀ s, e.session = some s → s.reference.sampleRate ≠ 0

theorem sampleRate_ne_zero_of_validate {sc : SessionConfig} (h : sc.validate = .ok ()) :
    sc.stream.sampleRate ≠ 0 := by
  intro h0
  have hstream : sc.stream.validate = .error (.unsupported "sample rate is zero") := by
    unfold StreamParams.validate
    rw [if_pos h0]
    rfl
  unfold SessionConfig.validate at h
  rw [hstream] at h
  cases h

/-- A start whose checks pass has passed the session's validation. -/
theorem startChecks_validated {e : Engine} {sc : SessionConfig} {d : FrameDecoder}
    (h : e.startChecks sc = .ok d) : sc.validate = .ok () := by
  unfold startChecks at h
  simp only [bind, Except.bind, pure, Except.pure, throw, throwThe, MonadExceptOf.throw] at h
  -- past the running check and the player's validation, the session's validation passed
  split at h
  · cases h
  · split at h
    · cases h
    · split at h
      · cases h
      · assumption

theorem RateSet.put {e e' : Engine} {seq : UInt16} {ts : UInt32} {payload : Bytes} {o : Option PutOutcome}
    (hr : e.RateSet) (h : e.put seq ts payload = .ok (o, e')) : e'.RateSet := by
  rcases put_session h with ⟨-, rfl⟩ | ⟨s, pcm, d, hs, hs'⟩
  · exact hr
  · intro s' h'
    rw [hs'] at h'
    cases h'
    exact hr s hs

theorem rateSet_transition {e e' : Engine} (hr : e.RateSet) (ht : Transition e e') : e'.RateSet := by
  refine ht.sessions hr ?_ (fun h => hr.put h) (fun _ _ s hs => hs) (fun _ s hs => hs) ?_ ?_
  · -- a new session's clock runs at its validated stream's rate
    exact fun hd => sampleRate_ne_zero_of_validate (startChecks_validated hd)
  · intro s hs s' h'
    obtain ⟨s₂, hs₂, hcase⟩ := pass_case e hs
    rw [hs₂] at h'
    cases h'
    rw [hcase.reference]
    exact hr s hs
  · intro f s s' hf hs h'
    obtain ⟨s₂, hs₂, hcase⟩ := crash_case hf hs
    rw [hs₂] at h'
    cases h'
    rw [hcase.reference]
    exact hr s hs

/-- From a player without a session, every session's clock runs at a nonzero rate. -/
theorem rateSet_of_reachable {e₀ e : Engine} (hnone : e₀.session = none)
    (hreach : Relation.ReflTransGen Transition e₀ e) : e.RateSet :=
  sessions_of_reachable rateSet_transition hnone hreach

/-! ## The faults of a lead-in step -/

theorem predict_ne_error {c : ReferenceClock} (h : c.sampleRate ≠ 0) (ts : UInt32) (f : Fault) :
    c.predict ts ≠ .error f := by
  have hrate : c.sampleRate.toNat ≠ 0 := fun h0 => h (UInt32.toNat_inj.1 h0)
  unfold ReferenceClock.predict
  cases c.anchor with
  | none => simp
  | some a => simp [samplesToFixedChecked, hrate, bind, Except.bind, pure, Except.pure]

theorem leadInFault_of_predicted (e : Engine) {s : Session} (queued : Option Nat) {predicted : UInt64}
    (hpred : s.reference.predict s.buffer.readTs = .ok (some predicted)) :
    e.leadInFault s queued =
      if samplesToFixed s.framesPerPacket s.sampleRate < e.leadInGap s queued predicted then
        (if Nat.pow 2 64 ≤ (s.leadIn.getD ⟨e.now, 0⟩).emitted + s.framesPerPacket then some .addOverflow
          else none)
      else if e.leadInGap s queued predicted = -Nat.pow 2 63 then some .negOverflow else none := by
  unfold leadInFault
  rw [hpred]

/-- The two ways a lead-in step with a placed frame faults. -/
def LeadInFaults (e : Engine) (s : Session) (queued : Option Nat) (predicted : UInt64) : Fault → Prop
  | .negOverflow => e.leadInGap s queued predicted = -Nat.pow 2 63
  | .addOverflow =>
    samplesToFixed s.framesPerPacket s.sampleRate < e.leadInGap s queued predicted ∧
      Nat.pow 2 64 ≤ (s.leadIn.getD ⟨e.now, 0⟩).emitted + s.framesPerPacket
  | _ => False

theorem leadInFault_cases {e : Engine} {s : Session} {queued : Option Nat} {f : Fault}
    (hrate : s.reference.sampleRate ≠ 0) (h : e.leadInFault s queued = some f) :
    ∃ predicted, s.reference.predict s.buffer.readTs = .ok (some predicted) ∧
      e.LeadInFaults s queued predicted f := by
  cases hp : s.reference.predict s.buffer.readTs with
  | error f' => exact absurd hp (predict_ne_error hrate _ f')
  | ok r =>
    cases r with
    | none =>
      unfold leadInFault at h
      rw [hp] at h
      cases h
    | some predicted =>
      refine ⟨predicted, rfl, ?_⟩
      rw [leadInFault_of_predicted e queued hp] at h
      -- each branch that faults names its fault and the test that led there
      split_ifs at h with hsilence hcount hhalf
      · cases h
        exact ⟨hsilence, hcount⟩
      · cases h
        exact hhalf

/-! ## One pass -/

/-- A pass that faults takes a lead-in step, and the step is the one that faults. -/
theorem passFault_route {e : Engine} {f : Fault} (h : e.passFault = some f) :
    ∃ s₀ s, e.forwardVolume.session = some s₀ ∧ s.reference = s₀.reference ∧
      e.forwardVolume.nextStep e.forwardVolume.sink.delay =
        e.forwardVolume.leadInStep s e.forwardVolume.sink.delay ∧
      e.forwardVolume.leadInFault s e.forwardVolume.sink.delay = some f := by
  unfold passFault at h
  dsimp only at h
  cases hs : e.forwardVolume.session with
  | none =>
    rw [hs] at h
    cases h
  | some s₀ =>
    rw [hs] at h
    dsimp only at h
    by_cases hflush : s₀.flushPending = true
    · rw [if_pos hflush] at h
      cases h
    have hflush' : s₀.flushPending = false := by simpa using hflush
    rw [if_neg hflush] at h
    cases hphase : s₀.phase with
    | buffering =>
      rw [hphase] at h
      dsimp only at h
      by_cases hready : s₀.readyToSync = true
      · rw [if_pos hready] at h
        exact ⟨s₀, s₀.leadingIn e.forwardVolume.now 0, rfl, rfl,
          nextStep_buffering hs hphase hflush' hready e.forwardVolume.sink.delay, h⟩
      · rw [if_neg hready] at h
        cases h
    | synchronizing =>
      rw [hphase] at h
      dsimp only at h
      by_cases hready : s₀.readyToSync = true
      · rw [if_pos hready] at h
        exact ⟨s₀, s₀, rfl, rfl, nextStep_synchronizing hs hphase hflush' hready _, h⟩
      · rw [if_neg hready] at h
        cases h
    | playing =>
      rw [hphase] at h
      cases h

/-! ## Settling -/

/-- Settling runs passes of the live thread, and at most one pass it stops on. -/
theorem settleWithin_reachable (fuel : Nat) (e : Engine) :
    Relation.ReflTransGen Transition e (e.settleWithin fuel) := by
  induction fuel generalizing e with
  | zero => exact .refl
  | succ fuel ih =>
    unfold settleWithin
    split
    · exact .refl
    · rename_i hlive
      have hp : e.panicked = none := by simp at hlive; exact hlive.2
      split
      · rename_i f hf
        exact .single (.crash e hp hf)
      · rename_i hf
        split
        · rename_i e' heq
          have hpass : e.pass.2 = e' := by rw [heq]
          exact hpass ▸ .single (.pass e hp hf)
        · rename_i step e' _ heq
          have hpass : e.pass.2 = e' := by rw [heq]
          exact .head (hpass ▸ .pass e hp hf) (ih e')

/-- A running session whose next pass faults stops its thread there: settling ends on the fault. -/
theorem settleWithin_of_passFault {e : Engine} (hs : e.session.isSome = true) (hp : e.panicked = none)
    {f : Fault} (h : e.passFault = some f) (fuel : Nat) : e.settleWithin (fuel + 1) = e.crash f := by
  have hnone : e.session.isNone = false := by
    cases hse : e.session with
    | none =>
      rw [hse] at hs
      cases hs
    | some _ => rfl
  unfold settleWithin
  simp only [hnone, hp, h, Option.isSome_none, Bool.or_false, Bool.false_eq_true, if_false]

theorem eq_ok_of_isOk {ε α : Type} {r : Except ε α} (d : α) (h : r.isOk = true) :
    r = .ok (r.toOption.getD d) := by
  cases r with
  | ok a => rfl
  | error err => cases h

/-- A session started on a player, given a packet and anchored, is reached from that player. -/
theorem reachable_anchored (e₀ : Engine) (sc : SessionConfig) {seq : UInt16} {ts : UInt32} {payload : Bytes}
    (hput : ((e₀.start sc).2.put seq ts payload).isOk = true) (anchorTs : UInt32) (time : UInt64) :
    let e₁ := (e₀.start sc).2
    let p := (e₁.put seq ts payload).toOption.getD (none, e₁)
    Relation.ReflTransGen Transition e₀ (p.2.setAnchor anchorTs time) := by
  intro e₁ p
  exact .tail (.tail (.single (.start e₀ sc _))
    (@Transition.put e₁ seq ts payload p.1 p.2 (eq_ok_of_isOk (none, e₁) hput))) (.setAnchor p.2 anchorTs time)

/-! ## Half a turn late -/

/-- A player of 4-frame packets at 44.1 kHz with no latency and a clock reading `2^63`, which
takes the first packet at timestamp zero and anchors it at time zero. -/
theorem reachable_half_turn :
    let e₀ := Engine.create ⟨4, 1, 0, .disabled, 1, 0.0⟩ (Sink.create (.recorder false)) 9223372036854775808
    let e₁ := (e₀.start ⟨StreamParams.pcm 4 44100, some 0⟩).2
    let p := (e₁.put 0 0 [0, 1, 0, 2, 0, 3, 0, 4, 0, 5, 0, 6, 0, 7, 0, 8]).toOption.getD (none, e₁)
    Relation.ReflTransGen Transition e₀ (p.2.setAnchor 0 0) :=
  reachable_anchored _ _ (by decide) 0 0

/-- On every player reached from one without a session, a pass of playback that faults, and so
stops the playout thread, is a lead-in step on a frame its clock places. Either playback starts with the frame due
exactly `2^63` units behind the output, and the gap has no negation, or a frame of silence carries
the count of silent samples past `2^64 - 1`. -/
theorem pass_faults_only_at_lead_in {e₀ e : Engine} (hnone : e₀.session = none)
    (hreach : Relation.ReflTransGen Transition e₀ e) {f : Fault} (hf : e.passFault = some f) :
    let E := e.forwardVolume
    ∃ s predicted, E.nextStep E.sink.delay = E.leadInStep s E.sink.delay ∧
      s.reference.predict s.buffer.readTs = .ok (some predicted) ∧
      ((f = .negOverflow ∧ E.leadInGap s E.sink.delay predicted = -Nat.pow 2 63) ∨
       (f = .addOverflow ∧ samplesToFixed s.framesPerPacket s.sampleRate < E.leadInGap s E.sink.delay predicted ∧
          Nat.pow 2 64 ≤ (s.leadIn.getD ⟨E.now, 0⟩).emitted + s.framesPerPacket)) := by
  intro E
  obtain ⟨s₀, s, hs₀, href, hstep, hfault⟩ := passFault_route hf
  have hrate : s.reference.sampleRate ≠ 0 := by
    rw [href]
    exact rateSet_of_reachable hnone hreach s₀ ((forwardVolume_session e).symm.trans hs₀)
  obtain ⟨predicted, hpred, hcase⟩ := leadInFault_cases hrate hfault
  refine ⟨s, predicted, hstep, hpred, ?_⟩
  cases f with
  | negOverflow => exact .inl ⟨rfl, hcase⟩
  | addOverflow => exact .inr ⟨rfl, hcase⟩
  | _ => exact hcase.elim

/-- The player of `reachable_half_turn` faults on the negation of its gap. -/
theorem pass_faults_only_at_lead_in_half_turn :
    let e₀ := Engine.create ⟨4, 1, 0, .disabled, 1, 0.0⟩ (Sink.create (.recorder false)) 9223372036854775808
    let e₁ := (e₀.start ⟨StreamParams.pcm 4 44100, some 0⟩).2
    let p := (e₁.put 0 0 [0, 1, 0, 2, 0, 3, 0, 4, 0, 5, 0, 6, 0, 7, 0, 8]).toOption.getD (none, e₁)
    let e := p.2.setAnchor 0 0
    e₀.session = none ∧ Relation.ReflTransGen Transition e₀ e ∧ e.passFault = some .negOverflow ∧
      let E := e.forwardVolume
      ∃ s predicted, E.nextStep E.sink.delay = E.leadInStep s E.sink.delay ∧
        s.reference.predict s.buffer.readTs = .ok (some predicted) ∧
        ((Fault.negOverflow = .negOverflow ∧ E.leadInGap s E.sink.delay predicted = -Nat.pow 2 63) ∨
         (Fault.negOverflow = .addOverflow ∧
            samplesToFixed s.framesPerPacket s.sampleRate < E.leadInGap s E.sink.delay predicted ∧
            Nat.pow 2 64 ≤ (s.leadIn.getD ⟨E.now, 0⟩).emitted + s.framesPerPacket)) :=
  ⟨rfl, reachable_half_turn, by decide, pass_faults_only_at_lead_in rfl reachable_half_turn (by decide)⟩

/-- Validation admits the player of `reachable_half_turn`, yet its next pass starts playback with
the first frame due `2^63` units behind the output and negates the gap, which has no 64-bit value:
the playout thread stops on the fault with the session just entered into playing, and settling
never sees it idle. -/
theorem pass_negates_half_turn_gap :
    let e₀ := Engine.create ⟨4, 1, 0, .disabled, 1, 0.0⟩ (Sink.create (.recorder false)) 9223372036854775808
    let e₁ := (e₀.start ⟨StreamParams.pcm 4 44100, some 0⟩).2
    let p := (e₁.put 0 0 [0, 1, 0, 2, 0, 3, 0, 4, 0, 5, 0, 6, 0, 7, 0, 8]).toOption.getD (none, e₁)
    let e := p.2.setAnchor 0 0
    e₀.session = none ∧ Relation.ReflTransGen Transition e₀ e ∧ e.passFault = some .negOverflow ∧
      e.settle = e.crash .negOverflow ∧ e.settle.panicked = some .negOverflow ∧ e.settle.phase = some .playing := by
  intro e₀ e₁ p e
  have hsettle : e.settle = e.crash .negOverflow :=
    settleWithin_of_passFault (by decide) (by decide) (by decide) 3999999
  exact ⟨rfl, reachable_half_turn, by decide, hsettle, by rw [hsettle]; rfl, by rw [hsettle]; decide⟩

end Engine

end Playout
