import Playout.Proofs.Engine.Phases
import Mathlib.Data.Nat.Find

/-!
# The lead-in

On entering synchronization a session plays silence until its first frame is due: the
predicted local time of the frame at the read timestamp plus the session's latency. The clock
is 32.32 fixed point, the silence already sent is re-derived from a running sample count with a
truncating division, and the last partial gap is rounded half up to samples.

With a still clock and an output that reports no queue, the lead-in sends whole frames of silence
while more than a frame of the gap is left, then at most one last chunk, and starts playback on
the buffer as it was; the truncations do not accumulate, so the silence is within a sample of the
gap, and is exactly the latency when the first frame is predicted for now (`leadIn_timing`). A
first frame already due starts playback at once, past the frames whose time has gone by.

This needs bounds (`Session.TimingBounds`): a rate of at most `2^31`, where a unit of fixed point
is at most half a sample, and spans that neither overflow nor saturate. Above that rate the
rounding runs over (`leadIn_overshoots_above_two_pow_31`).
-/

namespace Playout

/-! ## Fixed-point spans -/

/-- `n` samples at `rate` as a span of 32.32 fixed point, exactly, truncated. -/
def fixedSpan (n rate : Nat) : Nat := n * Nat.pow 2 32 / rate

/-- A product below `2^94`, shifted down by 32 bits, fits a signed 64-bit word. -/
theorem pow_two_94 : Nat.pow 2 94 = 19807040628566084398385987584 := rfl

theorem fixedSpan_le (n rate : Nat) : fixedSpan n rate ≤ n * Nat.pow 2 32 := Nat.div_le_self _ _

/-- A span times the rate falls short of the samples' fixed-point measure by less than the rate. -/
theorem fixedSpan_spec (n : Nat) {rate : Nat} (hr : 0 < rate) :
    fixedSpan n rate * rate ≤ n * Nat.pow 2 32 ∧ n * Nat.pow 2 32 < fixedSpan n rate * rate + rate := by
  have hlt := Nat.lt_mul_div_succ (n * Nat.pow 2 32) hr
  rw [Nat.mul_add, Nat.mul_one, Nat.mul_comm rate] at hlt
  exact ⟨Nat.div_mul_le_self _ _, hlt⟩

/-- At most `2^32` samples a second, a sample lasts at least one unit of fixed point. -/
theorem le_fixedSpan (n : Nat) {rate : Nat} (hr : 0 < rate) (hmax : rate ≤ Nat.pow 2 32) :
    n ≤ fixedSpan n rate :=
  (Nat.le_div_iff_mul_le hr).mpr (Nat.mul_le_mul_left n hmax)

theorem fixedSpan_add_le (a b : Nat) {rate : Nat} (hr : 0 < rate) :
    fixedSpan (a + b) rate ≤ fixedSpan a rate + fixedSpan b rate + 1 := by
  unfold fixedSpan
  rw [Nat.add_mul, Nat.add_div hr]
  split <;> omega

theorem wrapSigned_of_mem {x : Int} (hlo : -Nat.pow 2 63 ≤ x) (hhi : x < Nat.pow 2 63) :
    wrapSigned 64 x = x := by
  have h1 : Nat.pow 2 (64 - 1) = Nat.pow 2 63 := rfl
  unfold wrapSigned signedOf
  rw [h1, pow_two_63, pow_two_64] at *
  split <;> omega

theorem samplesToFixed_of_lt {n : Nat} (rate : Nat) (hn : n < Nat.pow 2 31) :
    samplesToFixed n rate = fixedSpan n rate := by
  unfold samplesToFixed fixedSpan
  rw [wrapSigned_of_mem (by rw [pow_two_63, pow_two_32]; omega) (by rw [pow_two_63, pow_two_32]; rw [pow_two_31] at hn; omega)]
  rw [← Int.natCast_mul, ← Int.ofNat_tdiv]

theorem fixedToSamples_of_nonneg {g : Int} (rate : Nat) (hg : 0 ≤ g) (h : g * rate < Nat.pow 2 94) :
    fixedToSamples g rate = (g * rate + Nat.pow 2 31) / Nat.pow 2 32 := by
  unfold fixedToSamples
  have hprod : 0 ≤ g * rate := Int.mul_nonneg hg (Int.natCast_nonneg _)
  rw [pow_two_31, pow_two_32]
  rw [pow_two_94] at h
  apply wrapSigned_of_mem <;> rw [pow_two_63] <;> omega

theorem addSat_toNat {a b : UInt64} (h : a.toNat + b.toNat < Nat.pow 2 64) :
    (addSat a b).toNat = a.toNat + b.toNat := by
  rw [addSat, if_pos h, UInt64.toNat_add]
  rw [pow_two_64] at h
  omega

theorem signed64_sub {a b : UInt64} (hlo : -Nat.pow 2 63 ≤ (a.toNat : Int) - b.toNat)
    (hhi : (a.toNat : Int) - b.toNat < Nat.pow 2 63) : signed64 (a - b) = (a.toNat : Int) - b.toNat := by
  have h1 : Nat.pow 2 (64 - 1) = Nat.pow 2 63 := rfl
  have ha := a.toNat_lt
  have hb := b.toNat_lt
  unfold signed64 signedOf
  rw [UInt64.toNat_sub, h1, pow_two_63, pow_two_64] at *
  split <;> omega

theorem max_of_toNat_le {a b : UInt64} (h : a.toNat ≤ b.toNat) : max a b = b := by
  show (if a ≤ b then b else a) = b
  rw [if_pos (UInt64.le_iff_toNat_le.mpr h)]

/-- `K` whole frames of silence and then the rest of the gap `G` rounded to samples come within
half a sample before, or half a sample plus one unit of truncation per sample after, the gap. -/
theorem silence_within {K f rate : Nat} {G : Int} (hr : 0 < rate) (hg : (fixedSpan (K * f) rate : Int) ≤ G) :
    -Nat.pow 2 31 < ((K * f : Nat) + ((G - fixedSpan (K * f) rate) * rate + Nat.pow 2 31) / Nat.pow 2 32) *
        Nat.pow 2 32 - G * rate ∧
      ((K * f : Nat) + ((G - fixedSpan (K * f) rate) * rate + Nat.pow 2 31) / Nat.pow 2 32) * Nat.pow 2 32 -
        G * rate < rate + Nat.pow 2 31 := by
  obtain ⟨hlo, hhi⟩ := fixedSpan_spec (K * f) hr
  -- the gap is the whole frames' span and the rest
  have hsplit : G * rate = (fixedSpan (K * f) rate : Int) * rate + (G - fixedSpan (K * f) rate) * rate := by
    rw [← Int.add_mul]
    congr 1
    omega
  have hrest : 0 ≤ (G - fixedSpan (K * f) rate) * rate := Int.mul_nonneg (by omega) (by omega)
  rw [pow_two_32] at hlo hhi
  rw [pow_two_31, pow_two_32, hsplit]
  constructor <;> push_cast at hlo hhi ⊢ <;> omega

/-- Whole frames are cut off a gap `G ≥ 0` while more than a frame of it is left: the least count
`K` after which at most a frame is left cuts off no more than the gap. -/
theorem exists_wholeFrames {f rate : Nat} {G : Int} (hf : 0 < f) (hr : 0 < rate) (hmax : rate ≤ Nat.pow 2 32)
    (hG : 0 ≤ G) :
    ∃ K, (fixedSpan (K * f) rate : Int) ≤ G ∧ ¬ (fixedSpan f rate : Int) < G - fixedSpan (K * f) rate ∧
      ∀ j < K, (fixedSpan f rate : Int) < G - fixedSpan (j * f) rate := by
  -- a sample lasts at least a unit, so `G + 1` frames cut off more than the gap
  have hex : ∃ k, ¬ (fixedSpan f rate : Int) < G - fixedSpan (k * f) rate := by
    refine ⟨G.toNat + 1, ?_⟩
    have hspan := le_fixedSpan ((G.toNat + 1) * f) hr hmax
    have hmul : G.toNat + 1 ≤ (G.toNat + 1) * f := Nat.le_mul_of_pos_right _ hf
    omega
  have hbefore : ∀ j < Nat.find hex, (fixedSpan f rate : Int) < G - fixedSpan (j * f) rate :=
    fun j hj => Classical.not_not.mp (Nat.find_min hex hj)
  refine ⟨Nat.find hex, ?_, Nat.find_spec hex, hbefore⟩
  -- the count before the least one left more than a frame, and a frame more cuts off at most
  -- one unit beyond its span
  rcases Nat.eq_zero_or_pos (Nat.find hex) with hzero | hpos
  · rw [hzero, Nat.zero_mul]
    simp only [fixedSpan, Nat.zero_mul, Nat.zero_div, Int.natCast_zero]
    exact hG
  · obtain ⟨k, hk⟩ : ∃ k, Nat.find hex = k + 1 := ⟨Nat.find hex - 1, by omega⟩
    have hprev := hbefore k (by omega)
    have hadd := fixedSpan_add_le (k * f) f hr
    rw [hk, Nat.succ_mul]
    omega

theorem lastChunk_le {g : Int} {f rate : Nat} (hr : 0 < rate) (hg : 0 ≤ g) (hgf : g ≤ fixedSpan f rate) :
    ((g * rate + Nat.pow 2 31) / Nat.pow 2 32).toNat ≤ f := by
  have hgr : g * rate ≤ (fixedSpan f rate : Int) * rate := Int.mul_le_mul_of_nonneg_right hgf (Int.natCast_nonneg _)
  have hspec := (fixedSpan_spec f hr).1
  have hnonneg : 0 ≤ g * rate := Int.mul_nonneg hg (Int.natCast_nonneg _)
  have hspec' : (fixedSpan f rate : Int) * rate ≤ f * 4294967296 := by exact_mod_cast hspec

  rw [pow_two_31, pow_two_32]
  omega

theorem toNat_lastChunk {g : Int} (rate : Nat) (hg : 0 ≤ g) :
    (((g * rate + Nat.pow 2 31) / Nat.pow 2 32).toNat : Int) = (g * rate + Nat.pow 2 31) / Nat.pow 2 32 := by
  have hnonneg : 0 ≤ g * rate := Int.mul_nonneg hg (Int.natCast_nonneg _)
  rw [Int.toNat_of_nonneg]
  rw [pow_two_31, pow_two_32]
  omega

/-- Silence within those bounds of the span of `L` samples is exactly `L` samples, at rates up
to `2^31`, where a unit of truncation is at most half a sample. -/
theorem silence_eq_of_within {E L rate : Nat} (hr : 0 < rate) (hmax : rate ≤ Nat.pow 2 31)
    (hlo : -Nat.pow 2 31 < (E : Int) * Nat.pow 2 32 - fixedSpan L rate * rate)
    (hhi : (E : Int) * Nat.pow 2 32 - fixedSpan L rate * rate < rate + Nat.pow 2 31) : E = L := by
  have hspec := fixedSpan_spec L hr
  have hspec' : ((fixedSpan L rate : Int) * rate ≤ L * 4294967296) ∧
      ((L : Int) * 4294967296 < fixedSpan L rate * rate + rate) := by
    rw [pow_two_32] at hspec
    exact ⟨by exact_mod_cast hspec.1, by exact_mod_cast hspec.2⟩
  rw [pow_two_31] at hmax hlo hhi
  rw [pow_two_32] at hlo hhi
  omega

theorem lateFrames_eq {G : Int} (span : Nat) (hlo : -Nat.pow 2 63 < G) (hle : G ≤ 0) :
    ((wrapSigned 64 (-G)).tdiv span).toNat = (-G).toNat / span := by
  rw [wrapSigned_of_mem (by omega) (by omega)]
  have hnat : -G = ((-G).toNat : Int) := (Int.toNat_of_nonneg (by omega)).symm
  rw [hnat, ← Int.ofNat_tdiv, Int.toNat_natCast, Int.toNat_natCast]

/-! ## Skipping frames -/

namespace JitterBuffer

@[simp] theorem fill_setBuffering (b : JitterBuffer) (v : Bool) : (b.setBuffering v).fill = b.fill := rfl

theorem fill_advance {b : JitterBuffer} (h : b.fill ≠ 0) (ts : UInt32) : (b.advance ts).fill = b.fill - 1 := by
  have hs : b.synced = true := by
    by_contra hs
    exact h (fill_of_not_synced (by simpa using hs))
  have hpos : 0 ≤ Seq.diff b.read b.write := by
    simp only [fill, hs, if_true, ne_eq, Int.toNat_eq_zero, not_le] at h
    omega
  simp only [fill, advance_synced, hs, if_true, advance_read, advance_write]
  rw [Seq.diff_succ_left (by omega)]
  omega

theorem skipLoop_counts (b : JitterBuffer) (n k : Nat) :
    (b.skipLoop n k).1 = k + min n b.fill ∧ (b.skipLoop n k).2.fill = b.fill - min n b.fill := by
  induction n generalizing b k with
  | zero => simp [skipLoop]
  | succ n ih =>
    rw [skipLoop_succ]
    split
    · rename_i hempty
      simp [hempty]
    · rename_i hfill
      obtain ⟨hcount, hleft⟩ := ih (b.advance b.frameAt.ts) (k + 1)
      rw [fill_advance hfill] at hcount hleft
      exact ⟨by omega, by omega⟩

theorem skip_fst (b : JitterBuffer) (n : Nat) : (b.skip n).1 = min n b.fill := by
  show (b.skipLoop n 0).1 = _
  simpa using (skipLoop_counts b n 0).1

@[simp] theorem skip_zero (b : JitterBuffer) : (b.skip 0).2 = b := rfl

@[simp] theorem frameAt_setBuffering (b : JitterBuffer) (v : Bool) : (b.setBuffering v).frameAt = b.frameAt := rfl

theorem fill_skip (b : JitterBuffer) (n : Nat) : (b.skip n).2.fill = b.fill - min n b.fill := by
  rw [skip_snd]
  exact (skipLoop_counts b n 0).2

end JitterBuffer

/-! ## The lead-in of a session -/

namespace Session

/-- How far past `now` the first frame is due, in fixed point: its predicted local time plus
the session's latency, exactly. -/
def leadGap (s : Session) (predicted now : UInt64) : Int :=
  predicted.toNat + fixedSpan s.latency s.sampleRate - now.toNat

theorem leadGap_self (s : Session) (P : UInt64) : s.leadGap P P = fixedSpan s.latency s.sampleRate := by
  unfold leadGap
  omega

/-- The frames whose time has gone by when the first frame was due `-leadGap` ago: the time
past due over the span of a frame, rounded down. -/
def lateFrames (s : Session) (predicted now : UInt64) : Nat :=
  (-s.leadGap predicted now).toNat / fixedSpan s.framesPerPacket s.sampleRate

/-- The session in its lead-in, begun at `started`, with `emitted` samples of silence sent. -/
def leadingIn (s : Session) (started : UInt64) (emitted : Nat) : Session :=
  { s with phase := .synchronizing, leadIn := some ⟨started, emitted⟩ }

/-- The gap a lead-in step measures after `emitted` samples, as a signed word. -/
def stepGap (s : Session) (predicted started : UInt64) (emitted : Nat) : Int :=
  signed64 (addSat predicted (s.fixedOf s.latency) - max started (addSat started (s.fixedOf emitted)))

/-- The session as playback starts on it: playing, its buffer no longer buffering, the lead-in
and the rate correction begun afresh. -/
def playFrom (s : Session) : Session :=
  { s with
    phase := .playing, buffer := s.buffer.setBuffering false, leadIn := none, playedSinceSync := false
    corrector := s.corrector.reset }

@[simp] theorem leadingIn_readyToSync (s : Session) (started : UInt64) (emitted : Nat) :
    (s.leadingIn started emitted).readyToSync = s.readyToSync := rfl

theorem fixedOf_toNat (s : Session) {n : Nat} (hn : n < Nat.pow 2 31) :
    (s.fixedOf n).toNat = fixedSpan n s.sampleRate := by
  have hle := fixedSpan_le n s.sampleRate
  rw [Session.fixedOf, samplesToFixed_of_lt _ hn]
  simp only [UInt64.ofInt, UInt64.toNat_ofNat']
  rw [pow_two_32] at hle
  rw [pow_two_31] at hn
  omega

/-- The gap a step measures is the exact one, while nothing in it overflows or wraps. -/
theorem stepGap_eq (s : Session) {P N : UInt64} {M : Nat} (hL : s.latency < Nat.pow 2 31)
    (hM : M < Nat.pow 2 31) (htarget : P.toNat + fixedSpan s.latency s.sampleRate < Nat.pow 2 64)
    (hhorizon : N.toNat + fixedSpan M s.sampleRate < Nat.pow 2 64)
    (hlo : -Nat.pow 2 63 ≤ s.leadGap P N - fixedSpan M s.sampleRate)
    (hhi : s.leadGap P N - fixedSpan M s.sampleRate < Nat.pow 2 63) :
    s.stepGap P N M = s.leadGap P N - fixedSpan M s.sampleRate := by
  have htargetNat : (addSat P (s.fixedOf s.latency)).toNat = P.toNat + fixedSpan s.latency s.sampleRate := by
    rw [addSat_toNat] <;> rw [s.fixedOf_toNat hL]
    exact htarget
  have hhorizonNat : (addSat N (s.fixedOf M)).toNat = N.toNat + fixedSpan M s.sampleRate := by
    rw [addSat_toNat] <;> rw [s.fixedOf_toNat hM]
    exact hhorizon
  unfold stepGap
  rw [max_of_toNat_le (by omega), signed64_sub] <;> rw [htargetNat, hhorizonNat] <;> unfold leadGap at * <;>
    omega

/-- The ranges in which the lead-in's fixed-point arithmetic is exact: the latency and a
packet's frames shift into fixed point without overflow, the rate is at most `2^31`, the first
frame's due time fits in a word, and the gap to it is neither `2^63` units behind nor so far
ahead that the lead-in would reach `2^31` samples. -/
structure TimingBounds (s : Session) (predicted now : UInt64) : Prop where
  latency : s.latency < Nat.pow 2 31
  frames : 0 < s.framesPerPacket ∧ s.framesPerPacket < Nat.pow 2 31
  rate : 0 < s.sampleRate ∧ s.sampleRate ≤ Nat.pow 2 31
  target : predicted.toNat + fixedSpan s.latency s.sampleRate < Nat.pow 2 64
  behind : -Nat.pow 2 63 < s.leadGap predicted now
  ahead : (s.leadGap predicted now + 1) * s.sampleRate ≤ Nat.pow 2 63

theorem TimingBounds.leadGap_lt {s : Session} {P N : UInt64} (hb : s.TimingBounds P N) :
    s.leadGap P N < Nat.pow 2 63 := by
  have hr := hb.rate.1
  have hahead := hb.ahead
  by_cases hneg : s.leadGap P N < 0
  · rw [pow_two_63]; omega
  · have hle : 0 ≤ (s.leadGap P N + 1) * ((s.sampleRate : Int) - 1) := Int.mul_nonneg (by omega) (by omega)
    rw [Int.mul_sub, Int.mul_one] at hle
    rw [pow_two_63] at hahead ⊢
    omega

theorem TimingBounds.stepGap_eq {s : Session} {P N : UInt64} (hb : s.TimingBounds P N) {M : Nat}
    (hM : M = 0 ∨ (fixedSpan M s.sampleRate : Int) ≤ s.leadGap P N) :
    s.stepGap P N M = s.leadGap P N - fixedSpan M s.sampleRate := by
  have hlt := hb.leadGap_lt
  have hspec := fixedSpan_spec M hb.rate.1
  have hN : N.toNat < 18446744073709551616 := N.toNat_lt
  have hbehind := hb.behind
  have htarget := hb.target
  rcases hM with rfl | hle
  · have hzero : fixedSpan 0 s.sampleRate = 0 := by simp [fixedSpan]
    apply s.stepGap_eq hb.latency (by rw [pow_two_31]; omega) hb.target (by rw [hzero, pow_two_64]; omega)
      <;> rw [hzero] <;> omega
  · -- the emitted time lies within the gap, so it is short of `2^63` units and of the due time
    have hspan : (fixedSpan M s.sampleRate + 1) * s.sampleRate ≤ (s.leadGap P N + 1) * s.sampleRate :=
      Int.mul_le_mul_of_nonneg_right (by omega) (by omega)
    have hM : M < Nat.pow 2 31 := by
      have := hb.ahead
      rw [pow_two_31]
      rw [pow_two_32] at hspec
      rw [pow_two_63] at this
      rw [Int.add_mul, Int.one_mul] at hspan
      omega
    apply s.stepGap_eq hb.latency hM hb.target _ (by omega) (by omega)
    unfold leadGap at hle
    omega

end Session

theorem Sink.delay_play {k : Sink} {samples : List Int} {k' : Sink} (h : k.play samples = .ok k') :
    k'.delay = k.delay := by
  have hsame : k'.kind = k.kind ∧ k'.queued = k.queued := by
    unfold Sink.play at h
    split at h
    · cases h; exact ⟨rfl, rfl⟩
    · split at h
      · cases h
      · cases h; exact ⟨rfl, rfl⟩
    · cases h; exact ⟨rfl, rfl⟩
    · cases h; exact ⟨rfl, rfl⟩
    · cases h
  simp only [Sink.delay, hsame]

theorem Sink.delay_setVolume (k : Sink) (db : Float) : (k.setVolume db).delay = k.delay := by
  unfold Sink.setVolume
  split <;> rfl

namespace Engine

@[simp] theorem playOut_now (e : Engine) (samples : List Int) : (e.playOut samples).now = e.now := by
  unfold playOut
  split <;> rfl

@[simp] theorem playOut_delay (e : Engine) (samples : List Int) :
    (e.playOut samples).sink.delay = e.sink.delay := by
  unfold playOut
  split
  · rename_i k hplay
    exact Sink.delay_play hplay
  · rfl

@[simp] theorem forwardVolume_now (e : Engine) : e.forwardVolume.now = e.now := by
  unfold forwardVolume
  dsimp only
  split <;> rfl

@[simp] theorem forwardVolume_delay (e : Engine) : e.forwardVolume.sink.delay = e.sink.delay := by
  unfold forwardVolume
  dsimp only
  split
  · exact Sink.delay_setVolume _ _
  · rfl

@[simp] theorem forwardVolume_counters (e : Engine) : e.forwardVolume.counters = e.counters := by
  unfold forwardVolume
  dsimp only
  split <;> rfl

@[simp] theorem perform_silence_session (e : Engine) (n : Nat) :
    (e.perform (.silence n)).session = e.session := by
  simp only [perform, modifyCounters]
  unfold playOut
  split <;> rfl

@[simp] theorem perform_silence_now (e : Engine) (n : Nat) : (e.perform (.silence n)).now = e.now := by
  simp only [perform, modifyCounters]
  exact playOut_now e _

@[simp] theorem perform_silence_delay (e : Engine) (n : Nat) :
    (e.perform (.silence n)).sink.delay = e.sink.delay := by
  simp only [perform, modifyCounters]
  exact playOut_delay e _

theorem perform_silence_counted (e : Engine) (n : Nat) :
    (e.perform (.silence n)).counters.silenceSamples = e.counters.silenceSamples + n := by
  simp only [perform, modifyCounters]
  unfold playOut
  split <;> rfl

/-! ## One lead-in step -/

theorem nextStep_buffering {e : Engine} {s : Session} (hs : e.session = some s) (hphase : s.phase = .buffering)
    (hflush : s.flushPending = false) (hready : s.readyToSync = true) (queued : Option Nat) :
    e.nextStep queued = e.leadInStep (s.leadingIn e.now 0) queued := by
  unfold nextStep
  rw [hs]
  dsimp only
  rw [if_neg (by simp [hflush]), hphase]
  dsimp only
  rw [if_pos hready]
  rfl

theorem nextStep_synchronizing {e : Engine} {s : Session} (hs : e.session = some s)
    (hphase : s.phase = .synchronizing) (hflush : s.flushPending = false) (hready : s.readyToSync = true)
    (queued : Option Nat) : e.nextStep queued = e.leadInStep s queued := by
  unfold nextStep
  rw [hs]
  dsimp only
  rw [if_neg (by simp [hflush]), hphase]
  dsimp only
  rw [if_pos hready]

theorem nextStep_leadingIn {e : Engine} {s : Session} {N : UInt64} {M : Nat}
    (hs : e.session = some (s.leadingIn N M)) (hflush : s.flushPending = false) (hready : s.readyToSync = true)
    (queued : Option Nat) : e.nextStep queued = e.leadInStep (s.leadingIn N M) queued :=
  nextStep_synchronizing hs rfl hflush (by simpa using hready) queued

theorem enterPlaying_session (e : Engine) (S : Session) :
    (enterPlaying { e with session := some S }).session = some S.playFrom := rfl

/-- More than a frame before the due time: a frame of silence, counted into the lead-in. -/
theorem leadInDecide_chunk (e : Engine) (S : Session) (queued : Option Nat) {gap frameTime : Int}
    (h : frameTime < gap) :
    e.leadInDecide S queued gap frameTime =
      (.silence S.framesPerPacket, { e with session := some (S.noteEmitted S.framesPerPacket) }) := by
  unfold leadInDecide
  rw [if_pos h]

/-- Within a frame of the due time: playback starts after the rest of the gap in silence. -/
theorem leadInDecide_final (e : Engine) (S : Session) (queued : Option Nat) {gap frameTime : Int}
    (h : ¬ frameTime < gap) (hpos : 0 < gap) (hsamples : 0 < (fixedToSamples gap S.sampleRate).toNat) :
    e.leadInDecide S queued gap frameTime =
      (.silence (fixedToSamples gap S.sampleRate).toNat, enterPlaying { e with session := some S }) := by
  unfold leadInDecide
  rw [if_neg h]
  rw [if_pos hpos]
  dsimp only
  rw [if_pos hsamples]

/-- Within half a sample of the due time: playback starts at once. -/
theorem leadInDecide_due (e : Engine) (S : Session) (queued : Option Nat) {gap frameTime : Int}
    (h : ¬ frameTime < gap) (hpos : 0 < gap) (hsamples : (fixedToSamples gap S.sampleRate).toNat = 0) :
    e.leadInDecide S queued gap frameTime =
      (enterPlaying { e with session := some S }).playingStep S.playFrom queued := by
  unfold leadInDecide
  rw [if_neg h]
  rw [if_pos hpos]
  dsimp only
  rw [if_neg (by omega), enterPlaying_session]

/-- Past the due time: the frames whose time has gone are skipped, and playback starts. -/
theorem leadInDecide_late (e : Engine) (S : Session) (queued : Option Nat) {gap frameTime : Int}
    (h : ¬ frameTime < gap) (hle : gap ≤ 0) :
    ∃ (e' : Engine) (S' : Session),
      S'.buffer = (S.playFrom.buffer.skip ((wrapSigned 64 (-gap)).tdiv frameTime).toNat).2 ∧
      S'.playedSinceSync = false ∧ e.leadInDecide S queued gap frameTime = e'.playingStep S' queued := by
  unfold leadInDecide
  rw [if_neg h]
  rw [if_neg (by omega)]
  dsimp only
  by_cases hlate : 0 < ((wrapSigned 64 (-gap)).tdiv frameTime).toNat
  · rw [if_pos hlate]
    exact ⟨_, _, rfl, rfl, rfl⟩
  · -- nothing to skip: the buffer is the one playback starts with
    rw [if_neg hlate]
    have hzero : ((wrapSigned 64 (-gap)).tdiv frameTime).toNat = 0 := by omega
    rw [hzero]
    exact ⟨_, _, rfl, rfl, rfl⟩

theorem playingStep_first (e : Engine) {S : Session} (queued : Option Nat) (hplayed : S.playedSinceSync = false)
    (hfill : S.buffer.fill ≠ 0) : ∃ fill resends, (e.playingStep S queued).1 = .frame S.buffer.frameAt fill resends := by
  have hget := JitterBuffer.get_fst hfill
  unfold playingStep
  rw [if_neg (by simp [hplayed])]
  cases hg : S.buffer.get with
  | mk frame b =>
    rw [hg] at hget
    cases hget
    exact ⟨_, _, rfl⟩

theorem playingStep_empty (e : Engine) {S : Session} (queued : Option Nat) (hplayed : S.playedSinceSync = false)
    (hfill : S.buffer.fill = 0) : (e.playingStep S queued).1 = .idle := by
  unfold playingStep
  rw [if_neg (by simp [hplayed]), JitterBuffer.get_of_fill_eq_zero hfill]

/-! ## Passes of the lead-in -/

/-- An engine `emitted` samples into the lead-in of session `s`, begun at `started` on a clock
that has not moved since, with an output that reports no queue. -/
structure LeadingIn (s : Session) (started : UInt64) (emitted : Nat) (e : Engine) : Prop where
  /-- The lead-in is under way, or about to begin on a session still buffering. -/
  session : e.session = some (s.leadingIn started emitted) ∨
    (emitted = 0 ∧ e.session = some s ∧ s.phase = .buffering)
  now : e.now = started
  delay : e.sink.delay = none

theorem LeadingIn.forwardVolume {s : Session} {N : UInt64} {M : Nat} {e : Engine} (h : LeadingIn s N M e) :
    LeadingIn s N M e.forwardVolume :=
  ⟨by rw [forwardVolume_session]; exact h.session, (forwardVolume_now e).trans h.now,
    (forwardVolume_delay e).trans h.delay⟩

theorem LeadingIn.nextStep_eq {s : Session} {N : UInt64} {M : Nat} {e : Engine} (h : LeadingIn s N M e)
    (hflush : s.flushPending = false) (hready : s.readyToSync = true) :
    e.nextStep none = e.leadInStep (s.leadingIn N M) none := by
  rcases h.session with hs | ⟨rfl, hs, hphase⟩
  · exact nextStep_leadingIn hs hflush hready none
  · rw [nextStep_buffering hs hphase hflush hready, h.now]

theorem LeadingIn.pass_eq {s : Session} {N : UInt64} {M : Nat} {e : Engine} (h : LeadingIn s N M e)
    (hflush : s.flushPending = false) (hready : s.readyToSync = true) {P : UInt64}
    (hpred : s.reference.predict s.buffer.readTs = .ok (some P)) :
    e.pass = ((e.forwardVolume.leadInDecide (s.leadingIn N M) none (s.stepGap P N M)
        (samplesToFixed s.framesPerPacket s.sampleRate)).1,
      (e.forwardVolume.leadInDecide (s.leadingIn N M) none (s.stepGap P N M)
        (samplesToFixed s.framesPerPacket s.sampleRate)).2.perform
        (e.forwardVolume.leadInDecide (s.leadingIn N M) none (s.stepGap P N M)
          (samplesToFixed s.framesPerPacket s.sampleRate)).1) := by
  have hstep : e.forwardVolume.nextStep none = e.forwardVolume.leadInDecide (s.leadingIn N M) none
      (s.stepGap P N M) (samplesToFixed s.framesPerPacket s.sampleRate) := by
    have hpred' : (s.leadingIn N M).reference.predict (s.leadingIn N M).buffer.readTs = .ok (some P) := hpred
    rw [h.forwardVolume.nextStep_eq hflush hready, leadInStep_of_predicted _ _ hpred']
    simp only [Session.stepGap, leadInGap, h.forwardVolume.now]
    rfl
  unfold pass
  dsimp only
  rw [h.forwardVolume.delay, hstep]

/-- Far from the due time a pass sends a frame of silence and the lead-in goes on. -/
theorem LeadingIn.pass_chunk {s : Session} {N : UInt64} {M : Nat} {e : Engine} (h : LeadingIn s N M e)
    (hflush : s.flushPending = false) (hready : s.readyToSync = true) {P : UInt64}
    (hpred : s.reference.predict s.buffer.readTs = .ok (some P))
    (hchunk : samplesToFixed s.framesPerPacket s.sampleRate < s.stepGap P N M) :
    e.pass.1 = .silence s.framesPerPacket ∧ LeadingIn s N (M + s.framesPerPacket) e.pass.2 ∧
      e.pass.2.counters.silenceSamples = e.counters.silenceSamples + s.framesPerPacket := by
  rw [h.pass_eq hflush hready hpred, leadInDecide_chunk _ _ _ hchunk]
  refine ⟨rfl, ⟨.inl ?_, ?_, ?_⟩, ?_⟩
  · rw [perform_silence_session]
    rfl
  · rw [perform_silence_now]
    exact (forwardVolume_now e).trans h.now
  · rw [perform_silence_delay]
    exact (forwardVolume_delay e).trans h.delay
  · rw [perform_silence_counted]
    simp only [forwardVolume_counters]
    rfl

/-- Within a frame of the due time, and more than half a sample from it, a pass sends the rest
of the gap in silence and playback starts on the buffer as it was. -/
theorem LeadingIn.pass_final {s : Session} {N : UInt64} {M : Nat} {e : Engine} (h : LeadingIn s N M e)
    (hflush : s.flushPending = false) (hready : s.readyToSync = true) {P : UInt64}
    (hpred : s.reference.predict s.buffer.readTs = .ok (some P))
    (hdue : ¬ samplesToFixed s.framesPerPacket s.sampleRate < s.stepGap P N M) (hpos : 0 < s.stepGap P N M)
    (hsamples : 0 < (fixedToSamples (s.stepGap P N M) s.sampleRate).toNat) :
    e.pass.1 = .silence (fixedToSamples (s.stepGap P N M) s.sampleRate).toNat ∧
      e.pass.2.session = some (s.leadingIn N M).playFrom ∧
      e.pass.2.counters.silenceSamples =
        e.counters.silenceSamples + (fixedToSamples (s.stepGap P N M) s.sampleRate).toNat := by
  have hsamples' : 0 < (fixedToSamples (s.stepGap P N M) (s.leadingIn N M).sampleRate).toNat := hsamples
  rw [h.pass_eq hflush hready hpred, leadInDecide_final _ _ _ hdue hpos hsamples']
  refine ⟨rfl, ?_, ?_⟩
  · rw [perform_silence_session]
    rfl
  · rw [perform_silence_counted]
    simp only [enterPlaying, modifySession, modifyCounters, forwardVolume_counters]
    rfl

/-- Within half a sample of the due time, playback starts in the same pass on the buffer as it was. -/
theorem LeadingIn.pass_due {s : Session} {N : UInt64} {M : Nat} {e : Engine} (h : LeadingIn s N M e)
    (hflush : s.flushPending = false) (hready : s.readyToSync = true) {P : UInt64}
    (hpred : s.reference.predict s.buffer.readTs = .ok (some P))
    (hdue : ¬ samplesToFixed s.framesPerPacket s.sampleRate < s.stepGap P N M) (hpos : 0 < s.stepGap P N M)
    (hsamples : (fixedToSamples (s.stepGap P N M) s.sampleRate).toNat = 0) :
    ∃ e' : Engine, e.pass.1 = (e'.playingStep (s.leadingIn N M).playFrom none).1 := by
  have hsamples' : (fixedToSamples (s.stepGap P N M) (s.leadingIn N M).sampleRate).toNat = 0 := hsamples
  rw [h.pass_eq hflush hready hpred, leadInDecide_due _ _ _ hdue hpos hsamples']
  exact ⟨_, rfl⟩

/-- Past the due time, the pass skips the frames whose time has gone and playback starts. -/
theorem LeadingIn.pass_late {s : Session} {N : UInt64} {M : Nat} {e : Engine} (h : LeadingIn s N M e)
    (hflush : s.flushPending = false) (hready : s.readyToSync = true) {P : UInt64}
    (hpred : s.reference.predict s.buffer.readTs = .ok (some P))
    (hdue : ¬ samplesToFixed s.framesPerPacket s.sampleRate < s.stepGap P N M) (hle : s.stepGap P N M ≤ 0) :
    ∃ (e' : Engine) (S' : Session),
      S'.buffer = ((s.buffer.setBuffering false).skip
        ((wrapSigned 64 (-s.stepGap P N M)).tdiv (samplesToFixed s.framesPerPacket s.sampleRate)).toNat).2 ∧
      S'.playedSinceSync = false ∧ e.pass.1 = (e'.playingStep S' none).1 := by
  obtain ⟨e', S', hbuffer, hplayed, hdecide⟩ := leadInDecide_late e.forwardVolume (s.leadingIn N M) none hdue hle
  refine ⟨e', S', hbuffer, hplayed, ?_⟩
  rw [h.pass_eq hflush hready hpred, hdecide]

/-- The steps of `n` passes of playback, in order, and the engine after them. -/
def passes : Nat → Engine → List Step × Engine
  | 0, e => ([], e)
  | n + 1, e => (e.pass.1 :: (passes n e.pass.2).1, (passes n e.pass.2).2)

/-- While each step is more than a frame from the due time, the passes send frames of silence. -/
theorem LeadingIn.passes_chunks {s : Session} {N : UInt64} (hflush : s.flushPending = false)
    (hready : s.readyToSync = true) {P : UInt64} (hpred : s.reference.predict s.buffer.readTs = .ok (some P)) :
    ∀ (k M : Nat) (e : Engine), LeadingIn s N M e →
      (∀ j < k, samplesToFixed s.framesPerPacket s.sampleRate < s.stepGap P N (M + j * s.framesPerPacket)) →
      (passes k e).1 = List.replicate k (.silence s.framesPerPacket) ∧
        LeadingIn s N (M + k * s.framesPerPacket) (passes k e).2 ∧
        (passes k e).2.counters.silenceSamples = e.counters.silenceSamples + k * s.framesPerPacket := by
  intro k
  induction k with
  | zero =>
    intro M e h _
    exact ⟨rfl, by simpa [passes] using h, by simp [passes]⟩
  | succ k ih =>
    intro M e h hchunks
    obtain ⟨hstep, hnext, hcount⟩ := h.pass_chunk hflush hready hpred (by simpa using hchunks 0 (by omega))
    -- the remaining passes start one frame further into the lead-in
    obtain ⟨hsteps, hlast, hcounts⟩ := ih (M + s.framesPerPacket) e.pass.2 hnext fun j hj => by
      have := hchunks (j + 1) (by omega)
      rwa [show M + (j + 1) * s.framesPerPacket = M + s.framesPerPacket + j * s.framesPerPacket by
        rw [Nat.add_mul]; omega] at this
    refine ⟨?_, ?_, ?_⟩
    · simp only [passes, hstep, hsteps, List.replicate_succ]
    · have hM : M + s.framesPerPacket + k * s.framesPerPacket = M + (k + 1) * s.framesPerPacket := by
        rw [Nat.add_mul]; omega
      simpa only [passes, hM] using hlast
    · simp only [passes, hcounts, hcount, Nat.add_mul]
      omega

/-- The last pass of a lead-in on a still clock, once at most a frame of the gap is left: the
rest of the gap, rounded half up to `m` samples, goes out in silence and playback starts on the
buffer as it was, or, where it rounds to nothing, playback starts at once on the first frame. -/
theorem LeadingIn.pass_last {s : Session} {N : UInt64} {M : Nat} {e : Engine} (h : LeadingIn s N M e)
    (hflush : s.flushPending = false) (hready : s.readyToSync = true) {P : UInt64}
    (hpred : s.reference.predict s.buffer.readTs = .ok (some P)) (hb : s.TimingBounds P N)
    (hleft : (fixedSpan M s.sampleRate : Int) ≤ s.leadGap P N)
    (hK : ¬ (fixedSpan s.framesPerPacket s.sampleRate : Int) < s.leadGap P N - fixedSpan M s.sampleRate)
    {m : Nat} (hm : m = (((s.leadGap P N - fixedSpan M s.sampleRate) * s.sampleRate + Nat.pow 2 31) /
      Nat.pow 2 32).toNat) :
    (0 < m ∧ e.pass.1 = .silence m ∧ e.pass.2.counters.silenceSamples = e.counters.silenceSamples + m ∧
        ∃ s', e.pass.2.session = some s' ∧ s'.phase = .playing ∧ s'.buffer = s.buffer.setBuffering false) ∨
      (m = 0 ∧ ∃ fill resends, e.pass.1 = .frame s.buffer.frameAt fill resends) := by
  have hstep : s.stepGap P N M = s.leadGap P N - fixedSpan M s.sampleRate := hb.stepGap_eq (.inr hleft)
  have hdue : ¬ samplesToFixed s.framesPerPacket s.sampleRate < s.stepGap P N M := by
    rw [samplesToFixed_of_lt _ hb.frames.2, hstep]
    exact hK
  have hfill : s.buffer.fill ≠ 0 := by
    simp only [Session.readyToSync, Bool.and_eq_true, decide_eq_true_eq] at hready
    exact Nat.pos_iff_ne_zero.mp hready.1.2
  -- the rest of the gap is short of the whole gap, so rounding it to samples does not wrap
  have hbelow : (s.leadGap P N - fixedSpan M s.sampleRate) * s.sampleRate < Nat.pow 2 94 := by
    have hle : (s.leadGap P N - fixedSpan M s.sampleRate) * s.sampleRate ≤ s.leadGap P N * s.sampleRate :=
      Int.mul_le_mul_of_nonneg_right (by omega) (by omega)
    have hahead := hb.ahead
    rw [Int.add_mul, Int.one_mul, pow_two_63] at hahead
    rw [pow_two_94]
    omega
  have hsamples : (fixedToSamples (s.stepGap P N M) s.sampleRate).toNat = m := by
    rw [hm, hstep, fixedToSamples_of_nonneg _ (by omega) hbelow]
  by_cases hgpos : 0 < s.stepGap P N M
  · by_cases hmpos : 0 < m
    · obtain ⟨hpass, hsession, hsilence⟩ := h.pass_final hflush hready hpred hdue hgpos (hsamples ▸ hmpos)
      rw [hsamples] at hpass hsilence
      exact .inl ⟨hmpos, hpass, hsilence, _, hsession, rfl, rfl⟩
    · have hm0 : m = 0 := Nat.eq_zero_of_not_pos hmpos
      obtain ⟨e', hpass⟩ := h.pass_due hflush hready hpred hdue hgpos (hsamples.trans hm0)
      obtain ⟨fill, resends, hframe⟩ := playingStep_first (S := (s.leadingIn N M).playFrom) e' none rfl hfill
      exact .inr ⟨hm0, fill, resends, hpass.trans hframe⟩
  · -- the whole frames ended exactly on the due time: nothing is late, nothing is skipped
    have hzero : s.stepGap P N M = 0 := Int.le_antisymm (Int.not_lt.mp hgpos) (by omega)
    have hm0 : m = 0 := by
      rw [hm, ← hstep, hzero, Int.zero_mul, Int.zero_add, pow_two_31, pow_two_32]
      decide
    obtain ⟨e', S', hbuffer, hplayed, hpass⟩ := h.pass_late hflush hready hpred hdue (Int.le_of_eq hzero)
    have hunskipped : S'.buffer = s.buffer.setBuffering false := by
      rw [hbuffer, hzero, Int.neg_zero, wrapSigned_of_mem (by decide) (by decide), Int.zero_tdiv]
      exact JitterBuffer.skip_zero _
    obtain ⟨fill, resends, hframe⟩ := playingStep_first e' none hplayed (by rw [hunskipped]; exact hfill)
    rw [hunskipped, JitterBuffer.frameAt_setBuffering] at hframe
    exact .inr ⟨hm0, fill, resends, hpass.trans hframe⟩

/-! ## The lead-in from start to playback -/

/-- A lead-in whose first frame is due ahead of now sends whole frames of silence while more
than a frame remains, then at most one last chunk of at most a frame, and playback starts on the
buffer as it was; the silence comes within a sample of the gap. -/
theorem leadIn_ahead {e : Engine} {s : Session} {P : UInt64} (hs : e.session = some s)
    (hphase : s.phase = .buffering) (hflush : s.flushPending = false) (hready : s.readyToSync = true)
    (hdelay : e.sink.delay = none) (hpred : s.reference.predict s.buffer.readTs = .ok (some P))
    (hb : s.TimingBounds P e.now) (hpos : 0 < s.leadGap P e.now) :
    ∃ K m, m ≤ s.framesPerPacket ∧
      (passes K e).1 = List.replicate K (.silence s.framesPerPacket) ∧
      (passes K e).2.counters.silenceSamples = e.counters.silenceSamples + K * s.framesPerPacket ∧
      -Nat.pow 2 31 < ((K * s.framesPerPacket + m : Nat) : Int) * Nat.pow 2 32 - s.leadGap P e.now * s.sampleRate ∧
      ((K * s.framesPerPacket + m : Nat) : Int) * Nat.pow 2 32 - s.leadGap P e.now * s.sampleRate <
        s.sampleRate + Nat.pow 2 31 ∧
      ((0 < m ∧ (passes K e).2.pass.1 = .silence m ∧
          (passes K e).2.pass.2.counters.silenceSamples = (passes K e).2.counters.silenceSamples + m ∧
          ∃ s', (passes K e).2.pass.2.session = some s' ∧ s'.phase = .playing ∧
            s'.buffer = s.buffer.setBuffering false) ∨
        (m = 0 ∧ ∃ fill resends, (passes K e).2.pass.1 = .frame s.buffer.frameAt fill resends)) := by
  have hstart : LeadingIn s e.now 0 e := ⟨.inr ⟨rfl, hs, hphase⟩, rfl, hdelay⟩
  have hft : samplesToFixed s.framesPerPacket s.sampleRate = fixedSpan s.framesPerPacket s.sampleRate :=
    samplesToFixed_of_lt _ hb.frames.2
  have hmax : s.sampleRate ≤ Nat.pow 2 32 := Nat.le_trans hb.rate.2 (by decide)
  obtain ⟨K, hleft, hK, hbefore⟩ := exists_wholeFrames hb.frames.1 hb.rate.1 hmax (Int.le_of_lt hpos)
  -- the passes before the last send whole frames of silence
  obtain ⟨hsteps, hlead, hcount⟩ := LeadingIn.passes_chunks hflush hready hpred K 0 e hstart fun j hj => by
    have hj' := hbefore j hj
    rw [hft, Nat.zero_add, hb.stepGap_eq (.inr (by omega))]
    exact hj'
  rw [Nat.zero_add] at hlead
  -- the rest of the gap, rounded to samples, is the last chunk
  obtain ⟨hwithinLo, hwithinHi⟩ := silence_within hb.rate.1 hleft
  have hg0 : 0 ≤ s.leadGap P e.now - fixedSpan (K * s.framesPerPacket) s.sampleRate := Int.sub_nonneg.mpr hleft
  set m := (((s.leadGap P e.now - fixedSpan (K * s.framesPerPacket) s.sampleRate) * s.sampleRate +
    Nat.pow 2 31) / Nat.pow 2 32).toNat with hm
  have hmInt : (m : Int) = ((s.leadGap P e.now - fixedSpan (K * s.framesPerPacket) s.sampleRate) *
      s.sampleRate + Nat.pow 2 31) / Nat.pow 2 32 := toNat_lastChunk _ hg0
  refine ⟨K, m, lastChunk_le hb.rate.1 hg0 (by omega), hsteps, hcount, ?_, ?_,
    hlead.pass_last hflush hready hpred hb hleft hK hm⟩
  · push_cast
    rw [hmInt]
    exact hwithinLo
  · push_cast
    rw [hmInt]
    exact hwithinHi

/-- A lead-in whose first frame is already due sends no silence: playback starts in the first
pass, past the frames whose time has gone by, and plays the next frame if one is left. -/
theorem leadIn_behind {e : Engine} {s : Session} {P : UInt64} (hs : e.session = some s)
    (hphase : s.phase = .buffering) (hflush : s.flushPending = false) (hready : s.readyToSync = true)
    (hdelay : e.sink.delay = none) (hpred : s.reference.predict s.buffer.readTs = .ok (some P))
    (hb : s.TimingBounds P e.now) (hle : s.leadGap P e.now ≤ 0) :
    ((s.buffer.setBuffering false).skip (s.lateFrames P e.now)).1 = min (s.lateFrames P e.now) s.buffer.fill ∧
      (s.lateFrames P e.now < s.buffer.fill → ∃ fill resends,
        e.pass.1 = .frame ((s.buffer.setBuffering false).skip (s.lateFrames P e.now)).2.frameAt fill resends) ∧
      (s.buffer.fill ≤ s.lateFrames P e.now → e.pass.1 = .idle) := by
  have hstart : LeadingIn s e.now 0 e := ⟨.inr ⟨rfl, hs, hphase⟩, rfl, hdelay⟩
  have hft : samplesToFixed s.framesPerPacket s.sampleRate = fixedSpan s.framesPerPacket s.sampleRate :=
    samplesToFixed_of_lt _ hb.frames.2
  have hgap : s.stepGap P e.now 0 = s.leadGap P e.now := by
    simpa [fixedSpan] using hb.stepGap_eq (M := 0) (.inl rfl)
  have hdue : ¬ samplesToFixed s.framesPerPacket s.sampleRate < s.stepGap P e.now 0 := by
    rw [hft, hgap]
    exact Int.not_lt.mpr (Int.le_trans hle (Int.natCast_nonneg _))
  obtain ⟨e', S', hbuffer, hplayed, hpass⟩ := hstart.pass_late hflush hready hpred hdue (by rw [hgap]; exact hle)
  rw [hgap, hft, lateFrames_eq _ hb.behind hle] at hbuffer
  -- the buffer playback starts on is the one past the late frames
  have hleft : S'.buffer.fill = s.buffer.fill - min (s.lateFrames P e.now) s.buffer.fill := by
    rw [hbuffer, JitterBuffer.fill_skip, JitterBuffer.fill_setBuffering]
    rfl
  refine ⟨?_, fun hlt => ?_, fun hge => ?_⟩
  · rw [JitterBuffer.skip_fst, JitterBuffer.fill_setBuffering]
  · obtain ⟨fill, resends, hframe⟩ := playingStep_first e' none hplayed (by rw [hleft]; omega)
    rw [hbuffer] at hframe
    exact ⟨fill, resends, hpass.trans hframe⟩
  · rw [hpass]
    exact playingStep_empty e' none hplayed (by rw [hleft]; omega)

/-- The lead-in timing law. A session that starts its lead-in on a still clock, with an output
that reports no queue, and its first frame due a gap `G = leadGap` ahead: if `G > 0`, whole
frames of silence go out while more than a frame is left, then at most one last chunk of at most
a frame, and playback starts on the buffer as it was; the `E` samples of silence lie within a
sample of `G` (in samples, `G * rate / 2^32`), and are exactly the latency when the first frame is
predicted for now. If `G ≤ 0`, no silence goes out: playback starts at once past the frames whose
time has gone by. -/
theorem leadIn_timing {e : Engine} {s : Session} {P : UInt64} (hs : e.session = some s)
    (hphase : s.phase = .buffering) (hflush : s.flushPending = false) (hready : s.readyToSync = true)
    (hdelay : e.sink.delay = none) (hpred : s.reference.predict s.buffer.readTs = .ok (some P))
    (hb : s.TimingBounds P e.now) :
    (0 < s.leadGap P e.now → ∃ K m, m ≤ s.framesPerPacket ∧
      (passes K e).1 = List.replicate K (.silence s.framesPerPacket) ∧
      (passes K e).2.counters.silenceSamples = e.counters.silenceSamples + K * s.framesPerPacket ∧
      -Nat.pow 2 31 < ((K * s.framesPerPacket + m : Nat) : Int) * Nat.pow 2 32 - s.leadGap P e.now * s.sampleRate ∧
      ((K * s.framesPerPacket + m : Nat) : Int) * Nat.pow 2 32 - s.leadGap P e.now * s.sampleRate <
        s.sampleRate + Nat.pow 2 31 ∧
      (P = e.now → K * s.framesPerPacket + m = s.latency) ∧
      ((0 < m ∧ (passes K e).2.pass.1 = .silence m ∧
          (passes K e).2.pass.2.counters.silenceSamples = (passes K e).2.counters.silenceSamples + m ∧
          ∃ s', (passes K e).2.pass.2.session = some s' ∧ s'.phase = .playing ∧
            s'.buffer = s.buffer.setBuffering false) ∨
        (m = 0 ∧ ∃ fill resends, (passes K e).2.pass.1 = .frame s.buffer.frameAt fill resends))) ∧
    (s.leadGap P e.now ≤ 0 →
      ((s.buffer.setBuffering false).skip (s.lateFrames P e.now)).1 = min (s.lateFrames P e.now) s.buffer.fill ∧
      (s.lateFrames P e.now < s.buffer.fill → ∃ fill resends,
        e.pass.1 = .frame ((s.buffer.setBuffering false).skip (s.lateFrames P e.now)).2.frameAt fill resends) ∧
      (s.buffer.fill ≤ s.lateFrames P e.now → e.pass.1 = .idle)) := by
  refine ⟨fun hpos => ?_, leadIn_behind hs hphase hflush hready hdelay hpred hb⟩
  obtain ⟨K, m, hmf, hsteps, hcount, hlo, hhi, hlast⟩ := leadIn_ahead hs hphase hflush hready hdelay hpred hb hpos
  refine ⟨K, m, hmf, hsteps, hcount, hlo, hhi, fun hnow => ?_, hlast⟩
  -- predicted for now, the gap is the latency's span, and the silence rounds back to the latency
  rw [← hnow, Session.leadGap_self] at hlo hhi
  exact silence_eq_of_within hb.rate.1 hb.rate.2 hlo hhi

/-- An engine on a clock stopped at 0 whose session, of `frames` frames a packet at `rate` and a
latency of `latency` samples, holds one packet of silence at sequence 0 and timestamp 0 and is
anchored there, so that its first frame is predicted for now. -/
def anchoredAtZero (frames rate latency : UInt32) : Engine :=
  let config : PlayoutConfig :=
    { bufferCapacity := 4, startFill := 1, defaultLatency := 100, rateCorrection := .disabled,
      maxResendSpan := 1 }
  let e₀ := Engine.create config (Sink.create (.recorder false)) 0
  let e₁ := (e₀.start ⟨StreamParams.pcm frames rate, some latency⟩).2
  let e₂ := match e₁.put 0 0 (List.replicate (4 * frames.toNat) 0) with
    | .ok (_, e) => e
    | .error _ => e₁
  e₂.setAnchor 0 0

set_option maxRecDepth 10000 in
/-- At 44100 Hz, a latency of 100 samples with the first frame due now is led in with exactly
100 samples of silence, in frames of 5 and at most one last chunk. -/
theorem leadIn_latency_at_cd_rate :
    ∃ K m, K * 5 + m = 100 ∧ m ≤ 5 ∧ (passes K (anchoredAtZero 5 44100 100)).1 = List.replicate K (.silence 5) := by
  have hsome : (anchoredAtZero 5 44100 100).session.isSome := by decide +kernel
  obtain ⟨hahead, -⟩ := leadIn_timing (s := (anchoredAtZero 5 44100 100).session.getD default) (P := 0)
    (Option.getD_of_ne_none (Option.ne_none_iff_isSome.mpr hsome) default).symm (by decide +kernel) (by decide +kernel) (by decide +kernel) (by decide +kernel)
    (by decide +kernel)
    ⟨by decide +kernel, by decide +kernel, by decide +kernel, by decide +kernel, by decide +kernel,
      by decide +kernel⟩
  have hframes : ((anchoredAtZero 5 44100 100).session.getD default).framesPerPacket = 5 := by decide +kernel
  have hlatency : ((anchoredAtZero 5 44100 100).session.getD default).latency = 100 := by decide +kernel
  obtain ⟨K, m, hmf, hsteps, -, -, -, hexact, -⟩ := hahead (by decide +kernel)
  rw [hframes] at hmf hsteps hexact
  exact ⟨K, m, hlatency ▸ hexact (by decide +kernel), hmf, hsteps⟩

/-- The frames of silence a step sends, if it is lead-in silence. -/
def Step.silenceFrames : Step → Option Nat
  | .silence n => some n
  | _ => none

set_option maxRecDepth 10000 in
/-- Above a rate of 2^31 a unit of fixed point is more than half a sample and the rounding of
the lead-in runs over: at 3221225472 Hz a latency of 6 samples, with the first frame due now, is
led in with a frame of 5 and a last chunk of 2, 7 samples of silence, before the first frame. -/
theorem leadIn_overshoots_above_two_pow_31 :
    (anchoredAtZero 5 3221225472 6).session.map (fun s => (s.latency, s.sampleRate)) = some (6, 3221225472) ∧
      (passes 3 (anchoredAtZero 5 3221225472 6)).1.map Step.silenceFrames = [some 5, some 2, none] ∧
      (passes 3 (anchoredAtZero 5 3221225472 6)).2.counters.silenceSamples = 7 := by
  refine ⟨by decide +kernel, by decide +kernel, by decide +kernel⟩

end Engine

end Playout
