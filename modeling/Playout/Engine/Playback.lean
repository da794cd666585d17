import Playout.Engine.Basic

/-!
# Playback

The consumer side of the player, one pass at a time. Each pass first hands a pending
hardware volume to the output, then reads the output's queue and takes one step:

* a pending flush is passed on to the output;
* while buffering, playback waits for a synced buffer with data and an anchor, then starts
  the lead-in;
* during the lead-in, the first frame's due time (its predicted local time plus the
  latency) is compared with the time the output will reach: while more than a frame
  away, one frame of silence goes out; otherwise playback starts, after a last partial
  silence, or after skipping the frames whose time has already passed;
* while playing, an output that ran dry after a frame was played is an underrun, which
  resets the buffer; otherwise the next frame is rate-corrected, scaled and played.

A pass that finds nothing to do is idle; playback settles by running passes until one is, or
until its thread stops on a fault.
-/

namespace Playout

/-- What one pass does. -/
inductive Step where
  | idle
  | flushed
  | underrun
  /-- Lead-in silence of this many frames. -/
  | silence (frames : Nat)
  /-- A frame, the fill left behind it, and retransmissions to ask for. -/
  | frame (f : Frame) (fill : Nat) (resends : List SeqRange)
deriving Repr, DecidableEq, Inhabited

/-- Addition that stops at the largest word. -/
def addSat (a b : UInt64) : UInt64 :=
  if a.toNat + b.toNat < Nat.pow 2 64 then a + b else UInt64.ofNat (Nat.pow 2 64 - 1)

namespace Session

/-- A synced buffer with data and an anchored reference clock. -/
def readyToSync (s : Session) : Bool :=
  s.buffer.synced && 0 < s.buffer.fill && s.reference.isAnchored

/-- A duration of `samples` at the session's rate in fixed point, as a word. -/
def fixedOf (s : Session) (samples : Nat) : UInt64 :=
  UInt64.ofInt (samplesToFixed samples s.sampleRate)

def noteEmitted (s : Session) (frames : Nat) : Session :=
  { s with leadIn := s.leadIn.map fun l => { l with emitted := l.emitted + frames } }

end Session

namespace Engine

/-- Playback starts: the buffer stops waiting, the rate correction starts afresh. -/
def enterPlaying (e : Engine) : Engine :=
  (e.modifySession fun s =>
    { s with
      phase := .playing, buffer := s.buffer.setBuffering false, leadIn := none
      playedSinceSync := false, corrector := s.corrector.reset }).modifyCounters
    fun c => { c with rate := 1.0 }

/-- The playing step: an underrun, the next frame, or nothing. -/
def playingStep (e : Engine) (s : Session) (queued : Option Nat) : Step × Engine :=
  if s.playedSinceSync && queued == some 0 then
    (.underrun,
      { e with
        session := some { s with buffer := s.buffer.reset, phase := .buffering }
        counters := { e.counters with underruns := e.counters.underruns + 1 } })
  else
    match s.buffer.get with
    | (some f, b) =>
      let (resends, b) := b.takeResends
      (.frame f b.fill resends, { e with session := some { s with buffer := b } })
    | (none, b) => (.idle, { e with session := some { s with buffer := b } })

/-- How far the first frame's due time (its predicted time plus the latency) lies beyond the time
the output will reach: the output's queue past now, or the lead-in silence already sent. -/
def leadInGap (e : Engine) (s : Session) (queued : Option Nat) (predicted : UInt64) : Int :=
  let target := addSat predicted (s.fixedOf s.latency)
  let now := e.now
  let lead := s.leadIn.getD ⟨now, 0⟩
  let horizon := match queued with
    | some frames => addSat now (s.fixedOf frames)
    | none => max now (addSat lead.started (s.fixedOf lead.emitted))
  signed64 (target - horizon)

/-- The end of a lead-in step, with the gap to the due time and the span of a frame: a frame of
silence while more than a frame away, and otherwise playback starts, after the rest of the gap
in silence, or past the frames whose time has gone. -/
def leadInDecide (e : Engine) (s : Session) (queued : Option Nat) (gap frameTime : Int) : Step × Engine :=
  if frameTime < gap then
    (.silence s.framesPerPacket, { e with session := some (s.noteEmitted s.framesPerPacket) })
  else
    let e := enterPlaying { e with session := some s }
    let continuePlaying (e : Engine) : Step × Engine :=
      match e.session with
      | some s => playingStep e s queued
      | none => (.idle, e)
    if 0 < gap then
      let samples := (fixedToSamples gap s.sampleRate).toNat
      if 0 < samples then (.silence samples, e) else continuePlaying e
    else
      let late := (Int.tdiv (wrapSigned 64 (-gap)) frameTime).toNat
      let e := if 0 < late then e.modifySession fun s => { s with buffer := (s.buffer.skip late).2 } else e
      continuePlaying e

/-- One lead-in step of the running session `s`; it waits while the clock cannot place the
frame. -/
def leadInStep (e : Engine) (s : Session) (queued : Option Nat) : Step × Engine :=
  match s.reference.predict s.buffer.readTs with
  | .ok (some predicted) =>
    e.leadInDecide { s with leadIn := some (s.leadIn.getD ⟨e.now, 0⟩) } queued (e.leadInGap s queued predicted)
      (samplesToFixed s.framesPerPacket s.sampleRate)
  | _ => (.idle, { e with session := some s })

/-- Decides the next step with the output reporting `queued` frames. -/
def nextStep (e : Engine) (queued : Option Nat) : Step × Engine :=
  match e.session with
  | none => (.idle, e)
  | some s =>
    if s.flushPending then (.flushed, { e with session := some { s with flushPending := false } })
    else match s.phase with
      | .buffering =>
        if s.readyToSync then
          leadInStep e { s with phase := .synchronizing, leadIn := some ⟨e.now, 0⟩ } queued
        else (.idle, e)
      | .synchronizing =>
        if s.readyToSync then leadInStep e s queued
        else (.idle, { e with session := some { s with phase := .buffering, leadIn := none } })
      | .playing => playingStep e s queued

/-- Plays a block, counting a refusal. -/
def playOut (e : Engine) (samples : List Int) : Engine :=
  match e.sink.play samples with
  | .ok sink => { e with sink }
  | .error _ => e.modifyCounters fun c => { c with sinkErrors := c.sinkErrors + 1 }

/-- Plays a frame: the corrector reads the fill and may insert or drop a pair, then the
frame is scaled to the software volume. -/
def playFrame (e : Engine) (f : Frame) (fill : Nat) : Engine :=
  match e.session with
  | none => e
  | some s =>
    let (stuff, corrector) := s.corrector.correction fill
    let e := e.modifyCounters fun c =>
      { c with
        rate := corrector.playbackRate
        samplesInserted := c.samplesInserted + (if stuff = 1 then 1 else 0)
        samplesDeleted := c.samplesDeleted + (if stuff = -1 then 1 else 0) }
    let (out, stuffer) := s.stuffer.apply f.pcm stuff e.volume.fixed
    let e := playOut { e with session := some { s with corrector, stuffer } } out
    let e := e.modifyCounters fun c => { c with framesPlayed := c.framesPlayed + 1 }
    e.modifySession fun s => { s with playedSinceSync := true }

/-- Carries out a step. -/
def perform (e : Engine) : Step → Engine
  | .idle => e
  | .flushed =>
    { e with sink := e.sink.flush }.modifySession fun s =>
      { s with leadIn := none, playedSinceSync := false }
  | .underrun => e.modifySession fun s => { s with leadIn := none, playedSinceSync := false }
  | .silence frames =>
    (playOut e (List.replicate (2 * frames) 0)).modifyCounters fun c =>
      { c with silenceSamples := c.silenceSamples + frames }
  | .frame f fill resends =>
    playFrame (e.request resends) f fill

/-- Hands a pending hardware volume to the output. -/
def forwardVolume (e : Engine) : Engine :=
  let (pending, volume) := e.volume.takeHardwareUpdate
  let e := { e with volume }
  match pending with
  | some db => { e with sink := e.sink.setVolume db }
  | none => e

/-- One pass of playback. -/
def pass (e : Engine) : Step × Engine :=
  let e := e.forwardVolume
  let (step, e) := e.nextStep e.sink.delay
  (step, e.perform step)

/-! ## Faults of a pass

`leadInStep` carries out its arithmetic on integers; two of its operations have no result on the
words of the player. Playback that starts with the first frame's due time exactly `2^63` units
behind the output negates the smallest 64-bit word, and a frame of silence adds its samples to a
64-bit count of the silence sent. The playout thread stops there; the player goes on answering
its caller, and no pass runs again. -/

/-- The fault a lead-in step of the running session `s` stops on, if any. -/
def leadInFault (e : Engine) (s : Session) (queued : Option Nat) : Option Fault :=
  match s.reference.predict s.buffer.readTs with
  | .error f => some f
  | .ok none => none
  | .ok (some predicted) =>
    let gap := e.leadInGap s queued predicted
    if samplesToFixed s.framesPerPacket s.sampleRate < gap then
      if Nat.pow 2 64 ≤ (s.leadIn.getD ⟨e.now, 0⟩).emitted + s.framesPerPacket then some .addOverflow else none
    else if gap = -Nat.pow 2 63 then some .negOverflow
    else none

/-- The fault one pass stops on, if any: only a lead-in step can fault. -/
def passFault (e : Engine) : Option Fault :=
  let e := e.forwardVolume
  match e.session with
  | none => none
  | some s =>
    if s.flushPending then none
    else match s.phase with
      | .buffering =>
        if s.readyToSync then
          leadInFault e { s with phase := .synchronizing, leadIn := some ⟨e.now, 0⟩ } e.sink.delay
        else none
      | .synchronizing => if s.readyToSync then leadInFault e s e.sink.delay else none
      | .playing => none

/-- Where a pass that stops on the fault `f` leaves the player: the pending volume has gone to the
output, the session is as far as the lead-in step got (synchronizing, or already entered into
playing where the gap's negation faults), and the playout thread is gone. -/
def crash (e : Engine) (f : Fault) : Engine :=
  let e := e.forwardVolume
  let e := match e.session with
    | some s =>
      let s := match s.phase with
        | .buffering => { s with phase := .synchronizing, leadIn := some ⟨e.now, 0⟩ }
        | _ => s
      if f = Fault.negOverflow then enterPlaying { e with session := some s } else { e with session := some s }
    | none => e
  { e with panicked := some f }

/-- Runs passes until one is idle or the playout thread stops on a fault, at most `fuel` of them. -/
def settleWithin : Nat → Engine → Engine
  | 0, e => e
  | fuel + 1, e =>
    if e.session.isNone || e.panicked.isSome then e
    else match e.passFault with
      | some f => e.crash f
      | none =>
        match e.pass with
        | (.idle, e) => e
        | (_, e) => settleWithin fuel e

/-- Passes a settling run may take; a lead-in longer than this many frames is cut short. -/
def settleLimit : Nat := 4000000

/-- Runs playback until it has nothing left to do, or until its thread stops. -/
def settle (e : Engine) : Engine := settleWithin settleLimit e

end Engine

end Playout
