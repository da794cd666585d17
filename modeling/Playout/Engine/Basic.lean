import Playout.Buffer
import Playout.Config
import Playout.Decoder
import Playout.Drift
import Playout.Sink
import Playout.Stuffer
import Playout.Volume

/-!
# The player's state

A player serves one session at a time, played out by a thread of its own. Between sessions it
keeps its settings, its local clock, its volume, its output, the counters of the last session
and every retransmission request it has made. A session holds the jitter buffer, the reference
clock that maps RTP time to local time, the decoder, the rate correction and the progress of
playback: waiting for data and an anchor, sending lead-in silence until the first frame is due,
or playing.
-/

namespace Playout

/-- Where a session's playback is. -/
inductive Phase where
  /-- Collecting packets; nothing is played. -/
  | buffering
  /-- Sending lead-in silence until the first frame is due. -/
  | synchronizing
  /-- Releasing frames to the output. -/
  | playing
deriving Repr, DecidableEq, Inhabited

def Phase.name : Phase → String
  | .buffering => "buffering"
  | .synchronizing => "synchronizing"
  | .playing => "playing"

/-- How the playback rate follows the buffer fill. -/
inductive Corrector where
  /-- Inserts or drops a sample pair now and then, as the drift controller decides. -/
  | drift (d : DriftController)
  /-- Plays every frame as it is. -/
  | fixed
deriving Inhabited

namespace Corrector

/-- Takes one fill reading; returns `1` to insert a pair, `-1` to drop one, `0` for neither. -/
def correction : Corrector → Nat → Int × Corrector
  | .drift d, fill => let (c, d) := d.correction fill; (c, .drift d)
  | .fixed, _ => (0, .fixed)

def playbackRate : Corrector → Float
  | .drift d => d.rate
  | .fixed => 1.0

def reset : Corrector → Corrector
  | .drift d => .drift d.reset
  | .fixed => .fixed

end Corrector

/-- Counters of the current or last session. -/
structure Counters where
  decodeFailures : Nat := 0
  underruns : Nat := 0
  framesPlayed : Nat := 0
  /-- Lead-in silence sent, in stereo samples. -/
  silenceSamples : Nat := 0
  samplesInserted : Nat := 0
  samplesDeleted : Nat := 0
  sinkErrors : Nat := 0
  /-- The last playback rate reported; a positive zero means none yet and reads as one. -/
  rate : Float := 0.0
deriving Inhabited

/-- The playback rate the counters report. -/
def Counters.playbackRate (c : Counters) : Float :=
  if c.rate.toBits = 0 then 1.0 else c.rate

/-- Lead-in progress: when it began, and how much silence it has sent, in frames. -/
structure LeadIn where
  started : UInt64
  emitted : Nat
deriving Repr, DecidableEq, Inhabited

/-- One session. -/
structure Session where
  buffer : JitterBuffer
  reference : ReferenceClock
  phase : Phase := .buffering
  /-- A flush the output has not yet been told of. -/
  flushPending : Bool := false
  decoder : FrameDecoder
  corrector : Corrector
  stuffer : Stuffer
  framesPerPacket : Nat
  sampleRate : Nat
  /-- Output latency in samples. -/
  latency : Nat
  leadIn : Option LeadIn := none
  /-- A frame has been played since playback last started. -/
  playedSinceSync : Bool := false
deriving Inhabited

/-- The player. -/
structure Engine where
  config : PlayoutConfig
  clock : ManualClock
  volume : VolumeControl
  counters : Counters := {}
  sink : Sink
  /-- The output is in the player's slot. It leaves the slot for a session's playout thread and
  comes back when the thread ends; a thread that panics, or that could not be spawned, takes it
  down with it. -/
  sinkInSlot : Bool := true
  session : Option Session := none
  /-- The fault the running session's playout thread stopped on. -/
  panicked : Option Fault := none
  /-- Every retransmission request made, newest first. -/
  requested : List SeqRange := []
  /-- Seed of the random sources of each session's rate correction. -/
  seed : UInt64 := 0
deriving Inhabited

namespace Engine

/-- A player with no session, its clock at `now`. -/
def create (config : PlayoutConfig) (sink : Sink) (now : UInt64) : Engine :=
  { config, sink, clock := ⟨now⟩, volume := VolumeControl.create config.initialVolumeDb }

def isRunning (e : Engine) : Bool := e.session.isSome

/-- Every retransmission request made, oldest first. -/
def requests (e : Engine) : List SeqRange := e.requested.reverse

/-- Records retransmission requests, given oldest first. -/
def request (e : Engine) (ranges : List SeqRange) : Engine :=
  { e with requested := ranges.reverse ++ e.requested }

def now (e : Engine) : UInt64 := e.clock.now

def setClock (e : Engine) (t : UInt64) : Engine := { e with clock := ⟨t⟩ }

def phase (e : Engine) : Option Phase := e.session.map (·.phase)

/-- Changes the running session, if there is one. -/
def modifySession (e : Engine) (f : Session → Session) : Engine :=
  { e with session := e.session.map f }

def modifyCounters (e : Engine) (f : Counters → Counters) : Engine :=
  { e with counters := f e.counters }

end Engine

/-- A snapshot of the counters. Buffer figures are zero and the phase absent when no
session runs. -/
structure Stats where
  state : Option Phase
  packetsReceived : Nat
  packetsLate : Nat
  packetsTooLate : Nat
  packetsDuplicate : Nat
  packetsFlushed : Nat
  framesMissing : Nat
  framesSkipped : Nat
  resendRequests : Nat
  decodeFailures : Nat
  underruns : Nat
  overruns : Nat
  framesPlayed : Nat
  silenceSamples : Nat
  samplesInserted : Nat
  samplesDeleted : Nat
  sinkErrors : Nat
  bufferFill : Nat
  playbackRate : Float
deriving Inhabited

def Engine.stats (e : Engine) : Stats :=
  let c := e.counters
  let b : BufferStats := match e.session with
    | some s => s.buffer.stats
    | none => {}
  { state := e.phase
    packetsReceived := b.received, packetsLate := b.late, packetsTooLate := b.tooLate
    packetsDuplicate := b.duplicate, packetsFlushed := b.flushed, framesMissing := b.missing
    framesSkipped := b.skipped, resendRequests := b.resendRequests
    decodeFailures := c.decodeFailures, underruns := c.underruns, overruns := b.overruns
    framesPlayed := c.framesPlayed, silenceSamples := c.silenceSamples
    samplesInserted := c.samplesInserted, samplesDeleted := c.samplesDeleted
    sinkErrors := c.sinkErrors
    bufferFill := (e.session.map (·.buffer.fill)).getD 0
    playbackRate := c.playbackRate }

end Playout
