import Playout.Error
import Playout.Wire.Bytes

/-!
# Audio outputs

An output takes interleaved 16-bit stereo PCM, one call per block of frames. What the player
sees of an output is how it answers: whether it opens, whether it takes a block, how many
frames it still has queued, and whether it applies volume itself. What the output was
handed is kept beside it: the frames a discarding output counted, the bytes a writer wrote,
or, for a recording output, every call in order.
-/

namespace Playout

/-- How an output behaves. -/
inductive SinkKind where
  /-- Throws the audio away, counting frames. -/
  | discard
  /-- Writes each sample as two little-endian bytes; with `broken` set, every write of at
  least one byte fails with that I/O error and nothing is written. -/
  | writer (broken : Option String)
  /-- Records every call; with `mixer` set it applies volume itself. -/
  | recorder (mixer : Bool)
  /-- Cannot be opened: the named device is absent. -/
  | absent (device : String)
  /-- Opens, then refuses every block with the given stream error. -/
  | refusing (reason : String)
deriving Repr, DecidableEq, Inhabited

/-- Everything a recording output was handed. -/
structure Recording where
  /-- The sample rate it was opened at. -/
  startedAtRate : Option Nat := none
  /-- One entry per block played, newest first. -/
  played : List (List Int) := []
  flushes : Nat := 0
  stopped : Bool := false
  /-- Levels in dB handed to its mixer, newest first. -/
  levels : List Float := []
deriving Inhabited

/-- The blocks played, in order. -/
def Recording.chunks (r : Recording) : List (List Int) := r.played.reverse

/-- The levels handed to the mixer, in order. -/
def Recording.volumes (r : Recording) : List Float := r.levels.reverse

/-- An output and what it has been handed. -/
structure Sink where
  kind : SinkKind
  /-- The queue length a recording output reports; other outputs report none. -/
  queued : Option Nat := none
  /-- Frames a discarding output has counted. -/
  framesPlayed : Nat := 0
  /-- Blocks of bytes a writer has written, newest first. -/
  writes : List (List UInt8) := []
  recording : Recording := {}
deriving Inhabited

namespace Sink

def create (kind : SinkKind) : Sink := { kind }

/-- Opens the output at a sample rate. -/
def start (s : Sink) (rate : Nat) : Except SinkError Sink :=
  match s.kind with
  | .absent device => .error (.deviceNotFound device)
  | .recorder _ => .ok { s with recording := { s.recording with startedAtRate := some rate } }
  | _ => .ok s

/-- The little-endian bytes of samples. -/
def littleEndian (samples : List Int) : List UInt8 := samples.flatMap Bytes.le16

/-- Plays a block of interleaved stereo samples; a refused block changes nothing. -/
def play (s : Sink) (samples : List Int) : Except SinkError Sink :=
  match s.kind with
  | .discard => .ok { s with framesPlayed := s.framesPlayed + samples.length / 2 }
  | .writer broken =>
    match broken, samples with
    | some reason, _ :: _ => .error (.io reason)
    | _, _ => .ok { s with writes := littleEndian samples :: s.writes }
  | .recorder _ => .ok { s with recording := { s.recording with played := samples :: s.recording.played } }
  | .absent _ => .ok s
  | .refusing reason => .error (.stream reason)

/-- Closes the output. -/
def stop (s : Sink) : Sink :=
  match s.kind with
  | .recorder _ => { s with recording := { s.recording with stopped := true } }
  | _ => s

/-- Drops what is queued and not yet heard. -/
def flush (s : Sink) : Sink :=
  match s.kind with
  | .recorder _ => { s with recording := { s.recording with flushes := s.recording.flushes + 1 } }
  | _ => s

/-- Frames queued and not yet heard, if the output can tell. -/
def delay (s : Sink) : Option Nat :=
  match s.kind with
  | .recorder _ => s.queued
  | _ => none

def hasHardwareVolume (s : Sink) : Bool :=
  match s.kind with
  | .recorder mixer => mixer
  | _ => false

/-- Hands a level in dB to the output's mixer. -/
def setVolume (s : Sink) (db : Float) : Sink :=
  match s.kind with
  | .recorder _ => { s with recording := { s.recording with levels := db :: s.recording.levels } }
  | _ => s

def name (s : Sink) : String :=
  match s.kind with
  | .discard => "null"
  | .writer _ => "writer"
  | .recorder _ => "capture"
  | .absent _ => "absent"
  | .refusing _ => "refusing"

/-- Every byte a writer has written, in order. -/
def written (s : Sink) : List UInt8 := s.writes.reverse.flatten

/-- A working writer appends the little-endian bytes of each block it is handed. -/
theorem play_writer (s : Sink) (samples : List Int) (h : s.kind = .writer none) :
    (s.play samples).map written = .ok (s.written ++ littleEndian samples) := by
  simp [play, h, written, Except.map]

/-- Sets the queue length a recording output reports. -/
def setQueued (s : Sink) (frames : Option Nat) : Sink := { s with queued := frames }

end Sink

end Playout
