import Playout.Engine.Playback
import Playout.Wire.Packet

/-!
# Driving the player

Starting and stopping sessions, handing in packets, flushing, anchoring the reference
clock and setting the volume.

A session starts only when none runs, the settings and the session's stream are valid, a
decoder can be built, the output is in its slot and opens, and the system gives a playout
thread, checked in that order. A packet is decoded (an undecodable one is counted and stored
as silence) and put into the buffer; the gaps it reveals are asked for again at once.
-/

namespace Playout

namespace Engine

/-- The checks a start makes before it touches anything, in order: no session running, valid
settings, a valid session, and a decoder for its stream. -/
def startChecks (e : Engine) (sc : SessionConfig) : Except PlayoutError FrameDecoder := do
  if e.isRunning then throw .alreadyRunning
  e.config.validate
  sc.validate
  match FrameDecoder.create sc.stream with
  | .ok d => pure d
  | .error err => throw (.decoder err)

/-- The session a start opens on the stream of `sc`, with the decoder the stream makes. -/
def newSession (e : Engine) (sc : SessionConfig) (decoder : FrameDecoder) : Session :=
  let stream := sc.stream
  let rate := stream.sampleRate.toNat
  let fpp := stream.framesPerPacket.toNat
  { buffer := JitterBuffer.create e.config.bufferCapacity stream.framesPerPacket
      decoder.frameSamples e.config.startFill e.config.maxResendSpan
    reference := { sampleRate := stream.sampleRate }
    decoder
    corrector := match e.config.rateCorrection with
      | .stuffing => .drift (DriftController.create fpp rate (ChaChaRng.ofSeed e.seed))
      | .disabled => .fixed
    stuffer := Stuffer.create (ChaChaRng.ofSeed (e.seed + 1))
    framesPerPacket := fpp, sampleRate := rate
    latency := (sc.latency.getD e.config.defaultLatency).toNat }

/-- The player once the output has opened for a session: its mixer decides the volume mode, the
counters start afresh and the session is installed for a new playout thread. -/
def openSession (e : Engine) (sc : SessionConfig) (decoder : FrameDecoder) (sink : Sink) : Engine :=
  { e with
    sink, volume := e.volume.setHardware sink.hasHardwareVolume, counters := { rate := 1.0 }
    session := some (e.newSession sc decoder), panicked := none }

/-- Starts a session. The steps run in order, each on the player as the step before left it, and
the player comes back beside the result, from a start that fails too. The output is taken out of
its slot for the session and put back if it does not open; `spawn` is the system's answer to the
request for the playout thread. -/
def start (e : Engine) (sc : SessionConfig) (spawn : Except String Unit := .ok ()) :
    Except PlayoutError Unit × Engine :=
  match e.startChecks sc with
  | .error err => (.error err, e)
  | .ok decoder =>
    if !e.sinkInSlot then (.error (.sink .closed), e)
    else
      let e := { e with sinkInSlot := false }
      match e.sink.start sc.stream.sampleRate.toNat with
      | .error err => (.error (.sink err), { e with sinkInSlot := true })
      | .ok sink =>
        let e := e.openSession sc decoder sink
        -- a thread that cannot be spawned takes the output with it; the rest stays
        match spawn with
        | .error reason => (.error (.threadSpawn reason), { e with session := none })
        | .ok () => (.ok (), e)

/-- Ends the session. A live playout thread makes a last pass that hands over a pending hardware
volume, closes the output and returns it to its slot; the output of a thread that panicked is
lost. -/
def stop (e : Engine) : Except PlayoutError Engine :=
  if e.isRunning then
    match e.panicked with
    | none =>
      let e := e.forwardVolume
      .ok { e with sink := e.sink.stop, sinkInSlot := true, session := none }
    | some _ => .ok { e with session := none, panicked := none }
  else .error .notRunning

/-- Decodes a payload and puts it into the buffer; `none` when no session runs. A fault of
the decoder stops the program. -/
def put (e : Engine) (seq : UInt16) (ts : UInt32) (payload : Bytes) :
    Except Fault (Option PutOutcome × Engine) :=
  match e.session with
  | none => .ok (none, e)
  | some s => do
    let (decoded, decoder) ← s.decoder.decode payload
    let (pcm, e) := match decoded with
      | .ok pcm => (pcm, e)
      | .error _ =>
        (List.replicate s.decoder.frameSamples 0,
          e.modifyCounters fun c => { c with decodeFailures := c.decodeFailures + 1 })
    let (outcome, buffer) := s.buffer.put seq ts pcm
    let (resends, buffer) := buffer.takeResends
    pure (some outcome, ({ e with session := some { s with buffer, decoder } }).request resends)

/-- A datagram from the audio port: a retransmission response (by its payload type) or a
plain audio packet. The outer result is a fault of the decoder; the inner one says whether
the datagram was a packet. -/
def receive (e : Engine) (datagram : Bytes) :
    Except Fault (Except PacketError (Option PutOutcome × Engine)) :=
  let packet := match datagram[1]? >>= PayloadType.ofByte with
    | some .retransmitResponse => AudioPacket.parseResent datagram
    | _ => AudioPacket.parse datagram
  match packet with
  | .error err => .ok (.error err)
  | .ok packet => .ok <$> e.put packet.sequence packet.timestamp packet.payload

/-- Drops buffered audio and returns to buffering; with a target, packets stamped before it
are dropped until one at or after it arrives. The anchor is cleared and the output is
flushed on the next pass. -/
def flush (e : Engine) (target : Option UInt32) : Engine :=
  e.modifySession fun s =>
    { s with
      buffer := s.buffer.flush target, reference := s.reference.clear
      phase := .buffering, flushPending := true }

/-- Ties an RTP timestamp to a local time. -/
def setAnchor (e : Engine) (ts : UInt32) (time : UInt64) : Engine :=
  e.modifySession fun s => { s with reference := s.reference.setAnchor ts time }

def anchor (e : Engine) : Option Anchor := e.session.bind (·.reference.anchor)

def setVolume (e : Engine) (db : Float) : Engine := { e with volume := e.volume.setDb db }

/-- The software gain applied to frames; one with a hardware mixer. -/
def volumeLinear (e : Engine) : Float := e.volume.linear

end Engine

end Playout
