import Playout.Engine.Control
import Playout.Receiver.Config
import Playout.Receiver.Requester

/-!
# The network receiver

The receiver binds an audio port and a control port and feeds what arrives to a player.
Every audio datagram is handed to the player; malformed ones are ignored. On the control
port a sync packet teaches the requester the sender's address (if it knows none) and
anchors the player's reference clock at the packet's RTP time and the player's current
time; a resent packet is handed to the player whole; anything else is ignored. The
player's retransmission requests go out through the requester.
-/

namespace Playout

structure Receiver where
  audioAddr : SocketAddr
  controlAddr : SocketAddr
  requester : ResendRequester
  /-- How many of the player's requests have gone to the requester. -/
  forwarded : Nat
deriving Repr, Inhabited

namespace Receiver

/-- Binds both ports and takes over the player's retransmission requests. -/
def bind (c : ReceiverConfig) (e : Engine) (n : Network) :
    Except SocketError (Receiver × Network) := do
  let (audioAddr, n) ← n.bind c.audioBind
  let (controlAddr, n) ← n.bind c.controlBind
  pure (⟨audioAddr, controlAddr, { target := c.senderControl }, e.requested.length⟩, n)

/-- Sends the player's new requests. -/
def forward (r : Receiver) (e : Engine) (n : Network) : Receiver × Network :=
  let fresh := (e.requested.take (e.requested.length - r.forwarded)).reverse
  let (requester, n) := fresh.foldl (fun (q, n) range => q.request n range) (r.requester, n)
  ({ r with requester, forwarded := e.requested.length }, n)

/-- An audio datagram arrives; a fault of the player's decoder stops the program. -/
def onAudio (r : Receiver) (e : Engine) (n : Network) (datagram : Bytes) :
    Except Fault (Receiver × Engine × Network) := do
  let e := match ← e.receive datagram with
    | .ok (_, e) => e
    | .error _ => e
  let (r, n) := r.forward e n
  pure (r, e, n)

/-- A control datagram arrives from `src`. -/
def onControl (r : Receiver) (e : Engine) (n : Network) (src : SocketAddr) (datagram : Bytes) :
    Except Fault (Receiver × Engine × Network) :=
  match ControlPacket.decode datagram with
  | .ok (.sync p) =>
    let r := { r with requester := r.requester.learnTarget src }
    .ok (r, e.setAnchor p.rtpTimestampAtNtp e.now, n)
  | .ok (.resent inner) => r.onAudio e n inner
  | .error _ => .ok (r, e, n)

def setSenderControl (r : Receiver) (a : SocketAddr) : Receiver :=
  { r with requester := r.requester.setTarget a }

end Receiver

end Playout
