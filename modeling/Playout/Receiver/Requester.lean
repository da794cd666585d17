import Playout.Receiver.Network
import Playout.Wire.Control

/-!
# Retransmission requests over the network

Requests go to the sender's control address as 8-byte resend requests, numbered from one.
Without a known address a request is dropped; a request the network refuses is lost.
-/

namespace Playout

structure ResendRequester where
  /-- Where requests go. -/
  target : Option SocketAddr
  /-- The number of the next request. -/
  nextSeq : UInt16 := 1
deriving Repr, DecidableEq, Inhabited

namespace ResendRequester

def setTarget (r : ResendRequester) (a : SocketAddr) : ResendRequester := { r with target := some a }

/-- Takes `a` as the target only if none is known yet. -/
def learnTarget (r : ResendRequester) (a : SocketAddr) : ResendRequester :=
  if r.target.isSome then r else r.setTarget a

/-- Asks for `range` again. -/
def request (r : ResendRequester) (n : Network) (range : SeqRange) : ResendRequester × Network :=
  match r.target with
  | none => (r, n)
  | some dest =>
    let datagram := (ResendRequest.ofRange r.nextSeq range).encode
    let n := match n.send dest datagram with
      | .ok n => n
      | .error _ => n
    ({ r with nextSeq := r.nextSeq + 1 }, n)

end ResendRequester

end Playout
