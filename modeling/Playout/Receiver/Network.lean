import Playout.Net.Address
import Playout.Wire.Bytes

/-!
# The host's datagram network

What the receiver and its peers can observe of the network: which addresses are taken,
whether a datagram can be delivered at all, and the datagrams delivered to each address.
On a host whose network has no route (its loopback interface down, say) sockets still
bind, but every send fails.
-/

namespace Playout

/-- Why a socket operation failed. -/
inductive SocketError where
  | addressInUse
  | unreachable
deriving Repr, DecidableEq, Inhabited

/-- The text the operating system gives for the error. -/
def SocketError.message : SocketError → String
  | .addressInUse => "Address already in use (os error 98)"
  | .unreachable => "Network is unreachable (os error 101)"

structure Network where
  /-- Datagrams can be delivered. -/
  routed : Bool
  /-- Addresses bound by sockets. -/
  taken : List SocketAddr := []
  /-- Delivered datagrams not yet read, with their destination, oldest first. -/
  inFlight : List (SocketAddr × Bytes) := []
  /-- The next port the system hands out for a bind to port zero. -/
  nextPort : Nat := 40000
deriving Repr, Inhabited

namespace Network

/-- Binds a socket; port zero picks a free port. -/
def bind (n : Network) (a : SocketAddr) : Except SocketError (SocketAddr × Network) :=
  if a.port = 0 then
    let a := match a with
      | .v4 os _ => SocketAddr.v4 os n.nextPort
      | .v6 gs s _ => SocketAddr.v6 gs s n.nextPort
    .ok (a, { n with taken := a :: n.taken, nextPort := n.nextPort + 1 })
  else if n.taken.contains a then .error .addressInUse
  else .ok (a, { n with taken := a :: n.taken })

/-- Sends a datagram to `dest`. -/
def send (n : Network) (dest : SocketAddr) (data : Bytes) : Except SocketError Network :=
  if n.routed then .ok { n with inFlight := n.inFlight ++ [(dest, data)] } else .error .unreachable

/-- Takes the oldest datagram delivered to `a`, if any. -/
def receive (n : Network) (a : SocketAddr) : Option Bytes × Network :=
  match n.inFlight.find? (·.1 == a) with
  | some (_, data) => (some data, { n with inFlight := n.inFlight.erase (a, data) })
  | none => (none, n)

end Network

end Playout
