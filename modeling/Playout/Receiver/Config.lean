import Playout.Net.Address

/-!
# Receiver settings

Where the audio and control ports bind (port zero lets the system choose), the sender's
control address if known in advance, and how long a socket read waits before the receive
loops look at their stop flag.
-/

namespace Playout

structure ReceiverConfig where
  audioBind : SocketAddr := .ipv4 0 0 0 0 6000
  controlBind : SocketAddr := .ipv4 0 0 0 0 6001
  /-- Learned from the first sync packet when not given. -/
  senderControl : Option SocketAddr := none
  readTimeoutMs : Nat := 100
deriving Repr, DecidableEq, Inhabited

namespace ReceiverConfig

/-- Both ports on the loopback address, chosen by the system. -/
def loopback : ReceiverConfig :=
  { audioBind := .ipv4 127 0 0 1 0, controlBind := .ipv4 127 0 0 1 0 }

def withSenderControl (c : ReceiverConfig) (a : SocketAddr) : ReceiverConfig :=
  { c with senderControl := some a }

def withReadTimeout (c : ReceiverConfig) (ms : Nat) : ReceiverConfig :=
  { c with readTimeoutMs := ms }

end ReceiverConfig

end Playout
