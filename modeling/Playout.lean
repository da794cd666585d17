import Playout.Seq
import Playout.Wire.Control
import Playout.Engine.Control
import Playout.Stream.Form
import Playout.Describe
import Playout.Sender
import Playout.Receiver.Basic
import Playout.Data.Number
import Playout.Proofs.SeqDistance
import Playout.Proofs.Buffer.Steps
import Playout.Proofs.Buffer.Window
import Playout.Proofs.Buffer.Store
import Playout.Proofs.Buffer.GapRequests
import Playout.Proofs.Engine.Phases
import Playout.Proofs.Cipher.RoundTrip
import Playout.Proofs.Engine.Receive
import Playout.Proofs.Engine.LeadIn
import Playout.Proofs.Engine.Flush
import Playout.Proofs.Drift.WarmUp
import Playout.Proofs.Buffer.Rejected
import Playout.Proofs.Buffer.Resends
import Playout.Proofs.Engine.Faults
import Playout.Proofs.Engine.Output
import Playout.Proofs.Engine.Audio
import Playout.Proofs.Buffer.FlushTarget
import Playout.Proofs.Buffer.Skipping
import Playout.Proofs.Cipher.Inverse
import Playout.Proofs.Stuffer.Splice
import Playout.Proofs.Wire.BigEndian
import Playout.Proofs.Wire.AudioCodec
import Playout.Proofs.Wire.ControlCodec
import Playout.Proofs.Engine.Decoding
import Playout.Proofs.Engine.Start
import Playout.Proofs.SeqRange
import Playout.Proofs.Drift.FixedRate
import Playout.Proofs.Stream.Fmtp
import Playout.Proofs.Volume.FixedGain
import Playout.Proofs.Volume.Control
import Playout.Proofs.Volume.Forwarding
import Playout.Proofs.Clock.FixedPoint
