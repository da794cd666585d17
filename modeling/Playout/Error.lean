import Playout.Cipher.Cbc

/-!
# Errors of the player

Failures of audio outputs, of frame decoding, and of the player as a whole. Each has a
kind (its name) and a message. Errors that leave the player usable are recoverable: a
session that is or is not running, an output failure and an I/O failure.
-/

namespace Playout

/-- Failures of an audio output. -/
inductive SinkError where
  | deviceNotFound (name : String)
  | stream (detail : String)
  | closed
  | io (detail : String)
deriving Repr, DecidableEq, Inhabited

namespace SinkError

def kind : SinkError → String
  | deviceNotFound _ => "DeviceNotFound"
  | stream _ => "StreamError"
  | closed => "Closed"
  | io _ => "Io"

def message : SinkError → String
  | deviceNotFound n => "device not found: " ++ n
  | stream d => "stream error: " ++ d
  | closed => "output closed"
  | io d => "I/O error: " ++ d

end SinkError

/-- Failures of turning a payload into samples. -/
inductive DecodeError where
  | crypto (e : CipherError)
  | codec (detail : String)
  | unexpectedOutputSize (expected actual : Nat)
  | unsupported (detail : String)
deriving Repr, DecidableEq, Inhabited

namespace DecodeError

def kind : DecodeError → String
  | crypto _ => "Crypto"
  | codec _ => "Codec"
  | unexpectedOutputSize .. => "UnexpectedOutputSize"
  | unsupported _ => "Unsupported"

def message : DecodeError → String
  | crypto e => "decryption error: " ++ e.message
  | codec d => "codec error: " ++ d
  | unexpectedOutputSize e a => s!"unexpected decoded size: expected {e} samples, got {a}"
  | unsupported d => "unsupported codec configuration: " ++ d

end DecodeError

/-- Failures of the player. -/
inductive PlayoutError where
  | invalidConfig (detail : String)
  | decoder (e : DecodeError)
  | sink (e : SinkError)
  | alreadyRunning
  | notRunning
  /-- The system refused a thread. -/
  | threadSpawn (detail : String)
  | io (detail : String)
deriving Repr, DecidableEq, Inhabited

namespace PlayoutError

def kind : PlayoutError → String
  | invalidConfig _ => "InvalidConfig"
  | decoder _ => "Decoder"
  | sink _ => "Sink"
  | alreadyRunning => "AlreadyRunning"
  | notRunning => "NotRunning"
  | threadSpawn _ => "ThreadSpawn"
  | io _ => "Io"

def message : PlayoutError → String
  | invalidConfig d => "invalid configuration: " ++ d
  | decoder e => "decoder initialization failed: " ++ e.message
  | sink e => "audio sink error: " ++ e.message
  | alreadyRunning => "playout session already running"
  | notRunning => "no playout session running"
  | threadSpawn d => "failed to spawn thread: " ++ d
  | io d => "I/O error: " ++ d

/-- The player is still usable after this error. -/
def recoverable : PlayoutError → Bool
  | alreadyRunning | notRunning | sink _ | io _ => true
  | invalidConfig _ | decoder _ | threadSpawn _ => false

end PlayoutError

end Playout
