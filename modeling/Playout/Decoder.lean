import Playout.Alac.Frame
import Playout.Error

/-!
# From packet payloads to frames

A payload is deciphered (when the stream is encrypted) into a plaintext buffer the decoder
keeps from payload to payload, then decoded by the stream's codec: Apple Lossless, or
big-endian 16-bit linear PCM. A decoded frame must hold exactly one packet's worth of
interleaved samples.
-/

namespace Playout

/-- The codec step of the decoder. -/
inductive CodecStage where
  | alac (c : AlacConfig)
  | l16
deriving Repr, DecidableEq, Inhabited

/-- The decoder of one stream. -/
structure FrameDecoder where
  cipher : Option CbcCipher
  codec : CodecStage
  /-- Interleaved samples in one frame. -/
  frameSamples : Nat
  /-- The last payload deciphered. -/
  plaintext : Bytes := []
deriving Inhabited

/-- Samples of big-endian 16-bit PCM; an odd length is an error. -/
def decodeL16 (data : Bytes) : Except DecodeError (List Int) :=
  if data.length % 2 ≠ 0 then .error (.codec s!"odd L16 payload length {data.length}")
  else .ok ((List.range (data.length / 2)).map fun i => signed16 (data.u16 (2 * i)))

namespace FrameDecoder

/-- The decoder for a stream: the codec is set up first, then the cipher. -/
def create (p : StreamParams) : Except DecodeError FrameDecoder := do
  let codec ← match p.codec with
    | .alac c =>
      match Alac.check c with
      | .ok () => pure (CodecStage.alac c)
      | .error e => throw (.unsupported e.message)
    | .pcm => pure .l16
  let cipher ← match p.aesKey, p.aesIv with
    | some key, some iv =>
      match CbcCipher.create key iv with
      | .ok c => pure (some c)
      | .error e => throw (.crypto e)
    | _, _ => pure none
  pure { cipher, codec, frameSamples := p.frameSamples }

def codecName (d : FrameDecoder) : String :=
  match d.codec with
  | .alac _ => "alac"
  | .l16 => "l16"

def isEncrypted (d : FrameDecoder) : Bool := d.cipher.isSome

/-- Exactly one frame of samples, or the size it came out at. -/
def fit (d : FrameDecoder) (pcm : List Int) : Except DecodeError (List Int) :=
  if pcm.length ≠ d.frameSamples then .error (.unexpectedOutputSize d.frameSamples pcm.length)
  else .ok pcm

/-- Decodes deciphered bytes into exactly one frame of samples. The outer result is a fault of
the codec, which stops the program; the inner one says whether the bytes decoded. -/
def decodeFrame (d : FrameDecoder) (data : Bytes) : Except Fault (Except DecodeError (List Int)) :=
  match d.codec with
  | .alac c =>
    match Alac.decode c data with
    | .ok pcm => .ok (d.fit pcm)
    | .error (.fault f) => .error f
    | .error e => .ok (.error (.codec e.message))
  | .l16 => .ok (decodeL16 data >>= d.fit)

/-- Deciphers and decodes one payload, returning the decoder as it leaves it: an enciphered
payload is deciphered into the plaintext buffer, which the codec then reads. -/
def decode (d : FrameDecoder) (payload : Bytes) : Except Fault (Except DecodeError (List Int) × FrameDecoder) :=
  let (data, d) : Bytes × FrameDecoder := match d.cipher with
    | some c =>
      let plaintext := c.decryptInto payload d.plaintext
      (plaintext, { d with plaintext })
    | none => (payload, d)
  match d.decodeFrame data with
  | .ok r => .ok (r, d)
  | .error f => .error f

/-- Feeds payloads one after another to one decoder, as a receiver does. -/
def decodeAll (d : FrameDecoder) : List Bytes → Except Fault (List (Except DecodeError (List Int)))
  | [] => .ok []
  | x :: xs => do
    let (r, d) ← d.decode x
    let rs ← d.decodeAll xs
    pure (r :: rs)

end FrameDecoder

end Playout
