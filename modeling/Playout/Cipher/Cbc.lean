import Playout.Cipher.Aes

/-!
# AES-128 in CBC mode, per packet

Each packet is encrypted on its own, starting again from the session IV. Only whole
16-byte blocks are enciphered; a trailing partial block travels in the clear.
-/

namespace Playout

/-- Why a cipher could not be built. -/
inductive CipherError where
  | invalidKeyLength (actual : Nat)
  | invalidIvLength (actual : Nat)
deriving Repr, DecidableEq, Inhabited

namespace CipherError

def kind : CipherError → String
  | invalidKeyLength _ => "InvalidKeyLength"
  | invalidIvLength _ => "InvalidIvLength"

def message : CipherError → String
  | invalidKeyLength n => s!"invalid AES key length: expected 16, got {n}"
  | invalidIvLength n => s!"invalid AES IV length: expected 16, got {n}"

end CipherError

/-- A session cipher: the expanded key and the IV every packet starts from. -/
structure CbcCipher where
  keys : Array Aes.Block
  iv : Aes.Block
deriving Inhabited

namespace CbcCipher

/-- A cipher for a 16-byte key and a 16-byte IV; the key is checked first. -/
def create (key iv : Bytes) : Except CipherError CbcCipher :=
  if key.length ≠ 16 then .error (.invalidKeyLength key.length)
  else if iv.length ≠ 16 then .error (.invalidIvLength iv.length)
  else .ok ⟨Aes.roundKeys key, iv.toArray⟩

/-- The whole blocks of a byte string and the tail after them. -/
def blocks (data : Bytes) : List Aes.Block × Bytes :=
  let n := data.length / 16
  (((List.range n).map fun i => ((data.drop (16 * i)).take 16).toArray), data.drop (16 * n))

def encrypt (c : CbcCipher) (plain : Bytes) : Bytes :=
  let (bs, tail) := blocks plain
  let (out, _) := bs.foldl (fun (acc, prev) b =>
    let e := Aes.encryptBlock c.keys (Aes.xorBlock b prev)
    (acc ++ e.toList, e)) (([] : Bytes), c.iv)
  out ++ tail

def decrypt (c : CbcCipher) (data : Bytes) : Bytes :=
  let (bs, tail) := blocks data
  let (out, _) := bs.foldl (fun (acc, prev) b =>
    (acc ++ (Aes.xorBlock (Aes.decryptBlock c.keys b) prev).toList, b)) (([] : Bytes), c.iv)
  out ++ tail

/-- `out` with the sixteen bytes from `pos` on replaced by the block `b`. -/
def overwrite (out : Bytes) (pos : Nat) (b : Aes.Block) : Bytes :=
  out.take pos ++ b.toList ++ out.drop (pos + 16)

/-- Deciphers `n` whole blocks of `out` in place, from block `i` on, chained from `prev`: each
cipher block is copied out as the next chaining value before it is overwritten. -/
def decryptInPlace (c : CbcCipher) : Nat → Nat → Aes.Block → Bytes → Bytes
  | 0, _, _, out => out
  | n + 1, i, prev, out =>
    let cipherBlock := ((out.drop (16 * i)).take 16).toArray
    decryptInPlace c n (i + 1) cipherBlock
      (overwrite out (16 * i) (Aes.xorBlock (Aes.decryptBlock c.keys cipherBlock) prev))

/-- Deciphers `data` into a buffer kept from packet to packet: the buffer is truncated and
refilled with the data, and its whole blocks are deciphered in place. -/
def decryptInto (c : CbcCipher) (data out : Bytes) : Bytes :=
  decryptInPlace c (data.length / 16) 0 c.iv (out.take 0 ++ data)

end CbcCipher

end Playout
