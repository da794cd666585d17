/-!
# Byte strings

Datagrams, payloads and keys are lists of bytes. Multi-byte fields on the wire are
big-endian; decoded samples leave the player little-endian.
-/

namespace Playout

/-- A string of bytes. -/
abbrev Bytes := List UInt8

namespace Bytes

/-- The byte at `i`, or zero past the end. -/
def byteAt (bs : Bytes) (i : Nat) : UInt8 := bs.getD i 0

/-- The big-endian number held by `n` bytes starting at `i`. -/
def readBE (bs : Bytes) (i n : Nat) : Nat :=
  (List.range n).foldl (fun acc k => acc * 256 + (bs.byteAt (i + k)).toNat) 0

def u16 (bs : Bytes) (i : Nat) : UInt16 := UInt16.ofNat (bs.readBE i 2)

def u32 (bs : Bytes) (i : Nat) : UInt32 := UInt32.ofNat (bs.readBE i 4)

def u64 (bs : Bytes) (i : Nat) : UInt64 := UInt64.ofNat (bs.readBE i 8)

/-- The low `n` bytes of `v`, most significant first. -/
def ofNatBE (n v : Nat) : Bytes :=
  (List.range n).map fun k => UInt8.ofNat (v / Nat.pow 256 (n - 1 - k))

@[simp] theorem ofNatBE_length (n v : Nat) : (ofNatBE n v).length = n := by
  simp [ofNatBE]

def be16 (v : UInt16) : Bytes := ofNatBE 2 v.toNat

def be32 (v : UInt32) : Bytes := ofNatBE 4 v.toNat

def be64 (v : UInt64) : Bytes := ofNatBE 8 v.toNat

/-- Two's complement bytes of a 16-bit sample, low byte first. -/
def le16 (s : Int) : Bytes :=
  let u := (s % 65536).toNat
  [UInt8.ofNat u, UInt8.ofNat (u / 256)]

@[simp] theorem le16_length (s : Int) : (le16 s).length = 2 := rfl

end Bytes

end Playout
