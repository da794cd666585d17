import Playout.Wire.Bytes

/-!
# AES-128 block cipher

The block cipher of FIPS 197 for 128-bit keys. A block is 16 bytes in column order (byte
`r + 4 c` is row `r` of column `c`). The key schedule expands the key into eleven round
keys; encryption is ten rounds of substitution, row shifts, column mixing and key
addition, the last without mixing, and decryption undoes them in reverse order.
-/

namespace Playout.Aes

/-- The substitution box: multiplicative inverse in GF(2^8) followed by the affine map. -/
def sbox : Array UInt8 := #[
    0x63, 0x7c, 0x77, 0x7b, 0xf2, 0x6b, 0x6f, 0xc5, 0x30, 0x01, 0x67, 0x2b, 0xfe, 0xd7, 0xab, 0x76,
    0xca, 0x82, 0xc9, 0x7d, 0xfa, 0x59, 0x47, 0xf0, 0xad, 0xd4, 0xa2, 0xaf, 0x9c, 0xa4, 0x72, 0xc0,
    0xb7, 0xfd, 0x93, 0x26, 0x36, 0x3f, 0xf7, 0xcc, 0x34, 0xa5, 0xe5, 0xf1, 0x71, 0xd8, 0x31, 0x15,
    0x04, 0xc7, 0x23, 0xc3, 0x18, 0x96, 0x05, 0x9a, 0x07, 0x12, 0x80, 0xe2, 0xeb, 0x27, 0xb2, 0x75,
    0x09, 0x83, 0x2c, 0x1a, 0x1b, 0x6e, 0x5a, 0xa0, 0x52, 0x3b, 0xd6, 0xb3, 0x29, 0xe3, 0x2f, 0x84,
    0x53, 0xd1, 0x00, 0xed, 0x20, 0xfc, 0xb1, 0x5b, 0x6a, 0xcb, 0xbe, 0x39, 0x4a, 0x4c, 0x58, 0xcf,
    0xd0, 0xef, 0xaa, 0xfb, 0x43, 0x4d, 0x33, 0x85, 0x45, 0xf9, 0x02, 0x7f, 0x50, 0x3c, 0x9f, 0xa8,
    0x51, 0xa3, 0x40, 0x8f, 0x92, 0x9d, 0x38, 0xf5, 0xbc, 0xb6, 0xda, 0x21, 0x10, 0xff, 0xf3, 0xd2,
    0xcd, 0x0c, 0x13, 0xec, 0x5f, 0x97, 0x44, 0x17, 0xc4, 0xa7, 0x7e, 0x3d, 0x64, 0x5d, 0x19, 0x73,
    0x60, 0x81, 0x4f, 0xdc, 0x22, 0x2a, 0x90, 0x88, 0x46, 0xee, 0xb8, 0x14, 0xde, 0x5e, 0x0b, 0xdb,
    0xe0, 0x32, 0x3a, 0x0a, 0x49, 0x06, 0x24, 0x5c, 0xc2, 0xd3, 0xac, 0x62, 0x91, 0x95, 0xe4, 0x79,
    0xe7, 0xc8, 0x37, 0x6d, 0x8d, 0xd5, 0x4e, 0xa9, 0x6c, 0x56, 0xf4, 0xea, 0x65, 0x7a, 0xae, 0x08,
    0xba, 0x78, 0x25, 0x2e, 0x1c, 0xa6, 0xb4, 0xc6, 0xe8, 0xdd, 0x74, 0x1f, 0x4b, 0xbd, 0x8b, 0x8a,
    0x70, 0x3e, 0xb5, 0x66, 0x48, 0x03, 0xf6, 0x0e, 0x61, 0x35, 0x57, 0xb9, 0x86, 0xc1, 0x1d, 0x9e,
    0xe1, 0xf8, 0x98, 0x11, 0x69, 0xd9, 0x8e, 0x94, 0x9b, 0x1e, 0x87, 0xe9, 0xce, 0x55, 0x28, 0xdf,
    0x8c, 0xa1, 0x89, 0x0d, 0xbf, 0xe6, 0x42, 0x68, 0x41, 0x99, 0x2d, 0x0f, 0xb0, 0x54, 0xbb, 0x16
  ]

def sub (b : UInt8) : UInt8 := sbox.getD b.toNat 0

/-- The inverse substitution, read off the table. -/
def invSbox : Array UInt8 :=
  (List.range 256).foldl (fun t i => t.setIfInBounds (sbox.getD i 0).toNat (UInt8.ofNat i))
    (Array.replicate 256 0)

def invSub (b : UInt8) : UInt8 := invSbox.getD b.toNat 0

/-- Multiplication by `x` in GF(2^8) modulo `x^8 + x^4 + x^3 + x + 1`. -/
def xtime (b : UInt8) : UInt8 := (b <<< 1) ^^^ (if b &&& 0x80 ≠ 0 then 0x1b else 0)

/-- Multiplication in GF(2^8), by shifting and adding. -/
def gmul (a : UInt8) (n : Nat) : UInt8 :=
  if n = 0 then 0 else (if n % 2 = 1 then a else 0) ^^^ gmul (xtime a) (n / 2)
termination_by n
decreasing_by omega

/-- A 16-byte block. -/
abbrev Block := Array UInt8

def byte (s : Block) (i : Nat) : UInt8 := s.getD i 0

def xorBlock (a b : Block) : Block := (Array.range 16).map fun i => byte a i ^^^ byte b i

def subBytes (s : Block) : Block := s.map sub

def invSubBytes (s : Block) : Block := s.map invSub

/-- Row `r` moves `r` columns to the left. -/
def shiftRows (s : Block) : Block :=
  (Array.range 16).map fun i => byte s (i % 4 + 4 * ((i / 4 + i % 4) % 4))

def invShiftRows (s : Block) : Block :=
  (Array.range 16).map fun i => byte s (i % 4 + 4 * ((i / 4 + 4 - i % 4) % 4))

/-- Each column times the fixed polynomial with coefficients `m`, rotated by row. -/
def mixWith (m : List Nat) (s : Block) : Block :=
  (Array.range 16).map fun i =>
    let c := i / 4
    let r := i % 4
    (List.range 4).foldl (fun acc k => acc ^^^ gmul (byte s (4 * c + (r + k) % 4)) (m.getD k 0)) 0

def mixColumns : Block → Block := mixWith [2, 3, 1, 1]

def invMixColumns : Block → Block := mixWith [14, 11, 13, 9]

/-- The round constants. -/
def rcon (i : Nat) : UInt8 := (List.range (i - 1)).foldl (fun b _ => xtime b) 1

/-- The 44 words of the key schedule, each four bytes. -/
def expandKey (key : List UInt8) : Array (List UInt8) :=
  let init : Array (List UInt8) := (Array.range 4).map fun i => (List.range 4).map fun j => key.getD (4 * i + j) 0
  (List.range 40).foldl (fun w k =>
    let i := k + 4
    let prev := w.getD (i - 1) []
    let temp :=
      if i % 4 = 0 then
        match prev with
        | [a, b, c, d] => [sub b ^^^ rcon (i / 4), sub c, sub d, sub a]
        | _ => prev
      else prev
    w.push (List.zipWith (· ^^^ ·) (w.getD (i - 4) []) temp)) init

/-- The eleven round keys as blocks. -/
def roundKeys (key : List UInt8) : Array Block :=
  let w := expandKey key
  (Array.range 11).map fun r => ((List.range 4).flatMap fun c => w.getD (4 * r + c) []).toArray

/-- Encrypts one block under expanded round keys. -/
def encryptBlock (ks : Array Block) (b : Block) : Block :=
  let key (r : Nat) := ks.getD r #[]
  let s := (List.range 9).foldl (fun s r => xorBlock (mixColumns (shiftRows (subBytes s))) (key (r + 1)))
    (xorBlock b (key 0))
  xorBlock (shiftRows (subBytes s)) (key 10)

/-- Decrypts one block under expanded round keys. -/
def decryptBlock (ks : Array Block) (b : Block) : Block :=
  let key (r : Nat) := ks.getD r #[]
  let s := (List.range 9).foldl (fun s r => invMixColumns (xorBlock (invSubBytes (invShiftRows s)) (key (9 - r))))
    (xorBlock b (key 10))
  xorBlock (invSubBytes (invShiftRows s)) (key 0)

end Playout.Aes
