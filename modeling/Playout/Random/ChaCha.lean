/-!
# ChaCha with twelve rounds as a random source

The generator's output is the ChaCha keystream read as 32-bit words: block `n` is the
ChaCha permutation, twelve rounds, of the constants, the 256-bit key, the 64-bit block
counter `n` and a zero stream id, added word by word to its input. A 64-bit draw is two
consecutive words, low first. A 64-bit seed is spread into the key by a PCG32 sequence.

The generator holds its key, how many words it has handed out, and the block that holds
the next word.
-/

namespace Playout.ChaCha

/-- `x` rotated left by `n` bits. -/
def rotl (x : UInt32) (n : UInt32) : UInt32 := (x <<< n) ||| (x >>> (32 - n))

/-- The quarter round on words `a b c d` of the state. -/
def quarter (s : Array UInt32) (a b c d : Nat) : Array UInt32 :=
  let w (i : Nat) (st : Array UInt32) := st.getD i 0
  let s := s.setIfInBounds a (w a s + w b s)
  let s := s.setIfInBounds d (rotl (w d s ^^^ w a s) 16)
  let s := s.setIfInBounds c (w c s + w d s)
  let s := s.setIfInBounds b (rotl (w b s ^^^ w c s) 12)
  let s := s.setIfInBounds a (w a s + w b s)
  let s := s.setIfInBounds d (rotl (w d s ^^^ w a s) 8)
  let s := s.setIfInBounds c (w c s + w d s)
  s.setIfInBounds b (rotl (w b s ^^^ w c s) 7)

/-- A column round followed by a diagonal round. -/
def doubleRound (s : Array UInt32) : Array UInt32 :=
  let s := quarter s 0 4 8 12
  let s := quarter s 1 5 9 13
  let s := quarter s 2 6 10 14
  let s := quarter s 3 7 11 15
  let s := quarter s 0 5 10 15
  let s := quarter s 1 6 11 12
  let s := quarter s 2 7 8 13
  quarter s 3 4 9 14

/-- The input state of block `n`: constants, key, counter, zero stream id. -/
def input (key : Array UInt32) (n : Nat) : Array UInt32 :=
  #[0x61707865, 0x3320646e, 0x79622d32, 0x6b206574] ++ key ++
    #[UInt32.ofNat n, UInt32.ofNat (n / Nat.pow 2 32), 0, 0]

/-- Block `n` of the keystream: six double rounds, then the input added back. -/
def block (key : Array UInt32) (n : Nat) : Array UInt32 :=
  let x := input key n
  let y := (List.range 6).foldl (fun s _ => doubleRound s) x
  (Array.range 16).map fun i => y.getD i 0 + x.getD i 0

/-- Word `i` of the keystream. -/
def word (key : Array UInt32) (i : Nat) : UInt32 := (block key (i / 16)).getD (i % 16) 0

/-- One step of PCG32: the new state and its 32-bit output. -/
def pcg32 (state : UInt64) : UInt64 × UInt32 :=
  let s := state * 6364136223846793005 + 11634580027462260723
  let xorshifted := (((s >>> 18) ^^^ s) >>> 27).toUInt32
  let rot := (s >>> 59).toUInt32
  (s, (xorshifted >>> rot) ||| (xorshifted <<< ((32 - rot) % 32)))

/-- The key spread from a 64-bit seed: eight PCG32 outputs. -/
def keyOfSeed (seed : UInt64) : Array UInt32 :=
  ((List.range 8).foldl (fun (acc : Array UInt32 × UInt64) _ =>
    let (s, x) := pcg32 acc.2
    (acc.1.push x, s)) (#[], seed)).1

end ChaCha

/-- A keystream generator: its key, the words handed out so far and the block holding the
next word. -/
structure ChaChaRng where
  key : Array UInt32
  pos : Nat
  current : Array UInt32
deriving Inhabited

namespace ChaChaRng

def ofSeed (seed : UInt64) : ChaChaRng :=
  let key := ChaCha.keyOfSeed seed
  ⟨key, 0, ChaCha.block key 0⟩

/-- The next 32-bit word. -/
def nextU32 (g : ChaChaRng) : UInt32 × ChaChaRng :=
  let w := g.current.getD (g.pos % 16) 0
  let pos := g.pos + 1
  (w, ⟨g.key, pos, if pos % 16 = 0 then ChaCha.block g.key (pos / 16) else g.current⟩)

/-- The next 64-bit draw: two words, low first. -/
def nextU64 (g : ChaChaRng) : UInt64 × ChaChaRng :=
  let (lo, g) := g.nextU32
  let (hi, g) := g.nextU32
  ((hi.toUInt64 <<< 32) ||| lo.toUInt64, g)

/-- A float in `[0, 1)`: the top 53 bits of a draw, scaled by `2^-53`. -/
def nextUnit (g : ChaChaRng) : Float × ChaChaRng :=
  let (v, g) := g.nextU64
  (Float.ofNat (v >>> 11).toNat * (1.0 / 9007199254740992.0), g)

/-- A uniform draw in `low ..= high` by widening multiplication with rejection: a draw `v`
is taken when the low half of `v * range` does not exceed the zone, and then the high half
is the offset. The keystream repeats after `2^68` words, so once `2^67` draws are rejected
every later draw repeats a rejected one and the search never ends; only there is the low end
taken. -/
def rangeInclusive (g : ChaChaRng) (low high : Nat) : Nat × ChaChaRng :=
  let range := (high - low + 1) % Nat.pow 2 64
  if range = 0 then
    let (v, g) := g.nextU64
    (v.toNat, g)
  else
    let zone := range * Nat.pow 2 (64 - (Nat.log2 range + 1)) - 1
    loop range zone g (Nat.pow 2 67)
where
  loop (range zone : Nat) (g : ChaChaRng) : Nat → Nat × ChaChaRng
    | 0 => (low, g)
    | k + 1 =>
      let (v, g) := g.nextU64
      let m := v.toNat * range
      if m % Nat.pow 2 64 ≤ zone then ((low + m / Nat.pow 2 64) % Nat.pow 2 64, g) else loop range zone g k

end ChaChaRng

end Playout
