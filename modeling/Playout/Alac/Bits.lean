import Playout.Word
import Playout.Fault

/-!
# Reading an Apple Lossless bit stream

Fields are read most significant bit first across byte boundaries. Reading past the last
byte is an error; nothing is read past it. The adaptive Golomb code of the format is read
here too: a unary prefix below an escape length, then a suffix whose lowest bit is sent
only when it can matter. An escaped value wider than a word is a fault, found before any of
its bits is read.
-/

namespace Playout.Alac

/-- Why a frame could not be decoded, or a decoder not built; a fault stops the program. -/
inductive AlacError where
  | truncated
  | malformed (what : String)
  | unsupported (what : String)
  | fault (f : Fault)
deriving Repr, DecidableEq, Inhabited

def AlacError.message : AlacError → String
  | .truncated => "unexpected end of bitstream"
  | .malformed what => "malformed stream: alac: " ++ what
  | .unsupported what => "unsupported feature: alac: " ++ what
  | .fault f => f.message

/-- Reading a frame; the state is the position in bits. -/
abbrev BitRead := ReaderT (Array UInt8) (StateT Nat (Except AlacError))

/-- The next bit. -/
def bit : BitRead Nat := do
  let data ← read
  let pos ← get
  match data[pos / 8]? with
  | some b =>
    set (pos + 1)
    pure ((b.toNat >>> (7 - pos % 8)) % 2)
  | none => throw .truncated

/-- The next `n` bits as an unsigned number. -/
def bits (n : Nat) : BitRead Nat := do
  let mut v := 0
  for _ in List.range n do
    v := 2 * v + (← bit)
  pure v

/-- The next `n` bits as a two's complement number. -/
def signedBits (n : Nat) : BitRead Int := do
  pure (signedOf n (← bits n))

/-- Passes over `n` bits, all of which must be there. -/
def skip (n : Nat) : BitRead Unit := do
  let data ← read
  let pos ← get
  if pos + n ≤ 8 * data.size then set (pos + n) else throw .truncated

/-- A computation that reads no bits. -/
def lift {α : Type} (x : Except AlacError α) : BitRead α :=
  match x with
  | .ok v => pure v
  | .error e => throw e

/-- Moves to the next byte boundary. -/
def align : BitRead Unit := modify fun pos => (pos + 7) / 8 * 8

/-- Ones before the first zero, at most `cap`; the zero is read only below the cap. -/
def ones (cap : Nat) : BitRead Nat := do
  let mut count := 0
  for _ in List.range cap do
    if (← bit) = 1 then count := count + 1 else return count
  pure count

/-- Prefixes of this many ones announce an escaped value. -/
def escapePrefix : Nat := 9

/-- One adaptive Golomb code: `pre` ones below the escape length stand for `pre * m`, to
which the `k`-bit suffix `v` adds `v - 1` when `v` is at least two; only `k - 1` bits are
sent when the suffix is below two. At the escape length the value follows in
`escapeBits` bits, at most a word. -/
def golomb (m k escapeBits : Nat) : BitRead Nat := do
  let pre ← ones escapePrefix
  if pre = escapePrefix then
    if 32 < escapeBits then throw (.fault .wideField)
    bits escapeBits
  else
    let high ← bits (k - 1)
    if high = 0 then pure (pre * m)
    else
      let low ← bit
      pure (pre * m + 2 * high + low - 1)

end Playout.Alac
