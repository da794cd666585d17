import Playout.Text.Format

/-!
# Socket addresses

IPv4 and IPv6 socket addresses with their usual text forms. An IPv4 address is four
decimal octets without leading zeros; an IPv6 address is up to eight hexadecimal groups,
with one `::` standing for a run of zero groups and an optional dotted IPv4 tail. The
written form of an IPv6 address replaces its longest run of two or more zero groups (the
first of equally long runs) by `::`, and writes an IPv4-mapped address with a dotted tail.
-/

namespace Playout

/-- An IP address with a port; IPv6 addresses carry a scope. -/
inductive SocketAddr where
  | v4 (octets : List Nat) (port : Nat)
  | v6 (groups : List Nat) (scope : Nat) (port : Nat)
deriving Repr, DecidableEq, Inhabited

namespace SocketAddr

/-- `a.b.c.d` and a port. -/
def ipv4 (a b c d port : Nat) : SocketAddr := .v4 [a, b, c, d] port

def port : SocketAddr → Nat
  | .v4 _ p | .v6 _ _ p => p

def isLoopback : SocketAddr → Bool
  | .v4 os _ => os.head? == some 127
  | .v6 gs _ _ => gs == [0, 0, 0, 0, 0, 0, 0, 1]

def dotted (os : List Nat) : String := ".".intercalate (os.map toString)

/-- Lower-case hexadecimal without leading zeros. -/
def hexGroup (g : Nat) : String := String.ofList (Nat.toDigits 16 g)

def groupsText (gs : List Nat) : String := ":".intercalate (gs.map hexGroup)

/-- The longest run of zero groups as start and length, the first of equal runs. -/
def zeroRun (gs : List Nat) : Nat × Nat :=
  let (best, _, _) := gs.zipIdx.foldl (fun (best, start, len) (g, i) =>
    if g = 0 then
      let (start, len) := if len = 0 then (i, 1) else (start, len + 1)
      (if best.2 < len then (start, len) else best, start, len)
    else (best, 0, 0)) ((0, 0), 0, 0)
  best

/-- The written form of an IPv6 address. -/
def ipv6Text (gs : List Nat) : String :=
  if gs.take 6 == [0, 0, 0, 0, 0, 0xffff] then
    let tail := gs.drop 6
    "::ffff:" ++ dotted ((tail.flatMap fun g => [g / 256, g % 256]))
  else
    let (start, len) := zeroRun gs
    if 1 < len then groupsText (gs.take start) ++ "::" ++ groupsText (gs.drop (start + len))
    else groupsText gs

def render : SocketAddr → String
  | .v4 os p => dotted os ++ ":" ++ toString p
  | .v6 gs s p =>
    "[" ++ ipv6Text gs ++ (if s = 0 then "" else "%" ++ toString s) ++ "]:" ++ toString p

/-! ## Reading -/

/-- A reader of a prefix of a character list: the value and the rest. -/
abbrev Reader (α : Type) := List Char → Option (α × List Char)

def digitValue (radix : Nat) (c : Char) : Option Nat :=
  if '0' ≤ c ∧ c ≤ '9' ∧ c.toNat - '0'.toNat < radix then some (c.toNat - '0'.toNat)
  else if radix = 16 ∧ 'a' ≤ c ∧ c ≤ 'f' then some (c.toNat - 'a'.toNat + 10)
  else if radix = 16 ∧ 'A' ≤ c ∧ c ≤ 'F' then some (c.toNat - 'A'.toNat + 10)
  else none

/-- The leading digits of a list. -/
def digitsOf (radix : Nat) : List Char → List Nat × List Char
  | [] => ([], [])
  | c :: cs => match digitValue radix c with
    | some d => let (ds, rest) := digitsOf radix cs; (d :: ds, rest)
    | none => ([], c :: cs)

/-- A number below `bound` of at least one digit and at most `maxDigits`; a leading zero
followed by more digits is refused unless `zeroPrefix` allows it. -/
def number (radix bound : Nat) (maxDigits : Option Nat) (zeroPrefix : Bool) : Reader Nat :=
  fun cs =>
    let (ds, rest) := digitsOf radix cs
    let v := ds.foldl (fun acc d => radix * acc + d) 0
    -- a value that runs past the bound fails at the digit where it does
    let overflow := (List.range ds.length).any fun i =>
      bound ≤ (ds.take (i + 1)).foldl (fun acc d => radix * acc + d) 0
    if ds.isEmpty ∨ overflow then none
    else if maxDigits.any (· < ds.length) then none
    else if !zeroPrefix ∧ ds.head? == some 0 ∧ 1 < ds.length then none
    else some (v, rest)

def char (c : Char) : Reader Unit := fun
  | d :: rest => if c = d then some ((), rest) else none
  | [] => none

/-- Four dotted octets. -/
def ipv4Octets : Reader (List Nat) := fun cs => do
  let (a, cs) ← number 10 256 (some 3) false cs
  let ((), cs) ← char '.' cs
  let (b, cs) ← number 10 256 (some 3) false cs
  let ((), cs) ← char '.' cs
  let (c, cs) ← number 10 256 (some 3) false cs
  let ((), cs) ← char '.' cs
  let (d, cs) ← number 10 256 (some 3) false cs
  pure ([a, b, c, d], cs)

/-- Up to `limit` colon-separated groups; the last two may be written as a dotted IPv4
tail. Returns the groups and whether such a tail was read. -/
def groups : Nat → Nat → Reader (List Nat × Bool)
  | 0, _ => fun cs => some (([], false), cs)
  | fuel + 1, i => fun cs =>
    let sep : Reader Unit := fun cs => if i = 0 then some ((), cs) else char ':' cs
    let tail := if 0 < fuel then
        (do let ((), cs) ← sep cs; let (os, cs) ← ipv4Octets cs; pure (os, cs))
      else none
    match tail with
    | some (os, rest) => some (([os.getD 0 0 * 256 + os.getD 1 0, os.getD 2 0 * 256 + os.getD 3 0], true), rest)
    | none =>
      match (do let ((), cs) ← sep cs; number 16 65536 (some 4) true cs) with
      | some (g, rest) =>
        match groups fuel (i + 1) rest with
        | some ((gs, dotTail), rest) => some ((g :: gs, dotTail), rest)
        | none => some (([g], false), rest)
      | none => some (([], false), cs)

/-- Eight groups, or a head and a tail around `::`. -/
def ipv6Groups : Reader (List Nat) := fun cs => do
  let ((head, headV4), cs) ← groups 8 0 cs
  if head.length = 8 then pure (head, cs)
  else if headV4 then none
  else
    let ((), cs) ← char ':' cs
    let ((), cs) ← char ':' cs
    let ((tail, _), cs) ← groups (8 - (head.length + 1)) 0 cs
    pure (head ++ List.replicate (8 - head.length - tail.length) 0 ++ tail, cs)

def portOf : Reader Nat := fun cs => do
  let ((), cs) ← char ':' cs
  number 10 65536 none true cs

def readV4 : Reader SocketAddr := fun cs => do
  let (os, cs) ← ipv4Octets cs
  let (p, cs) ← portOf cs
  pure (.v4 os p, cs)

def readV6 : Reader SocketAddr := fun cs => do
  let ((), cs) ← char '[' cs
  let (gs, cs) ← ipv6Groups cs
  let (scope, cs) := match (do let ((), cs) ← char '%' cs; number 10 (Nat.pow 2 32) none true cs) with
    | some r => r
    | none => (0, cs)
  let ((), cs) ← char ']' cs
  let (p, cs) ← portOf cs
  pure (.v6 gs scope p, cs)

/-- Reads a whole text as a socket address. -/
def parse? (s : String) : Option SocketAddr :=
  let cs := s.toList
  match readV4 cs with
  | some (a, []) => some a
  | _ => match readV6 cs with
    | some (a, []) => some a
    | _ => none

end SocketAddr

end Playout
