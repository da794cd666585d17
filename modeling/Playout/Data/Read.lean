import Playout.Data.Value
import Playout.Text.Unicode

/-!
# Reading typed data from values

Readers for numbers of a given width, floats, unit-or-payload variants, fixed-length
arrays, options and records, with the error texts a reader reports: `invalid type: ...,
expected ...` when the value has the wrong shape, `invalid value: ...` when a number is
out of range, `missing field`, `unknown variant` and `invalid length`.

A record is read from a map or from a sequence. From a map, entries are visited in key
order; a key that names no field is skipped, and the first entry that fails to read stops
the reading. Fields never seen then take their absent value, or are reported missing in
declaration order. From a sequence, elements fill the fields in declaration order; a
sequence that runs short reports its length unless the record has defaults, and one with
elements left over reports that it wanted fewer.
-/

namespace Playout

/-- A reading failure, as its message. -/
abbrev ReadResult := Except String

namespace Read

/-- What a value is, as a message names it. -/
def unexpected : Value → String
  | .null => "null"
  | .bool b => s!"boolean `{b}`"
  | .int i => s!"integer `{i}`"
  | .float x => "floating point `" ++ Decimal.compact x ++ "`"
  | .str s => "string " ++ Text.debugQuote s
  | .arr _ => "sequence"
  | .obj _ => "map"

def invalidType (v : Value) (expected : String) : ReadResult α :=
  .error s!"invalid type: {unexpected v}, expected {expected}"

/-- An unsigned integer below `2^bits`, named `name` in messages. -/
def unsigned (name : String) (bits : Nat) : Value → ReadResult Nat
  | .int i =>
    if 0 ≤ i ∧ i < Nat.pow 2 bits then .ok i.toNat
    else .error s!"invalid value: integer `{i}`, expected {name}"
  | v => invalidType v name

/-- A float; integers convert to the nearest float. -/
def float : Value → ReadResult Float
  | .float x => .ok x
  | .int i => .ok (Float.ofInt i)
  | v => invalidType v "f64"

/-- The names a message lists as expected: `` `a` or `b` ``, or `` one of `a`, `b`, `c` ``. -/
def oneOf : List String → String
  | [] => "there are no variants"
  | [a] => s!"`{a}`"
  | [a, b] => s!"`{a}` or `{b}`"
  | names => "one of " ++ ", ".intercalate (names.map fun a => s!"`{a}`")

/-- A variant name with its payload, if written as a one-entry map. -/
def variant : Value → ReadResult (String × Option Value)
  | .str s => .ok (s, none)
  | .obj [(k, v)] => .ok (k, some v)
  | .obj _ => .error "invalid value: map, expected map with a single key"
  | v => invalidType v "string or map"

/-- The payload of a variant that carries none: absent or null. -/
def unitPayload : Option Value → ReadResult Unit
  | none | some .null => .ok ()
  | some v => invalidType v "unit"

/-- The payload of a variant that carries one value. -/
def newtypePayload : Option Value → ReadResult Value
  | some v => .ok v
  | none => .error "invalid type: unit variant, expected newtype variant"

def unknownVariant (name : String) (names : List String) : ReadResult α :=
  .error s!"unknown variant `{name}`, expected {oneOf names}"

/-- The elements of a sequence read one by one, stopping at the first failure. -/
def elements (f : Value → ReadResult α) : List Value → ReadResult (List α)
  | [] => .ok []
  | v :: vs => do
    let a ← f v
    let rest ← elements f vs
    pure (a :: rest)

/-- A sequence of exactly `n` elements. -/
def array (n : Nat) (f : Value → ReadResult α) : Value → ReadResult (List α)
  | .arr vs => do
    let xs ← elements f (vs.take n)
    if vs.length < n then .error s!"invalid length {vs.length}, expected an array of length {n}"
    else if n < vs.length then .error s!"invalid length {vs.length}, expected fewer elements in array"
    else pure xs
  | v => invalidType v s!"an array of length {n}"

/-- Null is nothing; anything else is read as the value. -/
def option (f : Value → ReadResult α) : Value → ReadResult (Option α)
  | .null => .ok none
  | v => some <$> f v

/-- One field of a record under construction of type `σ`. -/
structure Field (σ : Type) where
  name : String
  /-- Reads the field's value into the record. -/
  set : Value → σ → ReadResult σ
  /-- What the record becomes when the field is absent from a map; `none` if required. -/
  absent : Option (σ → σ)

/-- Entries sorted by key. -/
def sortByKey (fs : List (String × Value)) : List (String × Value) :=
  fs.mergeSort fun a b => decide (a.1 ≤ b.1)

/-- Reads a record of the fields `fields` starting from `init`. `named` is how messages
name it (`struct PlayoutConfig`); `defaults` says whether a short sequence is allowed. -/
def record (named : String) (defaults : Bool) (fields : List (Field σ)) (init : σ) :
    Value → ReadResult σ
  | .obj entries => do
    let (st, seen) ← (sortByKey entries).foldlM (fun (acc : σ × List String) (k, v) =>
      match fields.find? (·.name == k) with
      | some f => do pure (← f.set v acc.1, k :: acc.2)
      | none => pure acc) (init, [])
    fields.foldlM (fun st f =>
      if seen.contains f.name then pure st
      else match f.absent with
        | some d => pure (d st)
        | none => .error s!"missing field `{f.name}`") st
  | .arr vs => do
    let st ← (fields.zipIdx).foldlM (fun st (f, i) =>
      match vs[i]? with
      | some v => f.set v st
      | none =>
        if defaults then pure st
        else .error s!"invalid length {i}, expected {named} with {fields.length} elements") init
    if fields.length < vs.length then
      .error s!"invalid length {vs.length}, expected fewer elements in array"
    else pure st
  | v => invalidType v named

end Read

end Playout
