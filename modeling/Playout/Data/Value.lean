import Playout.Text.Decimal
import Playout.Text.Format

/-!
# Self-describing values

The data model that configurations are read from and written to: null, booleans,
integers, floats, strings, sequences and maps with string keys. Maps keep their entries in
order. The JSON text of a value writes floats as their shortest decimals, so that an
integer and a float of the same value stay apart.
-/

namespace Playout

/-- A self-describing value. -/
inductive Value where
  | null
  | bool (b : Bool)
  | int (i : Int)
  | float (x : Float)
  | str (s : String)
  | arr (xs : List Value)
  | obj (fields : List (String × Value))
deriving Inhabited

namespace Value

def nat (n : Nat) : Value := .int n

/-- The value at `key` of a map, if there is one. -/
def field? : Value → String → Option Value
  | .obj fs, k => (fs.find? (·.1 == k)).map (·.2)
  | _, _ => none

/-- A JSON string literal. -/
def quote (s : String) : String :=
  let esc (c : Char) : String :=
    match c with
    | '"' => "\\\""
    | '\\' => "\\\\"
    | '\n' => "\\n"
    | '\r' => "\\r"
    | '\t' => "\\t"
    | c =>
      if c.toNat < 32 then
        "\\u00" ++ Text.hexByte (UInt8.ofNat c.toNat)
      else c.toString
  "\"" ++ String.join (s.toList.map esc) ++ "\""

mutual

/-- JSON text; a non-finite float is written as the string `NaN`, `inf` or `-inf`. -/
def render : Value → String
  | .null => "null"
  | .bool b => toString b
  | .int i => toString i
  | .float x =>
    let t := Decimal.withPoint x
    if x.isNaN ∨ x.isInf then quote t else t
  | .str s => quote s
  | .arr xs => "[" ++ renderItems xs ++ "]"
  | .obj fs => "\x7b" ++ renderFields fs ++ "\x7d"

/-- Comma-separated JSON texts of a list of values. -/
def renderItems : List Value → String
  | [] => ""
  | [x] => render x
  | x :: xs => render x ++ "," ++ renderItems xs

/-- Comma-separated `key:value` entries of a map. -/
def renderFields : List (String × Value) → String
  | [] => ""
  | [(k, v)] => quote k ++ ":" ++ render v
  | (k, v) :: fs => quote k ++ ":" ++ render v ++ "," ++ renderFields fs

end

end Value

end Playout
