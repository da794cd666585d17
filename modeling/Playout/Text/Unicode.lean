import Playout.Text.Format
import Playout.Text.Printable

/-!
# Unicode text helpers

The White_Space property, word splitting on it, and quoting of a string the way messages
show it: between double quotes, with quotes and backslashes escaped, the usual controls by
letter and other characters that do not show as themselves by code point.
-/

namespace Playout.Text

/-- The characters with the Unicode White_Space property. -/
def isWhiteSpace (c : Char) : Bool :=
  let n := c.toNat
  (0x09 ≤ n && n ≤ 0x0D) || n == 0x20 || n == 0x85 || n == 0xA0 || n == 0x1680 ||
    (0x2000 ≤ n && n ≤ 0x200A) || n == 0x2028 || n == 0x2029 || n == 0x202F ||
    n == 0x205F || n == 0x3000

/-- The non-empty runs of characters between white space. -/
def words (s : String) : List String :=
  let step (acc : List String × List Char) (c : Char) : List String × List Char :=
    if isWhiteSpace c then
      if acc.2.isEmpty then acc else (String.ofList acc.2.reverse :: acc.1, [])
    else (acc.1, c :: acc.2)
  let (done, cur) := s.toList.foldl step ([], [])
  (if cur.isEmpty then done else String.ofList cur.reverse :: done).reverse

/-- Lowercase hexadecimal digits of a natural, no leading zeros. -/
def hexNat (n : Nat) : String :=
  String.ofList ((Nat.toDigits 16 n).map fun c => c)

/-- A string between double quotes with escapes. -/
def debugQuote (s : String) : String :=
  let esc (c : Char) : String :=
    match c with
    | '\t' => "\\t"
    | '\r' => "\\r"
    | '\n' => "\\n"
    | '\\' => "\\\\"
    | '"' => "\\\""
    | c =>
      if c.toNat == 0 then "\\0"
      else if escapedAsCode c then "\\u\x7b" ++ hexNat c.toNat ++ "\x7d"
      else c.toString
  "\"" ++ String.join (s.toList.map esc) ++ "\""

end Playout.Text
