/-!
# Text helpers

Small formatting helpers for messages: lowercase hexadecimal and quoted strings.
-/

namespace Playout.Text

/-- The lowercase hexadecimal digit of `d < 16`. -/
def hexDigit (d : Nat) : Char :=
  if d < 10 then Char.ofNat (48 + d) else Char.ofNat (87 + d)

/-- Two lowercase hexadecimal digits. -/
def hexByte (b : UInt8) : String :=
  String.ofList [hexDigit (b.toNat / 16), hexDigit (b.toNat % 16)]

/-- Lowercase hexadecimal of a byte string, two digits a byte. -/
def hexBytes (bs : List UInt8) : String :=
  String.join (bs.map hexByte)

end Playout.Text
