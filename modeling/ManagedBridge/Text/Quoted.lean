import ManagedBridge.Text.Graphic
import ManagedBridge.Text.GraphemeExtend

/-!
# Quoted text

A text between double quotes, for diagnostics: the quote and the backslash are escaped, the usual
controls have a letter, and whatever has no visible form of its own is written as its code point.
-/

namespace ManagedBridge.Text

/-- The hexadecimal digits of `n`, in lower case and without leading zeros. -/
def hexDigits (n : Nat) : String := String.ofList (Nat.toDigits 16 n)

namespace Quoted

/-- One character as it stands between the quotes. -/
def escape (c : Char) : String :=
  match c with
  | '\x00' => "\\0"
  | '\t' => "\\t"
  | '\r' => "\\r"
  | '\n' => "\\n"
  | '"' => "\\\""
  | '\\' => "\\\\"
  | c =>
    if isGraphic c && !isGraphemeExtend c then c.toString
    else "\\u\x7b" ++ hexDigits c.toNat ++ "\x7d"

end Quoted

/-- A text between quotes. -/
def quoted (s : String) : String :=
  "\"" ++ String.join (s.toList.map Quoted.escape) ++ "\""

end ManagedBridge.Text
