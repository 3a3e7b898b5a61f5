/-!
# Blank text

The characters with the property `White_Space`, and texts that hold nothing else.
-/

namespace ManagedBridge.Text

/-- Whether a character has the property `White_Space`. -/
def isWhiteSpace (c : Char) : Bool :=
  let n := c.toNat
  (0x09 ≤ n && n ≤ 0x0d) || n == 0x20 || n == 0x85 || n == 0xa0 || n == 0x1680 ||
    (0x2000 ≤ n && n ≤ 0x200a) || n == 0x2028 || n == 0x2029 || n == 0x202f || n == 0x205f ||
    n == 0x3000

/-- Whether nothing is left of a text once white space is trimmed. -/
def isBlank (s : String) : Bool := s.toList.all isWhiteSpace

end ManagedBridge.Text
