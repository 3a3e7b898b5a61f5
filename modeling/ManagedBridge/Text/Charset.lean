import ManagedBridge.Text.Utf8
import ManagedBridge.Text.Utf16

/-!
# Charsets

A charset turns bytes into UTF-16 text and back. Decoding never fails: what has no meaning becomes
U+FFFD. Encoding never fails either: a code point that the charset lacks, or an unpaired surrogate,
becomes one question mark.
-/

namespace ManagedBridge.Text

inductive Charset
  | utf8
  | latin1
  | ascii
  deriving DecidableEq, Repr

namespace Charset

/-- The canonical name. -/
def name : Charset → String
  | utf8 => "UTF-8"
  | latin1 => "ISO-8859-1"
  | ascii => "US-ASCII"

def all : List Charset := [utf8, latin1, ascii]

/-- A name with its ASCII letters in lower case. -/
def fold (s : String) : List Char := s.toList.map Char.toLower

/-- The charset of a name; the case of ASCII letters does not matter. -/
def forName? (s : String) : Option Charset :=
  all.find? fun c => fold c.name == fold s

def decode : Charset → List UInt8 → List UInt16
  | utf8, bytes => Utf16.encodeChars (Utf8.decodeLossyChars bytes)
  | latin1, bytes => bytes.map UInt8.toUInt16
  | ascii, bytes => bytes.map fun b => if b < 0x80 then b.toUInt16 else 0xfffd

/-- The bytes of one code point, or of an unpaired surrogate. -/
def encodePart : Charset → Option Char → List UInt8
  | _, none => [0x3f]
  | utf8, some c => String.utf8EncodeChar c
  | latin1, some c => if c.toNat < 0x100 then [c.toNat.toUInt8] else [0x3f]
  | ascii, some c => if c.toNat < 0x80 then [c.toNat.toUInt8] else [0x3f]

def encode (cs : Charset) (units : List UInt16) : List UInt8 :=
  (Utf16.parts units).flatMap (encodePart cs)

end Charset

end ManagedBridge.Text
