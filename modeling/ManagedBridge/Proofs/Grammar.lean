import ManagedBridge.Text.Utf16

/-!
# The grammar of JSON

What a JSON text is, whoever reads it. A string is spelled symbol by symbol, and what a spelling
denotes is said in units of UTF-16, because an escape by number is one unit: a character beyond
U+FFFF takes two of them, and a surrogate on its own denotes nothing. Values carry no meaning here;
that a text is one is a derivation, which lists and objects nest to any depth.
-/

namespace ManagedBridge.Json

/-- The characters of insignificant white space. -/
def whiteSpace : List Char := [' ', '\t', '\n', '\r']

/-- Insignificant white space, any amount of it. -/
structure Blanks where
  chars : List Char
  white : ∀ k ∈ chars, k ∈ whiteSpace

namespace Blanks

/-- No white space at all. -/
def none : Blanks := ⟨[], List.forall_mem_nil _⟩

@[simp] theorem chars_none : none.chars = [] := rfl

end Blanks

/-- A hexadecimal digit, in either case. -/
structure HexDigit where
  value : Fin 16
  upper : Bool

def HexDigit.char (d : HexDigit) : Char :=
  if d.upper then (Nat.digitChar d.value).toUpper else Nat.digitChar d.value

/-- The letters of short escapes, with the characters that they stand for. -/
def shortEscapes : List (Char × Char) :=
  [('"', '"'), ('\\', '\\'), ('/', '/'), ('b', '\x08'), ('f', '\x0c'), ('n', '\n'), ('r', '\r'),
    ('t', '\t')]

/-- What stands for a character, or for half of one, inside a string. -/
inductive Symbol
  /-- The character itself. -/
  | plain (k : Char) (allowed : k ≠ '"' ∧ k ≠ '\\' ∧ ' ' ≤ k)
  /-- A backslash and a letter. -/
  | short (letter value : Char) (listed : (letter, value) ∈ shortEscapes)
  /-- A backslash, a `u` and the four digits of a unit. -/
  | unicode (a b c d : HexDigit)

/-- The number that four hexadecimal digits give. -/
def fourDigits (a b c d : HexDigit) : Nat :=
  ((a.value * 16 + b.value) * 16 + c.value) * 16 + d.value

namespace Symbol

def text : Symbol → List Char
  | plain k _ => [k]
  | short letter _ _ => ['\\', letter]
  | unicode a b c d => ['\\', 'u', a.char, b.char, c.char, d.char]

/-- The units that are denoted. -/
def units : Symbol → List UInt16
  | plain k _ => Text.Utf16.encodeChar k
  | short _ value _ => Text.Utf16.encodeChar value
  | unicode a b c d => [(fourDigits a b c d).toUInt16]

end Symbol

/-- What stands between the quotes of a string. -/
abbrev Spelling := List Symbol

namespace Spelling

def text (s : Spelling) : List Char := s.flatMap Symbol.text

def units (s : Spelling) : List UInt16 := s.flatMap Symbol.units

/-- The string with its quotes. -/
def quoted (s : Spelling) : List Char := '"' :: (s.text ++ ['"'])

def Denotes (s : Spelling) (value : String) : Prop := s.units = Text.Utf16.encode value

instance (s : Spelling) (value : String) : Decidable (s.Denotes value) :=
  inferInstanceAs (Decidable (s.units = Text.Utf16.encode value))

end Spelling

def IsDigit (k : Char) : Prop := '0' ≤ k ∧ k ≤ '9'

instance (k : Char) : Decidable (IsDigit k) := inferInstanceAs (Decidable ('0' ≤ k ∧ k ≤ '9'))

/-- One digit or more. -/
def IsDigits (text : List Char) : Prop := text ≠ [] ∧ ∀ k ∈ text, IsDigit k

/-- Zero, or digits of which the first is not zero. -/
inductive IsWhole : List Char → Prop
  | zero : IsWhole ['0']
  | digits {k : Char} {ks : List Char} :
    IsDigit k → k ≠ '0' → (∀ j ∈ ks, IsDigit j) → IsWhole (k :: ks)

inductive IsFraction : List Char → Prop
  | absent : IsFraction []
  | present {ks : List Char} : IsDigits ks → IsFraction ('.' :: ks)

inductive IsExponent : List Char → Prop
  | absent : IsExponent []
  | present {mark : Char} {sign ks : List Char} :
    mark ∈ ['e', 'E'] → sign ∈ [[], ['+'], ['-']] → IsDigits ks → IsExponent (mark :: (sign ++ ks))

inductive IsNumber : List Char → Prop
  | mk {sign whole fraction exponent : List Char} :
    sign ∈ [[], ['-']] → IsWhole whole → IsFraction fraction → IsExponent exponent →
      IsNumber (sign ++ (whole ++ (fraction ++ exponent)))

/-- Texts between brackets, separated by commas. -/
def enclosed (opening closing : Char) (gap : Blanks) (texts : List (List Char)) : List Char :=
  opening :: (List.intercalate [','] texts ++ (gap.chars ++ [closing]))

/-- A place for a value, with the white space around it. -/
structure Element where
  before : Blanks
  value : List Char
  after : Blanks

def Element.text (e : Element) : List Char := e.before.chars ++ (e.value ++ e.after.chars)

/-- A place for a value behind a key and a colon. -/
structure Member extends Element where
  margin : Blanks
  key : Spelling
  gap : Blanks

def Member.text (m : Member) : List Char :=
  m.margin.chars ++ (m.key.quoted ++ (m.gap.chars ++ ':' :: m.toElement.text))

def listText (gap : Blanks) (es : List Element) : List Char :=
  enclosed '[' ']' gap (es.map Element.text)

def objectText (gap : Blanks) (ms : List Member) : List Char :=
  enclosed '{' '}' gap (ms.map Member.text)

/-- The text is a value: a list or an object of values, or one of those that have no parts. -/
inductive IsValue : List Char → Prop
  | null : IsValue "null".toList
  | bool (b : Bool) : IsValue (if b then "true" else "false").toList
  | number {text : List Char} : IsNumber text → IsValue text
  | string (s : Spelling) : IsValue s.quoted
  | list (gap : Blanks) (es : List Element) :
    (∀ e ∈ es, IsValue e.value) → IsValue (listText gap es)
  | object (gap : Blanks) (ms : List Member) :
    (∀ m ∈ ms, IsValue m.value) → IsValue (objectText gap ms)

end ManagedBridge.Json
