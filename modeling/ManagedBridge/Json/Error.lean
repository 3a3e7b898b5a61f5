import ManagedBridge.Json.Cursor

/-!
# Reading errors

Why a JSON text cannot be read as what was asked for, and where.
-/

namespace ManagedBridge.Json

inductive ErrorKind
  | eofValue
  | eofObject
  | eofList
  | eofString
  | expectedIdent
  | expectedValue
  | expectedColon
  | expectedObjectCommaOrEnd
  | expectedListCommaOrEnd
  | trailingComma
  | trailingCharacters
  | keyMustBeString
  | invalidNumber
  | numberOutOfRange
  | invalidEscape
  | loneSurrogate
  | unexpectedEndOfHexEscape
  | controlCharacter
  | duplicateField (name : String)
  /-- A value of another type stands where `expected` was asked for. -/
  | invalidType (found expected : String)
  deriving DecidableEq, Repr

def ErrorKind.message : ErrorKind → String
  | eofValue => "EOF while parsing a value"
  | eofObject => "EOF while parsing an object"
  | eofList => "EOF while parsing a list"
  | eofString => "EOF while parsing a string"
  | expectedIdent => "expected ident"
  | expectedValue => "expected value"
  | expectedColon => "expected `:`"
  | expectedObjectCommaOrEnd => "expected `,` or `\x7d`"
  | expectedListCommaOrEnd => "expected `,` or `]`"
  | trailingComma => "trailing comma"
  | trailingCharacters => "trailing characters"
  | keyMustBeString => "key must be a string"
  | invalidNumber => "invalid number"
  | numberOutOfRange => "number out of range"
  | invalidEscape => "invalid escape"
  | loneSurrogate => "lone leading surrogate in hex escape"
  | unexpectedEndOfHexEscape => "unexpected end of hex escape"
  | controlCharacter => "control character (\\u0000-\\u001F) found while parsing a string"
  | duplicateField name => "duplicate field `" ++ name ++ "`"
  | invalidType found expected => "invalid type: " ++ found ++ ", expected " ++ expected

structure Error where
  kind : ErrorKind
  position : Position
  deriving DecidableEq, Repr

def Error.message (e : Error) : String :=
  e.kind.message ++ " at line " ++ toString e.position.line ++ " column " ++
    toString e.position.column

/-- What reading at a cursor gives: a value and the cursor behind it, or an error. -/
abbrev Reading (α : Type) := Except Error (α × Cursor)

namespace Cursor

/-- An error behind what has been read. -/
def fail {α : Type} (c : Cursor) (kind : ErrorKind) : Except Error α :=
  .error ⟨kind, c.position⟩

/-- An error at the next byte. -/
def failAtPeek {α : Type} (c : Cursor) (kind : ErrorKind) : Except Error α :=
  .error ⟨kind, c.peekPosition⟩

/-- Reads the characters of `word` one by one. -/
def readIdent (c : Cursor) : (word : List Char) → Except Error Cursor
  | [] => .ok c
  | w :: word =>
    match c.rest with
    | [] => c.fail .eofValue
    | k :: rest =>
      if k == w then readIdent ⟨rest, c.position.after k⟩ word else c.failAtPeek .expectedIdent

theorem readIdent_length_le {c c' : Cursor} {word : List Char} (h : c.readIdent word = .ok c') :
    c'.rest.length ≤ c.rest.length := by
  induction word generalizing c with
  | nil => cases h; exact Nat.le_refl _
  | cons w word ih =>
    unfold readIdent at h
    split at h
    · simp [fail] at h
    · rename_i k rest hr
      split at h
      · have := ih h; simp only [hr, List.length_cons]; simp only at this; omega
      · simp [failAtPeek] at h

end Cursor

end ManagedBridge.Json
