/-!
# Cursors

A cursor is what is left of a text, with the position of what has been read. Lines are counted from
one. Columns count bytes of UTF-8 since the last newline, so a newline is followed by column zero
of the next line.
-/

namespace ManagedBridge.Json

structure Position where
  line : Nat
  column : Nat
  deriving DecidableEq, Repr

namespace Position

def start : Position := ⟨1, 0⟩

/-- The position once `c` has been read. -/
def after (p : Position) (c : Char) : Position :=
  if c == '\n' then ⟨p.line + 1, 0⟩ else ⟨p.line, p.column + c.utf8Size⟩

/-- The position once the first byte of `c` has been read. -/
def afterByte (p : Position) (c : Char) : Position :=
  if c == '\n' then ⟨p.line + 1, 0⟩ else ⟨p.line, p.column + 1⟩

/-- The position once `cs` has been read. -/
def afterAll (p : Position) (cs : List Char) : Position := cs.foldl after p

/-- The position once `n` bytes of `cs` have been read; the last character may be cut. -/
def afterBytes (p : Position) : Nat → List Char → Position
  | _, [] => p
  | n, c :: cs =>
    if n == 0 then p
    else if c == '\n' then afterBytes ⟨p.line + 1, 0⟩ (n - 1) cs
    else afterBytes ⟨p.line, p.column + min n c.utf8Size⟩ (n - c.utf8Size) cs

end Position

structure Cursor where
  rest : List Char
  position : Position
  deriving DecidableEq, Repr

namespace Cursor

def ofText (s : String) : Cursor := ⟨s.toList, .start⟩

def peek? (c : Cursor) : Option Char := c.rest.head?

/-- The cursor behind the next character; at the end of the text it stays. -/
def advance (c : Cursor) : Cursor :=
  match c.rest with
  | [] => c
  | k :: rest => ⟨rest, c.position.after k⟩

/-- The position of the next byte; at the end of the text, that of the last. -/
def peekPosition (c : Cursor) : Position :=
  match c.rest with
  | [] => c.position
  | k :: _ => c.position.afterByte k

/-- The position of the end of the text. -/
def endPosition (c : Cursor) : Position := c.position.afterAll c.rest

/-- The characters from the cursor on that satisfy `p`, and the cursor behind them. -/
def span (p : Char → Bool) (c : Cursor) : List Char × Cursor :=
  let taken := c.rest.takeWhile p
  (taken, ⟨c.rest.dropWhile p, c.position.afterAll taken⟩)

/-- Insignificant white space. -/
def isBlank (k : Char) : Bool := k == ' ' || k == '\n' || k == '\t' || k == '\r'

def skipBlank (c : Cursor) : Cursor := (c.span isBlank).2

def isDigit (k : Char) : Bool := '0' ≤ k && k ≤ '9'

@[simp] theorem advance_cons (k : Char) (rest : List Char) (p : Position) :
    (advance ⟨k :: rest, p⟩) = ⟨rest, p.after k⟩ := rfl

theorem length_advance_lt {c : Cursor} {k : Char} (h : c.peek? = some k) :
    c.advance.rest.length < c.rest.length := by
  obtain ⟨rest, p⟩ := c
  cases rest with
  | nil => simp [peek?] at h
  | cons x xs => simp [advance]

theorem length_span_le (p : Char → Bool) (c : Cursor) :
    (c.span p).2.rest.length ≤ c.rest.length :=
  (List.dropWhile_suffix p).length_le

theorem length_skipBlank_le (c : Cursor) : c.skipBlank.rest.length ≤ c.rest.length :=
  length_span_le _ c

end Cursor

end ManagedBridge.Json
