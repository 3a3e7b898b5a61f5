import ManagedBridge.Json.Error
import ManagedBridge.Decimal.Shortest

/-!
# Numbers in JSON

A number that is only skipped is checked against the grammar. A number that is kept becomes a
natural or a negative integer while it fits 64 bits, and otherwise a floating-point number: a
significand of 64 bits, beyond which digits are only counted, scaled by a power of ten.
-/

namespace ManagedBridge.Json

inductive Number
  | natural (n : Nat)
  /-- The integer `-n`. -/
  | negative (n : Nat)
  | float (x : Float)

namespace Number

/-- Floating-point numbers are written with an exponent below `10 ^ -5` and from `10 ^ 16` on. -/
def layout : Decimal.Layout := ⟨-5, 15⟩

/-- What kind of value a number is, with its text. -/
def describe : Number → String
  | natural n => "integer `" ++ toString n ++ "`"
  | negative n => "integer `-" ++ toString n ++ "`"
  | float x => "floating point `" ++ layout.renderFloat x ++ "`"

/-- The greatest significand. -/
def greatest : Nat := Nat.pow 2 64 - 1

def digitValue (k : Char) : Nat := k.toNat - '0'.toNat

/-- The significand that `digits` extend `n` to, and the digits left once the next would exceed 64
bits. -/
def significand (n : Nat) : (digits : List Char) → Nat × List Char
  | [] => (n, [])
  | k :: digits =>
    if n * 10 + digitValue k > greatest then (n, k :: digits)
    else significand (n * 10 + digitValue k) digits

/-- The double nearest to `10 ^ e`. -/
def powerOfTen (e : Nat) : Float := Float.ofScientific 1 false e

/-- `x / 10 ^ e`, where a power beyond the range of doubles is divided off in steps. -/
def scaleDown (x : Float) (e : Nat) : Float :=
  if e ≤ 308 then x / powerOfTen e
  else if x == 0.0 then x
  else scaleDown (x / 1e308) (e - 308)
termination_by e

/-- The number `n * 10 ^ e`, unless it is beyond the range of doubles. -/
def scaled? (n : Nat) (e : Int) : Option Float :=
  let x := n.toUInt64.toFloat
  if e < 0 then some (scaleDown x e.natAbs)
  else if e ≤ 308 then
    let y := x * powerOfTen e.toNat
    if y.isInf then none else some y
  else if x == 0.0 then some x
  else none

def signed (positive : Bool) (x : Float) : Float := if positive then x else -x

/-- The floating-point number `± n * 10 ^ e`, read up to the cursor. -/
def ofParts (c : Cursor) (positive : Bool) (n : Nat) (e : Int) : Reading Number :=
  match scaled? n e with
  | some x => .ok (float (signed positive x), c)
  | none => c.fail .numberOutOfRange

/-- The greatest exponent that is read as it stands. -/
def greatestExponent : Nat := Nat.pow 2 31 - 1

/-- The exponent that `digits` extend `e` to, or what is left behind the digit that makes it too
large. -/
def exponentValue (c : Cursor) (e : Nat) : (digits : List Char) → Except Cursor Nat
  | [] => .ok e
  | k :: digits =>
    if e * 10 + digitValue k > greatestExponent then .error c.advance
    else exponentValue c.advance (e * 10 + digitValue k) digits

/-- An exponent within 32 bits. -/
def saturate (e : Int) : Int := max (-greatestExponent - 1) (min e greatestExponent)

/-- Reads an exponent from its letter on; the number is `± n * 10 ^ e` without it. -/
def readExponent (c : Cursor) (positive : Bool) (n : Nat) (e : Int) : Reading Number :=
  let c := c.advance
  let negativeExponent := c.peek? == some '-'
  let c := if c.peek? == some '+' || negativeExponent then c.advance else c
  match c.peek? with
  | none => c.fail .eofValue
  | some k =>
    if Cursor.isDigit k then
      let (digits, stop) := c.span Cursor.isDigit
      match exponentValue c 0 digits with
      | .ok value =>
        ofParts stop positive n (saturate (if negativeExponent then e - value else e + value))
      | .error c =>
        if n != 0 && !negativeExponent then c.fail .numberOutOfRange
        else .ok (float (signed positive 0.0), stop)
    else c.failAtPeek .invalidNumber

def isExponentMark (k : Option Char) : Bool := k == some 'e' || k == some 'E'

/-- Reads a fraction from its point on; the number is `± n * 10 ^ e` without it. -/
def readFraction (c : Cursor) (positive : Bool) (n : Nat) (e : Int) : Reading Number :=
  let c := c.advance
  let (digits, stop) := c.span Cursor.isDigit
  if digits.isEmpty then
    match c.peek? with
    | some _ => c.failAtPeek .invalidNumber
    | none => c.fail .eofValue
  else
    let (n', left) := significand n digits
    let e' := e - (digits.length - left.length)
    if isExponentMark stop.peek? then readExponent stop positive n' e'
    else ofParts stop positive n' e'

/-- Reads what follows the integer part `± n`, where `dropped` digits of it exceed 64 bits. -/
def readTail (c : Cursor) (positive : Bool) (n : Nat) (dropped : Nat) : Reading Number :=
  if c.peek? == some '.' then readFraction c positive n dropped
  else if isExponentMark c.peek? then readExponent c positive n dropped
  else if dropped > 0 then ofParts c positive n dropped
  else if positive then .ok (natural n, c)
  else if 0 < n && n ≤ Nat.pow 2 63 then .ok (negative n, c)
  else .ok (float (-n.toUInt64.toFloat), c)

/-- Whether a digit comes next. -/
def atDigit (c : Cursor) : Bool := (c.peek?.map Cursor.isDigit).getD false

/-- Reads a number from behind its sign. -/
def read (c : Cursor) (positive : Bool) : Reading Number :=
  match c.peek? with
  | none => c.fail .eofValue
  | some k =>
    if k == '0' then
      let c := c.advance
      if atDigit c then c.failAtPeek .invalidNumber
      else readTail c positive 0 0
    else if Cursor.isDigit k then
      let (digits, stop) := c.span Cursor.isDigit
      let (n, left) := significand 0 digits
      readTail stop positive n left.length
    else c.failAtPeek .invalidNumber

/-- The cursor behind a sign, if one comes next. -/
def skipSign (c : Cursor) : Cursor :=
  if c.peek? == some '+' || c.peek? == some '-' then c.advance else c

/-- Steps over the digits of an exponent, from behind its sign. -/
def skipExponentDigits (c : Cursor) : Except Error Cursor :=
  if atDigit c then .ok (c.span Cursor.isDigit).2 else c.failAtPeek .invalidNumber

/-- Steps over an exponent from its letter on. -/
def skipExponent (c : Cursor) : Except Error Cursor := skipExponentDigits (skipSign c.advance)

/-- Steps over a fraction from its point on. -/
def skipFraction (c : Cursor) : Except Error Cursor :=
  let c := c.advance
  let (digits, stop) := c.span Cursor.isDigit
  if digits.isEmpty then c.failAtPeek .invalidNumber
  else if isExponentMark stop.peek? then skipExponent stop
  else .ok stop

/-- Steps over what follows an integer part. -/
def skipTail (c : Cursor) : Except Error Cursor :=
  if c.peek? == some '.' then skipFraction c
  else if isExponentMark c.peek? then skipExponent c
  else .ok c

/-- Steps over a number from behind its sign. -/
def skip (c : Cursor) : Except Error Cursor :=
  match c.peek? with
  | none => c.fail .invalidNumber
  | some k =>
    if k == '0' then
      let c := c.advance
      if atDigit c then c.failAtPeek .invalidNumber
      else skipTail c
    else if Cursor.isDigit k then skipTail (c.span Cursor.isDigit).2
    else c.failAtPeek .invalidNumber

theorem length_span_isDigit_lt {c : Cursor} {k : Char} (hk : c.peek? = some k)
    (hd : Cursor.isDigit k = true) : (c.span Cursor.isDigit).2.rest.length < c.rest.length := by
  obtain ⟨rest, p⟩ := c
  cases rest with
  | nil => simp [Cursor.peek?] at hk
  | cons x xs =>
    simp only [Cursor.peek?, List.head?_cons, Option.some.injEq] at hk
    subst hk
    have := (List.dropWhile_suffix (l := xs) Cursor.isDigit).length_le
    simp only [Cursor.span, List.dropWhile_cons, hd, if_true, List.length_cons]
    omega

theorem length_advance_le (c : Cursor) : c.advance.rest.length ≤ c.rest.length := by
  obtain ⟨rest, p⟩ := c
  cases rest <;> simp [Cursor.advance]

theorem length_skipSign_le (c : Cursor) : (skipSign c).rest.length ≤ c.rest.length := by
  unfold skipSign
  split
  · exact length_advance_le c
  · exact Nat.le_refl _

theorem skipExponentDigits_length_le {c c' : Cursor} (h : skipExponentDigits c = .ok c') :
    c'.rest.length ≤ c.rest.length := by
  unfold skipExponentDigits at h
  split at h
  · cases h; exact Cursor.length_span_le _ _
  · simp [Cursor.failAtPeek] at h

theorem skipExponent_length_le {c c' : Cursor} (h : skipExponent c = .ok c') :
    c'.rest.length ≤ c.rest.length :=
  Nat.le_trans (skipExponentDigits_length_le h)
    (Nat.le_trans (length_skipSign_le _) (length_advance_le c))

theorem skipFraction_length_le {c c' : Cursor} (h : skipFraction c = .ok c') :
    c'.rest.length ≤ c.rest.length := by
  have hs := Nat.le_trans (Cursor.length_span_le Cursor.isDigit c.advance) (length_advance_le c)
  unfold skipFraction at h
  dsimp only at h
  split at h
  · simp [Cursor.failAtPeek] at h
  · split at h
    · exact Nat.le_trans (skipExponent_length_le h) hs
    · cases h; exact hs

theorem skipTail_length_le {c c' : Cursor} (h : skipTail c = .ok c') :
    c'.rest.length ≤ c.rest.length := by
  unfold skipTail at h
  split at h
  · exact skipFraction_length_le h
  · split at h
    · exact skipExponent_length_le h
    · cases h; exact Nat.le_refl _

theorem skip_length_lt {c c' : Cursor} (h : skip c = .ok c') :
    c'.rest.length < c.rest.length := by
  unfold skip at h
  split at h
  · simp [Cursor.fail] at h
  · rename_i k hk
    split at h
    · dsimp only at h
      split at h
      · simp [Cursor.failAtPeek] at h
      · exact Nat.lt_of_le_of_lt (skipTail_length_le h) (Cursor.length_advance_lt hk)
    · split at h
      · rename_i hd
        exact Nat.lt_of_le_of_lt (skipTail_length_le h) (length_span_isDigit_lt hk hd)
      · simp [Cursor.failAtPeek] at h

end Number

end ManagedBridge.Json
