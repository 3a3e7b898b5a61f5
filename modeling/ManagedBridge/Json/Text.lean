import ManagedBridge.Json.Error
import ManagedBridge.Text.Quoted

/-!
# Strings in JSON

A string is read either to be kept, with its escapes resolved and surrogates paired, or only to be
skipped, with escapes checked for their shape. Written strings escape the quote, the backslash and
the controls below U+0020, and nothing else.
-/

namespace ManagedBridge.Json

/-- The value of a hexadecimal digit of either case. -/
def hexDigit? (k : Char) : Option Nat :=
  if '0' ≤ k && k ≤ '9' then some (k.toNat - '0'.toNat)
  else if 'a' ≤ k && k ≤ 'f' then some (k.toNat - 'a'.toNat + 10)
  else if 'A' ≤ k && k ≤ 'F' then some (k.toNat - 'A'.toNat + 10)
  else none

/-- The value of four hexadecimal digits at the front of a text. -/
def hex4? : List Char → Option Nat
  | a :: b :: c :: d :: _ => do
    let a ← hexDigit? a
    let b ← hexDigit? b
    let c ← hexDigit? c
    let d ← hexDigit? d
    return ((a * 16 + b) * 16 + c) * 16 + d
  | _ => none

def byteLength (cs : List Char) : Nat := cs.foldl (fun n k => n + k.utf8Size) 0

/-- Reads four hexadecimal digits. Four bytes are taken before they are looked at. -/
def readHex4 (c : Cursor) : Reading Nat :=
  if byteLength (c.rest.take 4) < 4 then .error ⟨.eofString, c.endPosition⟩
  else
    match hex4? c.rest with
    | some n => .ok (n, ⟨c.rest.drop 4, c.position.afterAll (c.rest.take 4)⟩)
    | none => .error ⟨.invalidEscape, c.position.afterBytes 4 c.rest⟩

/-- Steps over the character `k`, which has to come next inside an escaped surrogate pair. -/
def readInPair (k : Char) (c : Cursor) : Except Error Cursor :=
  match c.peek? with
  | none => c.fail .eofString
  | some j => if j == k then .ok c.advance else c.failAtPeek .unexpectedEndOfHexEscape

def isHighSurrogate (n : Nat) : Bool := 0xd800 ≤ n && n ≤ 0xdbff

def isLowSurrogate (n : Nat) : Bool := 0xdc00 ≤ n && n ≤ 0xdfff

/-- Reads the second half of an escaped surrogate pair whose first half is `high`. -/
def readLowHalf (high : Nat) (c : Cursor) : Reading Char :=
  match readInPair '\\' c with
  | .error e => .error e
  | .ok c₁ =>
    match readInPair 'u' c₁ with
    | .error e => .error e
    | .ok c₂ =>
      match readHex4 c₂ with
      | .error e => .error e
      | .ok (low, c₃) =>
        if isLowSurrogate low then
          .ok (Char.ofNat (0x10000 + (high - 0xd800) * 0x400 + (low - 0xdc00)), c₃)
        else c₃.fail .loneSurrogate

/-- Reads what follows a backslash and a `u`. -/
def readUnicodeEscape (c : Cursor) : Reading Char :=
  match readHex4 c with
  | .error e => .error e
  | .ok (n, c₁) =>
    if isLowSurrogate n then c₁.fail .loneSurrogate
    else if isHighSurrogate n then readLowHalf n c₁
    else .ok (Char.ofNat n, c₁)

/-- The character that an escape of one letter stands for. -/
def shortEscape? : Char → Option Char
  | '"' => some '"'
  | '\\' => some '\\'
  | '/' => some '/'
  | 'b' => some '\x08'
  | 'f' => some '\x0c'
  | 'n' => some '\n'
  | 'r' => some '\r'
  | 't' => some '\t'
  | _ => none

/-- Reads what follows a backslash, to keep it. -/
def readEscape (c : Cursor) : Reading Char :=
  match c.peek? with
  | none => c.fail .eofString
  | some k =>
    if k == 'u' then readUnicodeEscape c.advance
    else
      match shortEscape? k with
      | some x => .ok (x, c.advance)
      | none => c.failAtPeek .invalidEscape

/-- Steps over what follows a backslash. -/
def skipEscape (c : Cursor) : Except Error Cursor :=
  match c.peek? with
  | none => c.fail .eofString
  | some k =>
    if k == 'u' then (readHex4 c.advance).map Prod.snd
    else if (shortEscape? k).isSome then .ok c.advance
    else c.failAtPeek .invalidEscape

theorem readHex4_length_le {c c' : Cursor} {n : Nat} (h : readHex4 c = .ok (n, c')) :
    c'.rest.length ≤ c.rest.length := by
  unfold readHex4 at h
  split at h
  · simp at h
  · split at h
    · cases h; simp
    · simp at h

theorem readInPair_length_le {k : Char} {c c' : Cursor} (h : readInPair k c = .ok c') :
    c'.rest.length ≤ c.rest.length := by
  unfold readInPair at h
  split at h
  · simp [Cursor.fail] at h
  · rename_i j hj
    split at h
    · cases h; exact Nat.le_of_lt (Cursor.length_advance_lt hj)
    · simp [Cursor.failAtPeek] at h

theorem readLowHalf_length_le {n : Nat} {c c' : Cursor} {x : Char}
    (h : readLowHalf n c = .ok (x, c')) : c'.rest.length ≤ c.rest.length := by
  unfold readLowHalf at h
  split at h
  · simp at h
  · rename_i c₁ h₁
    split at h
    · simp at h
    · rename_i c₂ h₂
      split at h
      · simp at h
      · rename_i low c₃ h₃
        split at h
        · simp only [Except.ok.injEq, Prod.mk.injEq] at h
          obtain ⟨-, rfl⟩ := h
          exact Nat.le_trans (readHex4_length_le h₃)
            (Nat.le_trans (readInPair_length_le h₂) (readInPair_length_le h₁))
        · simp [Cursor.fail] at h

theorem readUnicodeEscape_length_le {c c' : Cursor} {x : Char}
    (h : readUnicodeEscape c = .ok (x, c')) : c'.rest.length ≤ c.rest.length := by
  unfold readUnicodeEscape at h
  split at h
  · simp at h
  · rename_i n c₁ h₁
    have h₁ := readHex4_length_le h₁
    split at h
    · simp [Cursor.fail] at h
    · split at h
      · exact Nat.le_trans (readLowHalf_length_le h) h₁
      · cases h; exact h₁

theorem readEscape_length_lt {c c' : Cursor} {x : Char} (h : readEscape c = .ok (x, c')) :
    c'.rest.length < c.rest.length := by
  unfold readEscape at h
  split at h
  · simp [Cursor.fail] at h
  · rename_i k hk
    have hk := Cursor.length_advance_lt hk
    split at h
    · exact Nat.lt_of_le_of_lt (readUnicodeEscape_length_le h) hk
    · split at h
      · cases h; exact hk
      · simp [Cursor.failAtPeek] at h

theorem skipEscape_length_lt {c c' : Cursor} (h : skipEscape c = .ok c') :
    c'.rest.length < c.rest.length := by
  unfold skipEscape at h
  split at h
  · simp [Cursor.fail] at h
  · rename_i k hk
    have hk := Cursor.length_advance_lt hk
    split at h
    · cases hr : readHex4 c.advance with
      | error e => simp [hr, Except.map] at h
      | ok p =>
        obtain ⟨n, c₁⟩ := p
        simp only [hr, Except.map, Except.ok.injEq] at h
        subst h
        exact Nat.lt_of_le_of_lt (readHex4_length_le hr) hk
    · split at h
      · cases h; exact hk
      · simp [Cursor.failAtPeek] at h

set_option linter.unusedVariables false in
/-- Reads a string to keep it, from behind its opening quote; `done` holds the characters read so
far, the last one first. -/
def readText (done : List Char) (c : Cursor) : Reading String :=
  match hk : c.peek? with
  | none => c.fail .eofString
  | some k =>
    if k == '"' then .ok (String.ofList done.reverse, c.advance)
    else if k == '\\' then
      match he : readEscape c.advance with
      | .error e => .error e
      | .ok (x, c') => readText (x :: done) c'
    else if k < ' ' then c.failAtPeek .controlCharacter
    else readText (k :: done) c.advance
termination_by c.rest.length
decreasing_by
  · exact Nat.lt_trans (readEscape_length_lt he) (Cursor.length_advance_lt hk)
  · exact Cursor.length_advance_lt hk

set_option linter.unusedVariables false in
/-- Steps over a string, from behind its opening quote. -/
def skipText (c : Cursor) : Except Error Cursor :=
  match hk : c.peek? with
  | none => c.fail .eofString
  | some k =>
    if k == '"' then .ok c.advance
    else if k == '\\' then
      match he : skipEscape c.advance with
      | .error e => .error e
      | .ok c' => skipText c'
    else if k < ' ' then c.fail .controlCharacter
    else skipText c.advance
termination_by c.rest.length
decreasing_by
  · exact Nat.lt_trans (skipEscape_length_lt he) (Cursor.length_advance_lt hk)
  · exact Cursor.length_advance_lt hk

theorem skipText_length_lt {c c' : Cursor} (h : skipText c = .ok c') :
    c'.rest.length < c.rest.length := by
  fun_induction skipText c with
  | case1 => simp [Cursor.fail] at h
  | case2 => rename_i hk _; cases h; exact Cursor.length_advance_lt hk
  | case3 => simp at h
  | case4 c k hk _ _ c₁ he ih =>
    exact Nat.lt_trans (ih h)
      (Nat.lt_trans (skipEscape_length_lt he) (Cursor.length_advance_lt hk))
  | case5 => simp [Cursor.fail] at h
  | case6 c k hk _ _ _ ih => exact Nat.lt_trans (ih h) (Cursor.length_advance_lt hk)

/-- The four hexadecimal digits of a code point below U+10000. -/
def fourHex (n : Nat) : List Char :=
  [n / 0x1000 % 0x10, n / 0x100 % 0x10, n / 0x10 % 0x10, n % 0x10].map Nat.digitChar

/-- One character as it is written inside a string. -/
def writeChar (k : Char) : List Char :=
  match k with
  | '"' => ['\\', '"']
  | '\\' => ['\\', '\\']
  | '\x08' => ['\\', 'b']
  | '\x0c' => ['\\', 'f']
  | '\n' => ['\\', 'n']
  | '\r' => ['\\', 'r']
  | '\t' => ['\\', 't']
  | k => if k < ' ' then '\\' :: 'u' :: fourHex k.toNat else [k]

/-- A string with its quotes. -/
def writeText (s : String) : List Char := '"' :: s.toList.flatMap writeChar ++ ['"']

end ManagedBridge.Json
