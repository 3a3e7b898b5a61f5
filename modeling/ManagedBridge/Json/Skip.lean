import ManagedBridge.Json.Text
import ManagedBridge.Json.Number

/-!
# Skipping values

A value that nobody asked for is checked for its syntax and dropped. Brackets that are open are
kept on a stack, so values nest to any depth.
-/

namespace ManagedBridge.Json

inductive Bracket
  | list
  | object
  deriving DecidableEq, Repr

namespace Bracket

def close : Bracket → Char
  | list => ']'
  | object => '}'

def eof : Bracket → ErrorKind
  | list => .eofList
  | object => .eofObject

def expectedCommaOrEnd : Bracket → ErrorKind
  | list => .expectedListCommaOrEnd
  | object => .expectedObjectCommaOrEnd

end Bracket

/-- Steps over a value that is not a list or an object and starts with `k`. -/
def skipScalar (k : Char) (c : Cursor) : Except Error Cursor :=
  if k == 'n' then c.advance.readIdent ['u', 'l', 'l']
  else if k == 't' then c.advance.readIdent ['r', 'u', 'e']
  else if k == 'f' then c.advance.readIdent ['a', 'l', 's', 'e']
  else if k == '-' then Number.skip c.advance
  else if Cursor.isDigit k then Number.skip c
  else if k == '"' then skipText c.advance
  else c.failAtPeek .expectedValue

/-- Steps over the colon between a key and its value. -/
def skipColon (c : Cursor) : Except Error Cursor :=
  let c := c.skipBlank
  match c.peek? with
  | none => c.fail .eofObject
  | some k => if k == ':' then .ok c.advance else c.failAtPeek .expectedColon

/-- Steps over what stands in front of a value inside `bracket`: in an object, its key. -/
def skipKey (bracket : Bracket) (c : Cursor) : Except Error Cursor :=
  match bracket with
  | .list => .ok c
  | .object =>
    let c := c.skipBlank
    match c.peek? with
    | none => c.fail .eofObject
    | some k =>
      if k == '"' then
        match skipText c.advance with
        | .error e => .error e
        | .ok c => skipColon c
      else c.failAtPeek .keyMustBeString

theorem skipScalar_length_lt {k : Char} {c c' : Cursor} (hk : c.peek? = some k)
    (h : skipScalar k c = .ok c') : c'.rest.length < c.rest.length := by
  have ha := Cursor.length_advance_lt hk
  unfold skipScalar at h
  split at h
  · exact Nat.lt_of_le_of_lt (Cursor.readIdent_length_le h) ha
  split at h
  · exact Nat.lt_of_le_of_lt (Cursor.readIdent_length_le h) ha
  split at h
  · exact Nat.lt_of_le_of_lt (Cursor.readIdent_length_le h) ha
  split at h
  · exact Nat.lt_trans (Number.skip_length_lt h) ha
  split at h
  · exact Number.skip_length_lt h
  split at h
  · exact Nat.lt_trans (skipText_length_lt h) ha
  · simp [Cursor.failAtPeek] at h

theorem skipColon_length_le {c c' : Cursor} (h : skipColon c = .ok c') :
    c'.rest.length ≤ c.rest.length := by
  unfold skipColon at h
  dsimp only at h
  split at h
  · simp [Cursor.fail] at h
  · rename_i k hk
    split at h
    · cases h
      exact Nat.le_trans (Nat.le_of_lt (Cursor.length_advance_lt hk)) c.length_skipBlank_le
    · simp [Cursor.failAtPeek] at h

theorem skipKey_length_le {b : Bracket} {c c' : Cursor} (h : skipKey b c = .ok c') :
    c'.rest.length ≤ c.rest.length := by
  cases b with
  | list => cases h; exact Nat.le_refl _
  | object =>
    unfold skipKey at h
    dsimp only at h
    split at h
    · simp [Cursor.fail] at h
    · rename_i k hk
      split at h
      · split at h
        · simp at h
        · rename_i c₁ h₁
          exact Nat.le_trans (skipColon_length_le h)
            (Nat.le_trans (Nat.le_of_lt (skipText_length_lt h₁))
              (Nat.le_trans (Nat.le_of_lt (Cursor.length_advance_lt hk)) c.length_skipBlank_le))
      · simp [Cursor.failAtPeek] at h

/-- Where the reader stands between the brackets that are open. -/
inductive Standing
  /-- A value has to come. -/
  | beforeValue
  /-- A bracket has just been opened; it may be closed at once. -/
  | afterOpen
  /-- A value has been read. -/
  | afterValue
  deriving DecidableEq, Repr

/-- How many times more the reader may change its standing without reading on. -/
def Standing.rank : Standing → Nat
  | beforeValue => 0
  | afterOpen => 1
  | afterValue => 0

set_option linter.unusedVariables false in
/-- Steps over what is left of a value once the brackets in `opened`, the innermost first, have been
opened. -/
def skipOpened (standing : Standing) (opened : List Bracket) (c₀ : Cursor) :
    Except Error Cursor :=
  match standing with
  | .beforeValue =>
    match hk : c₀.skipBlank.peek? with
    | none => c₀.skipBlank.fail .eofValue
    | some k =>
      if k == '[' then skipOpened .afterOpen (.list :: opened) c₀.skipBlank.advance
      else if k == '{' then skipOpened .afterOpen (.object :: opened) c₀.skipBlank.advance
      else
        match hs : skipScalar k c₀.skipBlank with
        | .error e => .error e
        | .ok c => skipOpened .afterValue opened c
  | .afterOpen =>
    match opened with
    | [] => .ok c₀
    | bracket :: outer =>
      match hk : c₀.skipBlank.peek? with
      | none => c₀.skipBlank.fail bracket.eof
      | some k =>
        if k == bracket.close then skipOpened .afterValue outer c₀.skipBlank.advance
        else
          match hs : skipKey bracket c₀.skipBlank with
          | .error e => .error e
          | .ok c => skipOpened .beforeValue (bracket :: outer) c
  | .afterValue =>
    match opened with
    | [] => .ok c₀
    | bracket :: outer =>
      match hk : c₀.skipBlank.peek? with
      | none => c₀.skipBlank.fail bracket.eof
      | some k =>
        if k == bracket.close then skipOpened .afterValue outer c₀.skipBlank.advance
        else if k == ',' then
          match hs : skipKey bracket c₀.skipBlank.advance with
          | .error e => .error e
          | .ok c => skipOpened .beforeValue (bracket :: outer) c
        else c₀.skipBlank.failAtPeek bracket.expectedCommaOrEnd
termination_by (c₀.rest.length, standing.rank)
decreasing_by
  all_goals
    have hb := c₀.length_skipBlank_le
    have ha := Cursor.length_advance_lt hk
  · exact Prod.Lex.left _ _ (Nat.lt_of_lt_of_le ha hb)
  · exact Prod.Lex.left _ _ (Nat.lt_of_lt_of_le ha hb)
  · exact Prod.Lex.left _ _ (Nat.lt_of_lt_of_le (skipScalar_length_lt hk hs) hb)
  · exact Prod.Lex.left _ _ (Nat.lt_of_lt_of_le ha hb)
  · have := skipKey_length_le hs
    rcases Nat.lt_or_eq_of_le (Nat.le_trans this hb) with hlt | heq
    · exact Prod.Lex.left _ _ hlt
    · rw [heq]; exact Prod.Lex.right _ (by decide)
  · exact Prod.Lex.left _ _ (Nat.lt_of_lt_of_le ha hb)
  · exact Prod.Lex.left _ _ (Nat.lt_of_le_of_lt (skipKey_length_le hs) (Nat.lt_of_lt_of_le ha hb))

/-- Steps over one value. -/
def skipValue (c : Cursor) : Except Error Cursor := skipOpened .beforeValue [] c

end ManagedBridge.Json
