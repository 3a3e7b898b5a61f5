import Mathlib.Data.List.Basic
import Mathlib.Tactic.IntervalCases
import ManagedBridge.Json.Text

/-!
# Strings are read as they were written

Writing a string as JSON escapes the quote, the backslash and the controls; reading it resolves the
escapes. The two are inverse on every string, whatever stands behind it: a reader `Reads` a text
when it takes exactly that text off the front, and every result here and about whole objects is of
that form, so that readers can be put one behind the other.
-/

namespace ManagedBridge.Json

namespace Position

@[simp] theorem afterAll_nil (p : Position) : p.afterAll [] = p := rfl

@[simp] theorem afterAll_cons (p : Position) (k : Char) (ks : List Char) :
    p.afterAll (k :: ks) = (p.after k).afterAll ks := rfl

@[simp] theorem afterAll_append (p : Position) (ks js : List Char) :
    p.afterAll (ks ++ js) = (p.afterAll ks).afterAll js := by
  simp [afterAll, List.foldl_append]

end Position

namespace Cursor

@[simp] theorem peek?_cons (k : Char) (rest : List Char) (p : Position) :
    peek? ⟨k :: rest, p⟩ = some k := rfl

end Cursor

/-- The reader takes `text` off the front of whatever it stands before, and makes `value` of it. -/
def Reads {α : Type} (read : Cursor → Reading α) (text : List Char) (value : α) : Prop :=
  ∀ rest p, read ⟨text ++ rest, p⟩ = .ok (value, ⟨rest, p.afterAll text⟩)

theorem Reads.map {α β : Type} {read : Cursor → Reading α} {text : List Char} {value : α}
    (h : Reads read text value) (f : α → β) :
    Reads (fun c => (read c).map (Prod.map f id)) text (f value) := by
  intro rest p
  simp [h rest p, Except.map]

theorem hexDigit?_digitChar {d : Nat} (h : d < 16) : hexDigit? (Nat.digitChar d) = some d := by
  interval_cases d <;> rfl

/-- A hexadecimal digit takes one byte, so that four of them are the four bytes that are taken. -/
theorem utf8Size_digitChar {d : Nat} (h : d < 16) : (Nat.digitChar d).utf8Size = 1 := by
  interval_cases d <;> rfl

theorem byteLength_fourHex (n : Nat) : byteLength (fourHex n) = 4 := by
  have size (d : Nat) : (Nat.digitChar (d % 0x10)).utf8Size = 1 :=
    utf8Size_digitChar (Nat.mod_lt d (by decide))
  simp [byteLength, fourHex, size]

theorem hex4?_fourHex {n : Nat} (h : n < 0x10000) (rest : List Char) :
    hex4? (fourHex n ++ rest) = some n := by
  have value (d : Nat) : hexDigit? (Nat.digitChar (d % 0x10)) = some (d % 0x10) :=
    hexDigit?_digitChar (Nat.mod_lt d (by decide))
  have digits : ((n / 0x1000 % 0x10 * 16 + n / 0x100 % 0x10) * 16 + n / 0x10 % 0x10) * 16 +
      n % 0x10 = n := by
    omega
  simp [fourHex, hex4?, value, digits]

theorem readHex4_fourHex {n : Nat} (h : n < 0x10000) : Reads readHex4 (fourHex n) n := by
  intro rest p
  have taken : (fourHex n ++ rest).take 4 = fourHex n := by simp [fourHex]
  have left : (fourHex n ++ rest).drop 4 = rest := by simp [fourHex]
  simp [readHex4, taken, left, byteLength_fourHex, hex4?_fourHex h]

theorem readEscape_short {l x : Char} (h : shortEscape? l = some x) : Reads readEscape [l] x := by
  intro rest p
  have hu : l ≠ 'u' := by
    rintro rfl
    simp [shortEscape?] at h
  simp [readEscape, hu, h]

/-- A code point outside the surrogates is escaped by its number. -/
theorem readEscape_fourHex {k : Char} (h : k.toNat < 0xd800) :
    Reads readEscape ('u' :: fourHex k.toNat) k := by
  intro rest p
  have hread := readHex4_fourHex (n := k.toNat) (by omega) rest (p.after 'u')
  have hlow : isLowSurrogate k.toNat = false := by simp [isLowSurrogate]; omega
  have hhigh : isHighSurrogate k.toNat = false := by simp [isHighSurrogate]; omega
  simp [readEscape, readUnicodeEscape, hread, hlow, hhigh]

theorem readText_quote (done rest : List Char) (p : Position) :
    readText done ⟨'"' :: rest, p⟩ = .ok (String.ofList done.reverse, ⟨rest, p.after '"'⟩) := by
  rw [readText]
  simp

theorem readText_escape {text : List Char} {x : Char} (h : Reads readEscape text x)
    (done rest : List Char) (p : Position) :
    readText done ⟨'\\' :: text ++ rest, p⟩ =
      readText (x :: done) ⟨rest, p.afterAll ('\\' :: text)⟩ := by
  have hread := h rest (p.after '\\')
  rw [readText]
  simp only [List.cons_append, Cursor.peek?_cons, Cursor.advance_cons]
  simp only [Char.reduceBEq, Bool.false_eq_true, if_false, beq_self_eq_true, if_true]
  split
  next e he => simp [hread] at he
  next y c' he =>
    obtain ⟨rfl, rfl⟩ : x = y ∧ _ = c' := by simpa [hread] using he
    simp

theorem readText_plain {k : Char} (hquote : k ≠ '"') (hslash : k ≠ '\\') (hcontrol : ¬ k < ' ')
    (done rest : List Char) (p : Position) :
    readText done ⟨k :: rest, p⟩ = readText (k :: done) ⟨rest, p.after k⟩ := by
  rw [readText]
  simp [hquote, hslash, hcontrol]

/-- Whatever way a character is written, reading goes on behind it with the character kept. -/
theorem readText_writeChar (k : Char) (done rest : List Char) (p : Position) :
    readText done ⟨writeChar k ++ rest, p⟩ =
      readText (k :: done) ⟨rest, p.afterAll (writeChar k)⟩ := by
  unfold writeChar
  split
  iterate 7 exact readText_escape (readEscape_short rfl) done rest p
  next _ hquote hslash _ _ _ _ _ =>
    by_cases hcontrol : k < ' '
    · have hsmall : k.toNat < 0xd800 := by
        have : k.toNat < ' '.toNat := hcontrol
        exact this.trans (by decide)
      simpa [hcontrol] using readText_escape (readEscape_fourHex hsmall) done rest p
    · simpa [hcontrol] using readText_plain hquote hslash hcontrol done rest p

theorem readText_flatMap_writeChar (ks done rest : List Char) (p : Position) :
    readText done ⟨ks.flatMap writeChar ++ '"' :: rest, p⟩ =
      .ok (String.ofList (done.reverse ++ ks),
        ⟨rest, p.afterAll (ks.flatMap writeChar ++ ['"'])⟩) := by
  induction ks generalizing done p with
  | nil => simp [readText_quote]
  | cons k ks ih =>
    have hstep := readText_writeChar k done (ks.flatMap writeChar ++ '"' :: rest) p
    have hrest := ih (k :: done) (p.afterAll (writeChar k))
    simpa [hstep] using hrest

/-- Reading from behind the opening quote of a written string gives the string, for every string. -/
theorem readText_writeText (s : String) (rest : List Char) (p : Position) :
    readText [] (Cursor.advance ⟨writeText s ++ rest, p⟩) =
      .ok (s, ⟨rest, p.afterAll (writeText s)⟩) := by
  have h := readText_flatMap_writeChar s.toList [] rest (p.after '"')
  simpa [writeText] using h

/-- An escape of one letter and one by number are undone, and reading stops behind the quote. -/
example : readText [] ⟨['a', '\\', 'n', '\\', 'u', '0', '0', '0', '0', '"', '!'], .start⟩ =
    .ok ("a\n\x00", ⟨['!'], ⟨1, 10⟩⟩) := by
  exact readText_flatMap_writeChar ['a', '\n', '\x00'] [] ['!'] .start

end ManagedBridge.Json
