import ManagedBridge.Proofs.Charset
import ManagedBridge.Proofs.Escaping
import ManagedBridge.Proofs.Grammar

/-!
# However a string is spelled

Reading a string gives what its spelling denotes, whichever of its characters are escaped and in
which way; a spelling that denotes nothing, because it has half a surrogate pair, is refused. Both
follow from what one symbol, or one pair of them, does to the reader. A string that is only skipped
is never refused, and the cursor ends up at the same place.
-/

namespace ManagedBridge.Json

open ManagedBridge.Text (Utf16.encodeChar Utf16.parts)

namespace Spelling

@[simp] theorem text_nil : text [] = [] := rfl

@[simp] theorem text_cons (s : Symbol) (ss : Spelling) : text (s :: ss) = s.text ++ text ss := rfl

@[simp] theorem units_nil : units [] = [] := rfl

@[simp] theorem units_cons (s : Symbol) (ss : Spelling) :
    units (s :: ss) = s.units ++ units ss := rfl

end Spelling

theorem HexDigit.hexDigit?_char (d : HexDigit) : hexDigit? d.char = some d.value.val := by
  have hall : ∀ (value : Fin 16) (upper : Bool),
      hexDigit? (HexDigit.char ⟨value, upper⟩) = some value.val := by decide
  exact hall d.value d.upper

theorem HexDigit.utf8Size_char (d : HexDigit) : d.char.utf8Size = 1 := by
  have hall : ∀ (value : Fin 16) (upper : Bool),
      (HexDigit.char ⟨value, upper⟩).utf8Size = 1 := by decide
  exact hall d.value d.upper

theorem fourDigits_lt (a b c d : HexDigit) : fourDigits a b c d < 0x10000 := by
  have ha := a.value.isLt
  have hb := b.value.isLt
  have hc := c.value.isLt
  have hd := d.value.isLt
  unfold fourDigits
  omega

theorem toNat_unit (a b c d : HexDigit) :
    (fourDigits a b c d).toUInt16.toNat = fourDigits a b c d := by
  simp [Nat.toUInt16, Nat.mod_eq_of_lt (fourDigits_lt a b c d)]

/-- A number and the unit of that number are the same half of a pair, if they are one. -/
theorem isHighSurrogate_unit (a b c d : HexDigit) :
    Text.Utf16.isHighSurrogate (fourDigits a b c d).toUInt16 =
      isHighSurrogate (fourDigits a b c d) := by
  rw [Bool.eq_iff_iff, Text.Utf16.isHighSurrogate_iff, toNat_unit]
  simp [isHighSurrogate]

theorem isLowSurrogate_unit (a b c d : HexDigit) :
    Text.Utf16.isLowSurrogate (fourDigits a b c d).toUInt16 =
      isLowSurrogate (fourDigits a b c d) := by
  rw [Bool.eq_iff_iff, Text.Utf16.isLowSurrogate_iff, toNat_unit]
  simp [isLowSurrogate]

theorem not_low_of_high {n : Nat} (h : isHighSurrogate n = true) : isLowSurrogate n = false := by
  simp only [isHighSurrogate, Bool.and_eq_true, decide_eq_true_eq] at h
  simp only [isLowSurrogate, Bool.and_eq_false_iff, decide_eq_false_iff_not]
  omega

theorem reads_readHex4 (a b c d : HexDigit) :
    Reads readHex4 [a.char, b.char, c.char, d.char] (fourDigits a b c d) := by
  intro rest p
  have hlength : byteLength [a.char, b.char, c.char, d.char] = 4 := by
    simp [byteLength, HexDigit.utf8Size_char]
  simp [readHex4, hex4?, HexDigit.hexDigit?_char, hlength, fourDigits]

theorem shortEscape?_of_mem {letter value : Char} (h : (letter, value) ∈ shortEscapes) :
    shortEscape? letter = some value := by
  simp only [shortEscapes, List.mem_cons, Prod.mk.injEq, List.not_mem_nil, or_false] at h
  rcases h with ⟨rfl, rfl⟩ | ⟨rfl, rfl⟩ | ⟨rfl, rfl⟩ | ⟨rfl, rfl⟩ | ⟨rfl, rfl⟩ | ⟨rfl, rfl⟩ |
    ⟨rfl, rfl⟩ | ⟨rfl, rfl⟩ <;> rfl

theorem ne_u_of_mem {letter value : Char} (h : (letter, value) ∈ shortEscapes) : letter ≠ 'u' := by
  rintro rfl
  have hnone := shortEscape?_of_mem h
  simp [shortEscape?] at hnone

/-- The text keeps one character, whatever stands behind it, and the units are that character. -/
structure Keeps (text : List Char) (units : List UInt16) (k : Char) : Prop where
  read : ∀ done rest p,
    readText done ⟨text ++ rest, p⟩ = readText (k :: done) ⟨rest, p.afterAll text⟩
  parts : ∀ more, Utf16.parts (units ++ more) = some k :: Utf16.parts more

/-- The symbol is an escape by a number of this kind. -/
def Symbol.Escapes (s : Symbol) (kind : Nat → Bool) : Prop :=
  ∃ a b c d, s = .unicode a b c d ∧ kind (fourDigits a b c d) = true

/-- A code point outside the surrogates, escaped by its number. -/
theorem keeps_unicode {a b c d : HexDigit} (hhigh : isHighSurrogate (fourDigits a b c d) = false)
    (hlow : isLowSurrogate (fourDigits a b c d) = false) :
    Keeps (Symbol.unicode a b c d).text (Symbol.unicode a b c d).units
      (Char.ofNat (fourDigits a b c d)) where
  read := by
    have hescape : Reads readEscape ['u', a.char, b.char, c.char, d.char]
        (Char.ofNat (fourDigits a b c d)) := by
      intro rest p
      have hread := reads_readHex4 a b c d rest (p.after 'u')
      simp only [List.cons_append, List.nil_append] at hread
      simp [readEscape, readUnicodeEscape, hread, hlow, hhigh]
    exact readText_escape hescape
  parts more := by
    rw [Symbol.units, List.singleton_append, Text.Utf16.parts_cons]
    simp [Text.Utf16.first, isHighSurrogate_unit, isLowSurrogate_unit, hhigh, hlow,
      Nat.mod_eq_of_lt (fourDigits_lt a b c d)]

/-- A first half has the reader look for a second. -/
theorem readUnicodeEscape_high {a b c d : HexDigit}
    (hhigh : isHighSurrogate (fourDigits a b c d) = true) (rest : List Char) (p : Position) :
    readUnicodeEscape ⟨a.char :: b.char :: c.char :: d.char :: rest, p⟩ =
      readLowHalf (fourDigits a b c d) ⟨rest, p.afterAll [a.char, b.char, c.char, d.char]⟩ := by
  have hread := reads_readHex4 a b c d rest p
  simp only [List.cons_append, List.nil_append] at hread
  simp [readUnicodeEscape, hread, not_low_of_high hhigh, hhigh]

/-- The second half of a pair is read behind the first, which is kept in hand. -/
theorem reads_readLowHalf (high : Nat) {a b c d : HexDigit}
    (hlow : isLowSurrogate (fourDigits a b c d) = true) :
    Reads (readLowHalf high) (Symbol.unicode a b c d).text
      (Char.ofNat (0x10000 + (high - 0xd800) * 0x400 + (fourDigits a b c d - 0xdc00))) := by
  intro rest p
  have hread := reads_readHex4 a b c d rest ((p.after '\\').after 'u')
  simp only [List.cons_append, List.nil_append] at hread
  simp [readLowHalf, readInPair, Symbol.text, hread, hlow]

/-- Two escapes by number that are the halves of one character. -/
theorem keeps_pair {a b c d a' b' c' d' : HexDigit}
    (hhigh : isHighSurrogate (fourDigits a b c d) = true)
    (hlow : isLowSurrogate (fourDigits a' b' c' d') = true) :
    Keeps ((Symbol.unicode a b c d).text ++ (Symbol.unicode a' b' c' d').text)
      ((Symbol.unicode a b c d).units ++ (Symbol.unicode a' b' c' d').units)
      (Char.ofNat (0x10000 + (fourDigits a b c d - 0xd800) * 0x400 +
        (fourDigits a' b' c' d' - 0xdc00))) where
  read := by
    have hescape : Reads readEscape
        (['u', a.char, b.char, c.char, d.char] ++ (Symbol.unicode a' b' c' d').text)
        (Char.ofNat (0x10000 + (fourDigits a b c d - 0xd800) * 0x400 +
          (fourDigits a' b' c' d' - 0xdc00))) := by
      intro rest p
      have hsecond := reads_readLowHalf (fourDigits a b c d) hlow rest
        ((p.after 'u').afterAll [a.char, b.char, c.char, d.char])
      simpa [readEscape, readUnicodeEscape_high hhigh] using hsecond
    exact readText_escape hescape
  parts more := by
    simp only [Symbol.units, List.cons_append, List.nil_append]
    rw [Text.Utf16.parts_cons]
    simp [Text.Utf16.first, isHighSurrogate_unit, isLowSurrogate_unit, hhigh, hlow,
      Text.Utf16.ofPair, Nat.mod_eq_of_lt (fourDigits_lt a b c d),
      Nat.mod_eq_of_lt (fourDigits_lt a' b' c' d')]

/-- Whatever is not half of a surrogate pair keeps a character. -/
theorem Symbol.keeps_or_escapes (s : Symbol) :
    (∃ k, Keeps s.text s.units k) ∨ s.Escapes isHighSurrogate ∨ s.Escapes isLowSurrogate := by
  cases s with
  | plain k allowed =>
    obtain ⟨hquote, hslash, hcontrol⟩ := allowed
    have hread (done rest : List Char) (p : Position) :=
      readText_plain hquote hslash (Char.not_lt.2 hcontrol) done rest p
    exact .inl ⟨k, hread, Text.Utf16.parts_encodeChar_append k⟩
  | short letter value listed =>
    have hread := readText_escape (readEscape_short (shortEscape?_of_mem listed))
    exact .inl ⟨value, hread, Text.Utf16.parts_encodeChar_append value⟩
  | unicode a b c d =>
    cases hhigh : isHighSurrogate (fourDigits a b c d) with
    | true => exact .inr (.inl ⟨a, b, c, d, rfl, hhigh⟩)
    | false =>
      cases hlow : isLowSurrogate (fourDigits a b c d) with
      | true => exact .inr (.inr ⟨a, b, c, d, rfl, hlow⟩)
      | false => exact .inl ⟨_, keeps_unicode hhigh hlow⟩

theorem readText_escape_error {text : List Char} {p : Position}
    (h : ∃ e, readEscape ⟨text, p.after '\\'⟩ = .error e) (done : List Char) :
    ∃ e, readText done ⟨'\\' :: text, p⟩ = .error e := by
  obtain ⟨e, he⟩ := h
  refine ⟨e, ?_⟩
  rw [readText]
  simp only [Cursor.peek?_cons, Cursor.advance_cons, Char.reduceBEq, Bool.false_eq_true, if_false,
    beq_self_eq_true, if_true]
  split
  next e' he' =>
    rw [he] at he'
    cases he'
    rfl
  next x c' he' => simp [he] at he'

/-- The escape of a second half with no first half before it is refused. -/
theorem readText_low {a b c d : HexDigit} (hlow : isLowSurrogate (fourDigits a b c d) = true)
    (done rest : List Char) (p : Position) :
    ∃ e, readText done ⟨(Symbol.unicode a b c d).text ++ rest, p⟩ = .error e := by
  have hread := reads_readHex4 a b c d rest ((p.after '\\').after 'u')
  simp only [List.cons_append, List.nil_append] at hread
  apply readText_escape_error
  simp [readEscape, readUnicodeEscape, hread, hlow, Cursor.fail]

/-- Behind a first half, whatever is not a second half is refused. -/
theorem readLowHalf_error {s : Symbol} (hs : ¬ s.Escapes isLowSurrogate) (high : Nat)
    (rest : List Char) (p : Position) :
    ∃ e, readLowHalf high ⟨s.text ++ rest, p⟩ = .error e := by
  cases s with
  | plain k allowed =>
    simp [readLowHalf, readInPair, Symbol.text, allowed.2.1, Cursor.failAtPeek]
  | short letter value listed =>
    simp [readLowHalf, readInPair, Symbol.text, ne_u_of_mem listed, Cursor.failAtPeek]
  | unicode a b c d =>
    have hread := reads_readHex4 a b c d rest ((p.after '\\').after 'u')
    have hhalf : isLowSurrogate (fourDigits a b c d) = false := by
      rw [Bool.eq_false_iff]
      intro hlow
      exact hs ⟨a, b, c, d, rfl, hlow⟩
    simp only [List.cons_append, List.nil_append] at hread
    simp [readLowHalf, readInPair, Symbol.text, hread, hhalf, Cursor.fail]

/-- No character begins with the second half of a pair. -/
theorem encodeChar_eq_cons (k : Char) :
    ∃ u us, Utf16.encodeChar k = u :: us ∧ Text.Utf16.isLowSurrogate u = false := by
  have hvalid : k.toNat.isValidChar := k.valid
  unfold Nat.isValidChar at hvalid
  unfold Utf16.encodeChar
  split
  all_goals
    refine ⟨_, _, rfl, ?_⟩
    rw [Bool.eq_false_iff, Ne, Text.Utf16.isLowSurrogate_iff]
    simp only [Nat.toUInt16, UInt16.toNat_ofNat']
    omega

/-- The units of a symbol do not begin with a second half, unless it escapes one. -/
theorem Symbol.units_eq_cons {s : Symbol} (hs : ¬ s.Escapes isLowSurrogate) :
    ∃ u us, s.units = u :: us ∧ Text.Utf16.isLowSurrogate u = false := by
  cases s with
  | plain k allowed => exact encodeChar_eq_cons k
  | short letter value listed => exact encodeChar_eq_cons value
  | unicode a b c d =>
    refine ⟨_, _, rfl, ?_⟩
    rw [isLowSurrogate_unit, Bool.eq_false_iff]
    intro hlow
    exact hs ⟨a, b, c, d, rfl, hlow⟩

/-- Behind an opening quote, the text gives the characters of the units; if the units have a
surrogate outside a pair, it is refused. -/
def Resolves (text : List Char) (units : List UInt16) : Prop :=
  (∃ cs, Utf16.parts units = cs.map some ∧ ∀ done rest p,
    readText done ⟨text ++ '"' :: rest, p⟩ =
      .ok (String.ofList (done.reverse ++ cs), ⟨rest, p.afterAll (text ++ ['"'])⟩)) ∨
  (none ∈ Utf16.parts units ∧ ∀ done rest p, ∃ e, readText done ⟨text ++ '"' :: rest, p⟩ = .error e)

theorem Resolves.keeps {text text' : List Char} {units units' : List UInt16} {k : Char}
    (hkeeps : Keeps text units k) (h : Resolves text' units') :
    Resolves (text ++ text') (units ++ units') := by
  rcases h with ⟨cs, hparts, hread⟩ | ⟨hparts, hread⟩
  · refine .inl ⟨k :: cs, ?_, ?_⟩
    · rw [hkeeps.parts, hparts, List.map_cons]
    · intro done rest p
      rw [List.append_assoc, hkeeps.read, hread]
      simp
  · refine .inr ⟨?_, ?_⟩
    · rw [hkeeps.parts]
      exact List.mem_cons_of_mem _ hparts
    · intro done rest p
      rw [List.append_assoc, hkeeps.read]
      exact hread (k :: done) rest (p.afterAll text)

/-- A first half that nothing follows, or something else than a second half. -/
theorem Resolves.lone {a b c d : HexDigit} {text : List Char} {units : List UInt16}
    (hhigh : isHighSurrogate (fourDigits a b c d) = true)
    (hunits : (Text.Utf16.first (fourDigits a b c d).toUInt16 units).1 = none)
    (hread : ∀ rest p, ∃ e,
      readLowHalf (fourDigits a b c d) ⟨text ++ '"' :: rest, p⟩ = .error e) :
    Resolves ((Symbol.unicode a b c d).text ++ text) ((Symbol.unicode a b c d).units ++ units) := by
  refine .inr ⟨?_, ?_⟩
  · rw [Symbol.units, List.singleton_append, Text.Utf16.parts_cons, hunits]
    exact List.mem_cons_self
  · intro done rest p
    apply readText_escape_error
    have hrefused := hread rest
      (((p.after '\\').after 'u').afterAll [a.char, b.char, c.char, d.char])
    simpa [readEscape, readUnicodeEscape_high hhigh] using hrefused

/-- A second half at the front, where no first half can be before it. -/
theorem Resolves.low {a b c d : HexDigit} (hlow : isLowSurrogate (fourDigits a b c d) = true)
    (text : List Char) (units : List UInt16) :
    Resolves ((Symbol.unicode a b c d).text ++ text) ((Symbol.unicode a b c d).units ++ units) := by
  have hhigh : isHighSurrogate (fourDigits a b c d) = false := by
    rw [Bool.eq_false_iff]
    intro hhigh
    simp [not_low_of_high hhigh] at hlow
  refine .inr ⟨?_, ?_⟩
  · rw [Symbol.units, List.singleton_append, Text.Utf16.parts_cons]
    simp [Text.Utf16.first, isHighSurrogate_unit, isLowSurrogate_unit, hhigh, hlow]
  · intro done rest p
    rw [List.append_assoc]
    exact readText_low hlow done _ p

/-- By the symbols from the front on, a first half together with the symbol behind it. -/
theorem resolves : ∀ s : Spelling, Resolves s.text s.units
  | [] => .inl ⟨[], rfl, by simp [readText_quote]⟩
  | s :: ss => by
    rw [Spelling.text_cons, Spelling.units_cons]
    obtain ⟨k, hkeeps⟩ | ⟨a, b, c, d, rfl, hhigh⟩ | ⟨a, b, c, d, rfl, hlow⟩ := s.keeps_or_escapes
    · exact (resolves ss).keeps hkeeps
    · cases ss with
      | nil =>
        apply Resolves.lone hhigh
        · simp [Text.Utf16.first, isHighSurrogate_unit, hhigh]
        · intro rest p
          simp [readLowHalf, readInPair, Cursor.failAtPeek]
      | cons s' ss =>
        by_cases hlow : s'.Escapes isLowSurrogate
        · obtain ⟨a', b', c', d', rfl, hlow⟩ := hlow
          have hpair := (resolves ss).keeps (keeps_pair hhigh hlow)
          simpa using hpair
        · obtain ⟨u, us, hus, hplain⟩ := s'.units_eq_cons hlow
          apply Resolves.lone hhigh
          · simp [Text.Utf16.first, isHighSurrogate_unit, hhigh, hus, hplain]
          · intro rest p
            have hrefused := readLowHalf_error hlow (fourDigits a b c d)
              (Spelling.text ss ++ '"' :: rest) p
            simpa using hrefused
    · exact .low hlow (Spelling.text ss) (Spelling.units ss)

/-- A spelling is read as what it denotes. -/
theorem Spelling.Denotes.reads {s : Spelling} {value : String} (h : s.Denotes value) :
    Reads (readText []) (s.text ++ ['"']) value := by
  have hparts : Utf16.parts s.units = value.toList.map some := by
    rw [h, Text.Utf16.encode, Text.Utf16.parts_encodeChars]
  intro rest p
  rcases resolves s with ⟨cs, hcs, hread⟩ | ⟨hnone, -⟩
  · have hsame : cs = value.toList := by
      apply List.map_injective_iff.2 (Option.some_injective Char)
      rw [← hcs, hparts]
    rw [List.append_assoc, List.singleton_append, hread, hsame]
    simp
  · simp [hparts] at hnone

/-- Whether a spelling denotes anything or not: reading stops behind the string, or it fails. -/
theorem Spelling.reads_or_fails (s : Spelling) :
    (∃ value, Reads (readText []) (s.text ++ ['"']) value) ∨
      ∀ rest p, ∃ e, readText [] ⟨s.text ++ '"' :: rest, p⟩ = .error e := by
  rcases resolves s with ⟨cs, -, hread⟩ | ⟨-, hread⟩
  · refine .inl ⟨String.ofList cs, ?_⟩
    intro rest p
    simpa using hread [] rest p
  · exact .inr (hread [])

theorem skipText_symbol (s : Symbol) (rest : List Char) (p : Position) :
    skipText ⟨s.text ++ rest, p⟩ = skipText ⟨rest, p.afterAll s.text⟩ := by
  have hescape {text : List Char}
      (h : skipEscape ⟨text ++ rest, p.after '\\'⟩ = .ok ⟨rest, p.afterAll ('\\' :: text)⟩) :
      skipText ⟨'\\' :: text ++ rest, p⟩ = skipText ⟨rest, p.afterAll ('\\' :: text)⟩ := by
    rw [skipText]
    simp only [List.cons_append, Cursor.peek?_cons, Cursor.advance_cons, Char.reduceBEq,
      Bool.false_eq_true, if_false, beq_self_eq_true, if_true]
    split
    next e he => simp [h] at he
    next c' he =>
      rw [h] at he
      cases he
      rfl
  cases s with
  | plain k allowed =>
    have hcontrol : ¬ k < ' ' := Char.not_lt.2 allowed.2.2
    rw [Symbol.text, List.singleton_append, skipText]
    simp [allowed.1, allowed.2.1, hcontrol]
  | short letter value listed =>
    apply hescape
    simp [skipEscape, ne_u_of_mem listed, shortEscape?_of_mem listed]
  | unicode a b c d =>
    apply hescape
    have hread := reads_readHex4 a b c d rest ((p.after '\\').after 'u')
    simp only [List.cons_append, List.nil_append] at hread
    simp [skipEscape, hread, Except.map]

/-- A string is stepped over, whatever it is spelled like. -/
theorem Spelling.skipText (s : Spelling) (rest : List Char) (p : Position) :
    skipText ⟨s.text ++ '"' :: rest, p⟩ = .ok ⟨rest, p.afterAll (s.text ++ ['"'])⟩ := by
  induction s generalizing p with
  | nil =>
    rw [text_nil, List.nil_append, Json.skipText]
    simp
  | cons s ss ih =>
    rw [text_cons, List.append_assoc, skipText_symbol, ih]
    simp

end ManagedBridge.Json
