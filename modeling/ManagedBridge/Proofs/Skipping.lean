import ManagedBridge.Json.Skip
import ManagedBridge.Proofs.Settings
import ManagedBridge.Proofs.Spelling

/-!
# Values are skipped whole

Skipping a value takes exactly the value, however deep it nests, and then the reader stands as it
would behind any other. A number has no end of its own, so something that ends one has to follow;
whatever may stand behind a value in a list, in an object or at the end of a text does.
-/

namespace ManagedBridge.Json

theorem Blanks.isBlank (gap : Blanks) : ∀ k ∈ gap.chars, Cursor.isBlank k = true := by
  intro k hk
  have hwhite := gap.white k hk
  simp only [whiteSpace, List.mem_cons, List.not_mem_nil, or_false] at hwhite
  rcases hwhite with rfl | rfl | rfl | rfl <;> rfl

@[simp] theorem Cursor.skipBlank_blanks (gap : Blanks) (rest : List Char) (p : Position) :
    Cursor.skipBlank ⟨gap.chars ++ rest, p⟩ = Cursor.skipBlank ⟨rest, p.afterAll gap.chars⟩ := by
  simp [skipBlank, span, List.takeWhile_append_of_pos gap.isBlank,
    List.dropWhile_append_of_pos gap.isBlank]

theorem Cursor.skipBlank_eq_self {c : Cursor} {k : Char} {rest : List Char} {p : Position}
    (h : c.skipBlank = ⟨k :: rest, p⟩) : c.skipBlank.skipBlank = c.skipBlank := by
  have hk : Cursor.isBlank k = false := by
    have hhead := List.head?_dropWhile_not isBlank c.rest
    have hrest : c.rest.dropWhile isBlank = k :: rest := congrArg Cursor.rest h
    simpa [hrest] using hhead
  rw [h, skipBlank_cons hk]

/-- What may stand behind a value: white space, a comma or a closing bracket. -/
def closers : List Char := whiteSpace ++ [',', ']', '}']

/-- The text is at its end, or what comes next may stand behind a value. -/
def Closes (rest : List Char) : Prop := ∀ k, rest.head? = some k → k ∈ closers

theorem closes_cons {k : Char} (hk : k ∈ closers) (rest : List Char) : Closes (k :: rest) := by
  intro j hj
  obtain rfl : k = j := by simpa using hj
  exact hk

theorem Closes.blanks {rest : List Char} (h : Closes rest) (gap : Blanks) :
    Closes (gap.chars ++ rest) := by
  intro k hk
  cases hgap : gap.chars with
  | nil => exact h k (by simpa [hgap] using hk)
  | cons j js =>
    obtain rfl : j = k := by simpa [hgap] using hk
    exact List.mem_append_left _ (gap.white j (by simp [hgap]))

theorem isBlank_of_not_mem {k : Char} (hk : k ∉ closers) : Cursor.isBlank k = false := by
  rw [Bool.eq_false_iff]
  intro hblank
  apply hk
  simp only [Cursor.isBlank, Bool.or_eq_true, beq_iff_eq] at hblank
  rcases hblank with ((rfl | rfl) | rfl) | rfl <;> decide

theorem IsDigit.ne {k j : Char} (hk : IsDigit k) (hj : ¬ IsDigit j) : k ≠ j := by
  rintro rfl
  exact hj hk

theorem IsDigit.isDigit {k : Char} (hk : IsDigit k) : Cursor.isDigit k = true := by
  simpa [Cursor.isDigit, IsDigit] using hk

namespace Number

/-- No digit comes next. -/
def Ends (rest : List Char) : Prop := ∀ k, rest.head? = some k → Cursor.isDigit k = false

theorem span_isDigit {ks rest : List Char} (hks : ∀ k ∈ ks, IsDigit k) (hrest : Ends rest)
    (p : Position) :
    Cursor.span Cursor.isDigit ⟨ks ++ rest, p⟩ = (ks, ⟨rest, p.afterAll ks⟩) := by
  have hdigits : ∀ k ∈ ks, Cursor.isDigit k = true := fun k hk => (hks k hk).isDigit
  have hnone : rest.takeWhile Cursor.isDigit = [] ∧ rest.dropWhile Cursor.isDigit = rest := by
    cases rest with
    | nil => simp
    | cons j js => simp [hrest j rfl]
  simp [Cursor.span, List.takeWhile_append_of_pos hdigits, List.dropWhile_append_of_pos hdigits,
    hnone.1, hnone.2]

theorem ends_of_mem {rest ks : List Char} (hks : ∀ k ∈ ks, Cursor.isDigit k = false)
    (hrest : ∀ k, rest.head? = some k → k ∈ ks) : Ends rest := by
  intro k hk
  exact hks k (hrest k hk)

theorem head_exponent {exponent rest : List Char} (he : IsExponent exponent) (h : Closes rest) :
    ∀ k, (exponent ++ rest).head? = some k → k ∈ 'e' :: 'E' :: closers := by
  intro k hk
  cases he with
  | absent =>
    have hmem := h k hk
    simp [hmem]
  | @present mark sign ks hmark hsign hks =>
    obtain rfl : mark = k := by simpa using hk
    exact List.mem_append_left closers hmark

theorem head_fraction {fraction exponent rest : List Char} (hf : IsFraction fraction)
    (he : IsExponent exponent) (h : Closes rest) :
    ∀ k, (fraction ++ (exponent ++ rest)).head? = some k → k ∈ '.' :: 'e' :: 'E' :: closers := by
  intro k hk
  cases hf with
  | absent => exact List.mem_cons_of_mem _ (head_exponent he h k hk)
  | present hks =>
    obtain rfl : '.' = k := by simpa using hk
    exact List.mem_cons_self

theorem ends_closes {rest : List Char} (h : Closes rest) : Ends rest :=
  ends_of_mem (by simp [closers, whiteSpace, Cursor.isDigit]) h

theorem ends_exponent {exponent rest : List Char} (he : IsExponent exponent) (h : Closes rest) :
    Ends (exponent ++ rest) :=
  ends_of_mem (by simp [closers, whiteSpace, Cursor.isDigit]) (head_exponent he h)

theorem ends_fraction {fraction exponent rest : List Char} (hf : IsFraction fraction)
    (he : IsExponent exponent) (h : Closes rest) : Ends (fraction ++ (exponent ++ rest)) :=
  ends_of_mem (by simp [closers, whiteSpace, Cursor.isDigit]) (head_fraction hf he h)

theorem atDigit_of_ends {rest : List Char} (h : Ends rest) (p : Position) :
    atDigit ⟨rest, p⟩ = false := by
  cases rest with
  | nil => rfl
  | cons k rest => exact h k rfl

theorem skipExponentDigits_digits {ks rest : List Char} (hks : IsDigits ks) (hrest : Ends rest)
    (p : Position) : skipExponentDigits ⟨ks ++ rest, p⟩ = .ok ⟨rest, p.afterAll ks⟩ := by
  obtain ⟨hsome, hall⟩ := hks
  have hdigit : atDigit ⟨ks ++ rest, p⟩ = true := by
    cases ks with
    | nil => simp at hsome
    | cons k ks =>
      have hk := hall k (by simp)
      simpa [atDigit] using hk.isDigit
  simp [skipExponentDigits, hdigit, span_isDigit hall hrest]

theorem skipSign_digits {sign ks : List Char} (hsign : sign ∈ [[], ['+'], ['-']])
    (hks : IsDigits ks) (rest : List Char) (p : Position) :
    skipSign ⟨sign ++ (ks ++ rest), p⟩ = ⟨ks ++ rest, p.afterAll sign⟩ := by
  obtain ⟨hsome, hall⟩ := hks
  cases ks with
  | nil => simp at hsome
  | cons k ks =>
    have hk := hall k (by simp)
    have hplus : k ≠ '+' := hk.ne (by decide)
    have hminus : k ≠ '-' := hk.ne (by decide)
    simp only [List.mem_cons, List.not_mem_nil, or_false] at hsign
    rcases hsign with rfl | rfl | rfl <;> simp [skipSign, hplus, hminus]

/-- An exponent is stepped over if there is one. -/
theorem skip_exponent {exponent rest : List Char} (he : IsExponent exponent) (h : Closes rest)
    (p : Position) :
    (if isExponentMark (Cursor.peek? ⟨exponent ++ rest, p⟩) then skipExponent ⟨exponent ++ rest, p⟩
      else .ok ⟨exponent ++ rest, p⟩) = .ok ⟨rest, p.afterAll exponent⟩ := by
  cases he with
  | absent =>
    have hmark : isExponentMark (Cursor.peek? ⟨rest, p⟩) = false := by
      cases rest with
      | nil => rfl
      | cons k rest =>
        have hall : ∀ k ∈ closers, isExponentMark (some k) = false := by
          simp [closers, whiteSpace, isExponentMark]
        exact hall k (h k rfl)
    simp [hmark]
  | @present mark sign ks hmark hsign hks =>
    have hsteps := skipSign_digits hsign hks rest (p.after mark)
    have hdigits := skipExponentDigits_digits hks (ends_closes h)
      ((p.after mark).afterAll sign)
    have hletter : isExponentMark (some mark) = true := by
      have hall : ∀ k ∈ ['e', 'E'], isExponentMark (some k) = true := by simp [isExponentMark]
      exact hall mark hmark
    simp [skipExponent, hletter, hsteps, hdigits]

theorem skipTail_tail {fraction exponent rest : List Char} (hf : IsFraction fraction)
    (he : IsExponent exponent) (h : Closes rest) (p : Position) :
    skipTail ⟨fraction ++ (exponent ++ rest), p⟩ =
      .ok ⟨rest, p.afterAll (fraction ++ exponent)⟩ := by
  cases hf with
  | absent =>
    have hpoint : Cursor.peek? ⟨exponent ++ rest, p⟩ ≠ some '.' := by
      intro hk
      exact absurd (head_exponent he h '.' hk) (by decide)
    simpa [skipTail, hpoint] using skip_exponent he h p
  | @present ks hks =>
    have hspan := span_isDigit hks.2 (ends_exponent he h) (p.after '.')
    have hsome : ks.isEmpty = false := by simpa using hks.1
    have htail := skip_exponent he h ((p.after '.').afterAll ks)
    simpa [skipTail, skipFraction, hspan, hsome] using htail

/-- A number is stepped over from behind its sign. -/
theorem skip_whole {whole fraction exponent rest : List Char} (hw : IsWhole whole)
    (hf : IsFraction fraction) (he : IsExponent exponent) (h : Closes rest) (p : Position) :
    skip ⟨whole ++ (fraction ++ (exponent ++ rest)), p⟩ =
      .ok ⟨rest, p.afterAll (whole ++ (fraction ++ exponent))⟩ := by
  have hends := ends_fraction hf he h
  cases hw with
  | zero =>
    have hdigit := atDigit_of_ends hends (p.after '0')
    have htail := skipTail_tail hf he h (p.after '0')
    simpa [skip, hdigit] using htail
  | @digits k ks hk hzero hks =>
    have hdigits : ∀ j ∈ k :: ks, IsDigit j := by simpa [hk] using hks
    have hspan := span_isDigit hdigits hends p
    have htail := skipTail_tail hf he h (p.afterAll (k :: ks))
    simp only [List.cons_append] at hspan
    simpa [skip, hzero, hk.isDigit, hspan] using htail

end Number

theorem IsWhole.eq_cons {text : List Char} (h : IsWhole text) :
    ∃ k ks, text = k :: ks ∧ IsDigit k := by
  cases h with
  | zero => exact ⟨_, _, rfl, by decide⟩
  | digits hk => exact ⟨_, _, rfl, hk⟩

/-- A number begins with a minus or a digit, and either way the whole of it is stepped over. -/
theorem IsNumber.skip {text : List Char} (h : IsNumber text) :
    ∃ k ks, text = k :: ks ∧ (k = '-' ∨ IsDigit k) ∧ ∀ rest p, Closes rest →
      skipScalar k ⟨text ++ rest, p⟩ = .ok ⟨rest, p.afterAll text⟩ := by
  obtain @⟨sign, whole, fraction, exponent, hsign, hwhole, hfraction, hexponent⟩ := h
  obtain ⟨k, ks, rfl, hk⟩ := hwhole.eq_cons
  simp only [List.mem_cons, List.not_mem_nil, or_false] at hsign
  rcases hsign with rfl | rfl
  · refine ⟨k, _, rfl, .inr hk, ?_⟩
    intro rest p hrest
    have hn : k ≠ 'n' := hk.ne (by decide)
    have ht : k ≠ 't' := hk.ne (by decide)
    have hf : k ≠ 'f' := hk.ne (by decide)
    have hminus : k ≠ '-' := hk.ne (by decide)
    have hskip := Number.skip_whole hwhole hfraction hexponent hrest p
    simp only [List.cons_append] at hskip
    simp [skipScalar, hn, ht, hf, hminus, hk.isDigit, hskip]
  · refine ⟨'-', _, rfl, .inl rfl, ?_⟩
    intro rest p hrest
    have hskip := Number.skip_whole hwhole hfraction hexponent hrest (p.after '-')
    simp only [List.cons_append] at hskip
    simp [skipScalar, hskip]

theorem skipOpened_scalar {k : Char} {c c' : Cursor} {opened : List Bracket}
    (hk : c.skipBlank.peek? = some k) (hlist : k ≠ '[') (hobject : k ≠ '{')
    (hskip : skipScalar k c.skipBlank = .ok c') :
    skipOpened .beforeValue opened c = skipOpened .afterValue opened c' := by
  rw [skipOpened]
  split
  next hnone => simp [hk] at hnone
  next j hj =>
    obtain rfl : k = j := by simpa [hk] using hj
    simp only [beq_iff_eq, hlist, hobject, if_false]
    split
    next e he => simp [hskip] at he
    next c'' hc =>
      rw [hskip] at hc
      cases hc
      rfl

def Bracket.opening : Bracket → Char
  | list => '['
  | object => '{'

theorem skipOpened_open {c : Cursor} (bracket : Bracket) {opened : List Bracket}
    (hk : c.skipBlank.peek? = some bracket.opening) :
    skipOpened .beforeValue opened c =
      skipOpened .afterOpen (bracket :: opened) c.skipBlank.advance := by
  rw [skipOpened]
  split
  next hnone => simp [hk] at hnone
  next j hj =>
    obtain rfl : bracket.opening = j := by simpa [hk] using hj
    cases bracket <;> simp [Bracket.opening]

theorem skipOpened_close {standing : Standing} (hstanding : standing ≠ .beforeValue) {c : Cursor}
    {bracket : Bracket} {outer : List Bracket} (hk : c.skipBlank.peek? = some bracket.close) :
    skipOpened standing (bracket :: outer) c =
      skipOpened .afterValue outer c.skipBlank.advance := by
  cases standing with
  | beforeValue => simp at hstanding
  | afterOpen =>
    rw [skipOpened]
    split
    next hnone => simp [hk] at hnone
    next j hj =>
      obtain rfl : bracket.close = j := by simpa [hk] using hj
      simp
  | afterValue =>
    rw [skipOpened]
    split
    next hnone => simp [hk] at hnone
    next j hj =>
      obtain rfl : bracket.close = j := by simpa [hk] using hj
      simp

/-- What stands in front of the first value is stepped over. -/
theorem skipOpened_first {k : Char} {c c' : Cursor} {bracket : Bracket} (outer : List Bracket)
    (hk : c.skipBlank.peek? = some k) (hclose : k ≠ bracket.close)
    (hkey : skipKey bracket c.skipBlank = .ok c') :
    skipOpened .afterOpen (bracket :: outer) c =
      skipOpened .beforeValue (bracket :: outer) c' := by
  conv_lhs => rw [skipOpened]
  split
  next hnone => simp [hk] at hnone
  next j hj =>
    obtain rfl : k = j := by simpa [hk] using hj
    simp only [beq_iff_eq, hclose, if_false]
    split
    next e he => simp [hkey] at he
    next c'' hc =>
      rw [hkey] at hc
      cases hc
      rfl

/-- A comma is stepped over, with what stands in front of the value behind it. -/
theorem skipOpened_next {c c' : Cursor} {bracket : Bracket} (outer : List Bracket)
    (hk : c.skipBlank.peek? = some ',') (hkey : skipKey bracket c.skipBlank.advance = .ok c') :
    skipOpened .afterValue (bracket :: outer) c =
      skipOpened .beforeValue (bracket :: outer) c' := by
  have hclose : ',' ≠ bracket.close := by cases bracket <;> decide
  conv_lhs => rw [skipOpened]
  split
  next hnone => simp [hk] at hnone
  next j hj =>
    obtain rfl : ',' = j := by simpa [hk] using hj
    simp only [beq_iff_eq, hclose, if_false, if_true]
    split
    next e he => simp [hkey] at he
    next c'' hc =>
      rw [hkey] at hc
      cases hc
      rfl

/-- Texts with a comma in front of each but the first; `first` says whether none stands before
them. -/
def separated : (first : Bool) → List (List Char) → List Char
  | _, [] => []
  | first, text :: texts => Layout.lead first ++ (text ++ separated false texts)

theorem intercalate_comma (texts : List (List Char)) :
    List.intercalate [','] texts = separated true texts := by
  cases texts with
  | nil => rfl
  | cons text texts =>
    induction texts generalizing text with
    | nil => simp [separated, Layout.lead]
    | cons next texts ih =>
      have htail := ih next
      simp [List.intercalate_cons_cons, separated, Layout.lead, htail]

theorem enclosed_eq (opening closing : Char) (gap : Blanks) (texts : List (List Char)) :
    enclosed opening closing gap texts =
      opening :: (separated true texts ++ (gap.chars ++ [closing])) := by
  rw [enclosed, intercalate_comma]

/-- Where the reader stands before a value has been read between the brackets, and then. -/
def Standing.inside (first : Bool) : Standing := if first then .afterOpen else .afterValue

/-- The text is stepped over where a value has to come. -/
def Skips (text : List Char) : Prop :=
  ∀ opened c rest p, Closes rest → c.skipBlank = ⟨text ++ rest, p⟩ →
    skipOpened .beforeValue opened c = skipOpened .afterValue opened ⟨rest, p.afterAll text⟩

/-- What stands at one place between brackets: a value, in an object behind a key. -/
structure Entry where
  margin : Blanks
  front : List Char
  value : List Char
  after : Blanks

namespace Entry

/-- From the first character that is not white space. -/
def body (x : Entry) : List Char := x.front ++ x.value

def text (x : Entry) : List Char := x.margin.chars ++ (x.body ++ x.after.chars)

/-- The entry may stand between such brackets: its front is what the reader expects there, and its
value is skipped. -/
structure Fits (x : Entry) (bracket : Bracket) : Prop where
  head : ∃ k ks, x.body = k :: ks ∧ k ∉ closers
  key : ∀ c rest p, c.skipBlank = ⟨x.body ++ rest, p⟩ → ∃ c', skipKey bracket c = .ok c' ∧
    c'.skipBlank = ⟨x.value ++ rest, p.afterAll x.front⟩
  value : Skips x.value

end Entry

theorem Entry.Fits.skipBlank {x : Entry} {bracket : Bracket} (hx : x.Fits bracket)
    (rest : List Char) (p : Position) :
    Cursor.skipBlank ⟨x.text ++ rest, p⟩ =
      ⟨x.body ++ (x.after.chars ++ rest), p.afterAll x.margin.chars⟩ := by
  obtain ⟨k, ks, hbody, hk⟩ := hx.head
  have hskip := Cursor.skipBlank_cons (isBlank_of_not_mem hk)
    (ks ++ (x.after.chars ++ rest)) (p.afterAll x.margin.chars)
  simpa [Entry.text, hbody] using hskip

/-- One entry is stepped over, and the comma in front of it. -/
theorem skipOpened_entry {x : Entry} {bracket : Bracket} (hx : x.Fits bracket)
    (outer : List Bracket) (first : Bool) (lead : Blanks) {rest : List Char} (h : Closes rest)
    (p : Position) :
    skipOpened (.inside first) (bracket :: outer)
        ⟨lead.chars ++ (Layout.lead first ++ (x.text ++ rest)), p⟩ =
      skipOpened .afterValue (bracket :: outer)
        ⟨x.after.chars ++ rest,
          p.afterAll (lead.chars ++ (Layout.lead first ++ (x.margin.chars ++ x.body)))⟩ := by
  cases first with
  | true =>
    obtain ⟨k, ks, hbody, hk⟩ := hx.head
    have hplace := hx.skipBlank rest (p.afterAll lead.chars)
    have hclose : k ≠ bracket.close := by
      rintro rfl
      cases bracket <;> exact hk (by decide)
    have hagain := Cursor.skipBlank_eq_self (c := ⟨x.text ++ rest, p.afterAll lead.chars⟩)
      (by rw [hplace, hbody]; rfl)
    obtain ⟨c, hkey, hvalue⟩ := hx.key _ _ _ (hagain.trans hplace)
    have hfirst := skipOpened_first (c := ⟨lead.chars ++ (x.text ++ rest), p⟩) outer
      (by simp [hplace, hbody]) hclose (by simpa using hkey)
    have hafter := hx.value (bracket :: outer) c _ _ (h.blanks x.after) hvalue
    simpa [Standing.inside, Layout.lead, Entry.body] using hfirst.trans hafter
  | false =>
    have hcomma := Cursor.skipBlank_cons (k := ',') rfl (x.text ++ rest) (p.afterAll lead.chars)
    have hplace := hx.skipBlank rest ((p.afterAll lead.chars).after ',')
    obtain ⟨c, hkey, hvalue⟩ := hx.key _ _ _ hplace
    have hnext := skipOpened_next (c := ⟨lead.chars ++ ',' :: (x.text ++ rest), p⟩) outer
      (by simp [hcomma]) (by simpa [hcomma] using hkey)
    have hafter := hx.value (bracket :: outer) c _ _ (h.blanks x.after) hvalue
    simpa [Standing.inside, Layout.lead, Entry.body] using hnext.trans hafter

/-- What is left between the brackets behind a value, up to the closing one. -/
theorem closes_separated (texts : List (List Char)) (gap : Blanks) (closing : Char)
    (h : closing ∈ closers) (rest : List Char) :
    Closes (separated false texts ++ (gap.chars ++ closing :: rest)) := by
  cases texts with
  | nil => exact (closes_cons h rest).blanks gap
  | cons text texts => exact closes_cons (by decide) _

/-- By the entries from the front on: what is left between the brackets is stepped over, with the
bracket that closes. -/
theorem skipOpened_separated {bracket : Bracket} {xs : List Entry}
    (hxs : ∀ x ∈ xs, x.Fits bracket) (outer : List Bracket) (gap : Blanks) (first : Bool)
    (lead : Blanks) (rest : List Char) (p : Position) :
    skipOpened (.inside first) (bracket :: outer)
        ⟨lead.chars ++ (separated first (xs.map Entry.text) ++
          (gap.chars ++ bracket.close :: rest)), p⟩ =
      skipOpened .afterValue outer
        ⟨rest, p.afterAll (lead.chars ++ (separated first (xs.map Entry.text) ++
          (gap.chars ++ [bracket.close])))⟩ := by
  induction xs generalizing first lead p with
  | nil =>
    have hblank : Cursor.isBlank bracket.close = false := by cases bracket <;> rfl
    have hstanding : Standing.inside first ≠ .beforeValue := by cases first <;> decide
    have hskip := Cursor.skipBlank_cons hblank rest ((p.afterAll lead.chars).afterAll gap.chars)
    rw [skipOpened_close hstanding (by simp [separated, hskip])]
    simp [separated, hskip]
  | cons x xs ih =>
    have hclose : bracket.close ∈ closers := by cases bracket <;> decide
    have hentry := skipOpened_entry (hxs x (by simp)) outer first lead
      (closes_separated (xs.map Entry.text) gap bracket.close hclose rest) p
    have htail := ih (fun y hy => hxs y (by simp [hy])) false x.after
      (p.afterAll (lead.chars ++ (Layout.lead first ++ (x.margin.chars ++ x.body))))
    simp only [List.map_cons, separated, List.append_assoc]
    rw [hentry]
    simpa [Standing.inside, Entry.text] using htail

/-- A bracketed text is skipped if what stands between the brackets may stand there. -/
theorem skips_enclosed {bracket : Bracket} {xs : List Entry} (hxs : ∀ x ∈ xs, x.Fits bracket)
    (gap : Blanks) :
    Skips (enclosed bracket.opening bracket.close gap (xs.map Entry.text)) := by
  intro opened c rest p hrest hc
  rw [enclosed_eq] at hc ⊢
  have hentries := skipOpened_separated hxs opened gap true .none rest
    (p.after bracket.opening)
  rw [skipOpened_open bracket (by simp [hc])]
  simpa [Standing.inside, hc] using hentries

theorem IsValue.eq_cons {text : List Char} (h : IsValue text) :
    ∃ k ks, text = k :: ks ∧ k ∉ closers := by
  cases h with
  | null => exact ⟨_, _, rfl, by decide⟩
  | bool b => cases b <;> exact ⟨_, _, rfl, by decide⟩
  | number hnumber =>
    obtain ⟨k, ks, htext, rfl | hk, -⟩ := hnumber.skip
    · exact ⟨_, _, htext, by decide⟩
    · have hall : ∀ j ∈ closers, ¬ IsDigit j := by simp [closers, whiteSpace, IsDigit]
      exact ⟨_, _, htext, fun hmem => hall k hmem hk⟩
  | string s => exact ⟨_, _, rfl, by decide⟩
  | list gap es => exact ⟨_, _, rfl, by decide⟩
  | object gap ms => exact ⟨_, _, rfl, by decide⟩

theorem IsValue.skipBlank {text : List Char} (h : IsValue text) (gap : Blanks) (rest : List Char)
    (p : Position) :
    Cursor.skipBlank ⟨gap.chars ++ (text ++ rest), p⟩ = ⟨text ++ rest, p.afterAll gap.chars⟩ := by
  obtain ⟨k, ks, rfl, hk⟩ := h.eq_cons
  have hskip := Cursor.skipBlank_cons (isBlank_of_not_mem hk) (ks ++ rest) (p.afterAll gap.chars)
  simpa using hskip

theorem skips_scalar {text : List Char} {k : Char} {ks : List Char} (htext : text = k :: ks)
    (hlist : k ≠ '[') (hobject : k ≠ '{')
    (hskip : ∀ rest p, Closes rest →
      skipScalar k ⟨text ++ rest, p⟩ = .ok ⟨rest, p.afterAll text⟩) : Skips text := by
  intro opened c rest p hrest hc
  apply skipOpened_scalar (k := k) _ hlist hobject
  · rw [hc]
    exact hskip rest p hrest
  · simp [hc, htext]

theorem skipText_quoted (s : Spelling) (rest : List Char) (p : Position) :
    skipText (Cursor.advance ⟨s.quoted ++ rest, p⟩) = .ok ⟨rest, p.afterAll s.quoted⟩ := by
  have hskip := s.skipText rest (p.after '"')
  simpa [Spelling.quoted] using hskip

/-- The place of a value in a list. -/
def Element.entry (e : Element) : Entry := ⟨e.before, [], e.value, e.after⟩

/-- The place of a value in an object. -/
def Member.entry (m : Member) : Entry :=
  ⟨m.margin, m.key.quoted ++ (m.gap.chars ++ ':' :: m.before.chars), m.value, m.after⟩

theorem Element.entry_text (e : Element) : e.entry.text = e.text := by
  simp [entry, Entry.text, Entry.body, text]

theorem Member.entry_text (m : Member) : m.entry.text = m.text := by
  simp [entry, Entry.text, Entry.body, text, Element.text]

theorem Element.fits {e : Element} (hvalue : IsValue e.value) (hskips : Skips e.value) :
    e.entry.Fits .list where
  head := hvalue.eq_cons
  key c _ _ hc := ⟨c, rfl, hc⟩
  value := hskips

theorem skipColon_colon (gap : Blanks) (rest : List Char) (p : Position) :
    skipColon ⟨gap.chars ++ ':' :: rest, p⟩ = .ok ⟨rest, p.afterAll (gap.chars ++ [':'])⟩ := by
  have hskip := Cursor.skipBlank_cons (k := ':') rfl rest (p.afterAll gap.chars)
  simp [skipColon, hskip]

theorem Member.fits {m : Member} (hvalue : IsValue m.value) (hskips : Skips m.value) :
    m.entry.Fits .object where
  head := ⟨_, _, rfl, by decide⟩
  key c rest p hc := by
    have hquoted := skipText_quoted m.key
      (m.gap.chars ++ ':' :: (m.before.chars ++ (m.value ++ rest))) p
    have hcolon := skipColon_colon m.gap (m.before.chars ++ (m.value ++ rest))
      (p.afterAll m.key.quoted)
    have hplace := hvalue.skipBlank m.before rest
      ((p.afterAll m.key.quoted).afterAll (m.gap.chars ++ [':']))
    refine ⟨⟨m.before.chars ++ (m.value ++ rest),
      (p.afterAll m.key.quoted).afterAll (m.gap.chars ++ [':'])⟩, ?_, ?_⟩
    · simp only [Spelling.quoted, List.cons_append, List.append_assoc] at hquoted hcolon
      simp only [Member.entry, Entry.body, Spelling.quoted, List.cons_append,
        List.append_assoc] at hc
      simp only [skipKey, hc, Cursor.peek?_cons, beq_self_eq_true, if_true, hquoted]
      exact hcolon
    · rw [hplace]
      simp [Member.entry]
  value := hskips

/-- By the derivation of the value: whatever is open around it, a value is skipped. -/
theorem IsValue.skips {text : List Char} (h : IsValue text) : Skips text := by
  induction h with
  | null =>
    apply skips_scalar rfl (by decide) (by decide)
    intro rest p _
    exact Cursor.readIdent_append ['u', 'l', 'l'] rest (p.after 'n')
  | bool b =>
    cases b with
    | true =>
      apply skips_scalar rfl (by decide) (by decide)
      intro rest p _
      exact Cursor.readIdent_append ['r', 'u', 'e'] rest (p.after 't')
    | false =>
      apply skips_scalar rfl (by decide) (by decide)
      intro rest p _
      exact Cursor.readIdent_append ['a', 'l', 's', 'e'] rest (p.after 'f')
  | number hnumber =>
    obtain ⟨k, ks, htext, hk, hskip⟩ := hnumber.skip
    have hbracket : k ≠ '[' ∧ k ≠ '{' := by
      rcases hk with rfl | hk
      · decide
      · exact ⟨hk.ne (by decide), hk.ne (by decide)⟩
    exact skips_scalar htext hbracket.1 hbracket.2 hskip
  | string s =>
    apply skips_scalar rfl (by decide) (by decide)
    intro rest p _
    exact skipText_quoted s rest p
  | list gap es hvalues ih =>
    have hfits : ∀ x ∈ es.map Element.entry, x.Fits .list := by
      simpa using fun e he => Element.fits (hvalues e he) (ih e he)
    have hentries := skips_enclosed hfits gap
    simpa [listText, Function.comp_def, Element.entry_text, Bracket.opening, Bracket.close]
      using hentries
  | object gap ms hvalues ih =>
    have hfits : ∀ x ∈ ms.map Member.entry, x.Fits .object := by
      simpa using fun m hm => Member.fits (hvalues m hm) (ih m hm)
    have hentries := skips_enclosed hfits gap
    simpa [objectText, Function.comp_def, Member.entry_text, Bracket.opening, Bracket.close]
      using hentries

/-- A value that nobody asked for is skipped, whatever it is. -/
theorem IsValue.skipValue {text : List Char} (h : IsValue text) (gap : Blanks) {rest : List Char}
    (hrest : Closes rest) (p : Position) :
    skipValue ⟨gap.chars ++ (text ++ rest), p⟩ = .ok ⟨rest, p.afterAll (gap.chars ++ text)⟩ := by
  have hvalue := h.skips [] ⟨gap.chars ++ (text ++ rest), p⟩ rest (p.afterAll gap.chars) hrest
    (h.skipBlank gap rest p)
  rw [Json.skipValue, hvalue, skipOpened]
  simp

end ManagedBridge.Json
