import ManagedBridge.Proofs.Skipping

/-!
# Settings are read one at a time

A field takes the value that is spelled for it, under any spelling, and what is not a field takes
any value. Whatever stands in its place, a member of an object or an element of a list is either
taken off the front of the text exactly, with at most one field given, or it is refused.
-/

namespace ManagedBridge.Config

open ManagedBridge.Json

/-- A field with a value of its type. -/
inductive Setting
  | stringClass (value : String)
  | charset (value : String)
  | describeExceptions (value : Bool)

namespace Setting

def field : Setting → Field
  | stringClass _ => .stringClass
  | charset _ => .charset
  | describeExceptions _ => .describeExceptions

/-- The text spells the value. -/
def Spelled (text : List Char) : Setting → Prop
  | stringClass value | charset value =>
    ∃ s : Spelling, s.Denotes value ∧ text = s.quoted
  | describeExceptions value => text = (if value then "true" else "false").toList

/-- What has been given once the setting has been read, too. -/
def give (g : Given) : Setting → Given
  | stringClass value => { g with stringClass := some value }
  | charset value => { g with charset := some value }
  | describeExceptions value => { g with describeExceptions := some value }

theorem has_give (g : Given) (x : Setting) (field : Field) :
    (x.give g).has field = (decide (x.field = field) || g.has field) := by
  cases x <;> cases field <;> rfl

theorem isValue {x : Setting} {text : List Char} (h : x.Spelled text) : IsValue text := by
  cases x with
  | stringClass value | charset value =>
    obtain ⟨s, -, rfl⟩ := h
    exact .string s
  | describeExceptions value =>
    obtain rfl := h
    exact .bool value

end Setting

theorem readString_quoted (gap : Blanks) (s : Spelling) (rest : List Char) (p : Position) :
    readString ⟨gap.chars ++ s.quoted ++ rest, p⟩ =
      readText [] ⟨s.text ++ '"' :: rest, (p.afterAll gap.chars).after '"'⟩ := by
  have hplace := (IsValue.string s).skipBlank gap rest p
  simp only [Spelling.quoted, List.cons_append, List.append_assoc, List.nil_append] at hplace
  simp [readString, Spelling.quoted, hplace]

theorem reads_quoted (gap : Blanks) {s : Spelling} {value : String}
    (h : Reads (readText []) (s.text ++ ['"']) value) :
    Reads readString (gap.chars ++ s.quoted) value := by
  intro rest p
  have hread := h rest ((p.afterAll gap.chars).after '"')
  rw [readString_quoted]
  simpa [Spelling.quoted] using hread

/-- A value that spells what the field is set to is read as that. -/
theorem reads_spelled {x : Setting} {text : List Char} (h : x.Spelled text) (g : Given)
    (gap : Blanks) : Reads (readField x.field g) (gap.chars ++ text) (x.give g) := by
  cases x with
  | stringClass value =>
    obtain ⟨s, hs, rfl⟩ := h
    exact (reads_quoted gap hs.reads).map fun value => { g with stringClass := some value }
  | charset value =>
    obtain ⟨s, hs, rfl⟩ := h
    exact (reads_quoted gap hs.reads).map fun value => { g with charset := some value }
  | describeExceptions value =>
    obtain rfl := h
    exact (reads_readBool gap.isBlank value).map fun value =>
      { g with describeExceptions := some value }

/-- The reader takes `text` off the front of what may stand behind a value. -/
def Takes {α : Type} (read : Cursor → Reading α) (text : List Char) (value : α) : Prop :=
  ∀ rest p, Closes rest → read ⟨text ++ rest, p⟩ = .ok (value, ⟨rest, p.afterAll text⟩)

/-- The reader fails on `text`, with an error that may depend on the place. -/
def Refuses {α : Type} (read : Cursor → Reading α) (text : List Char) : Prop :=
  ∀ rest p, Closes rest → ∃ e, read ⟨text ++ rest, p⟩ = .error e

theorem reads_unique {α : Type} {read : Cursor → Reading α} {text : List Char} {a b : α}
    (ha : Reads read text a) (hb : Reads read text b) : a = b := by
  have hboth := (ha [] .start).symm.trans (hb [] .start)
  simpa using hboth

theorem Takes.of_reads {α : Type} {read : Cursor → Reading α} {text : List Char} {value : α}
    (h : Reads read text value) : Takes read text value := fun rest p _ => h rest p

theorem Takes.map {α β : Type} {read : Cursor → Reading α} {text : List Char} {value : α}
    (h : Takes read text value) (f : α → β) :
    Takes (fun c => (read c).map (Prod.map f id)) text (f value) := by
  intro rest p hrest
  simp [h rest p hrest, Except.map]

theorem Refuses.map {α β : Type} {read : Cursor → Reading α} {text : List Char}
    (h : Refuses read text) (f : α → β) :
    Refuses (fun c => (read c).map (Prod.map f id)) text := by
  intro rest p hrest
  obtain ⟨e, he⟩ := h rest p hrest
  exact ⟨e, by simp [he, Except.map]⟩

/-- The first character of a value tells the strings and the two booleans. -/
theorem eq_of_isValue {k : Char} {ks : List Char} (h : IsValue (k :: ks)) :
    (k = '"' → ∃ s : Spelling, k :: ks = s.quoted) ∧ (k = 't' → ks = ['r', 'u', 'e']) ∧
      (k = 'f' → ks = ['a', 'l', 's', 'e']) := by
  generalize htext : k :: ks = text at h
  cases h with
  | null =>
    obtain ⟨rfl, rfl⟩ : k = 'n' ∧ ks = ['u', 'l', 'l'] := by simpa using htext
    simp
  | bool b =>
    cases b with
    | true =>
      obtain ⟨rfl, rfl⟩ : k = 't' ∧ ks = ['r', 'u', 'e'] := by simpa using htext
      simp
    | false =>
      obtain ⟨rfl, rfl⟩ : k = 'f' ∧ ks = ['a', 'l', 's', 'e'] := by simpa using htext
      simp
  | number hnumber =>
    obtain ⟨j, js, rfl, hj, -⟩ := hnumber.skip
    obtain ⟨rfl, rfl⟩ := List.cons.inj htext
    rcases hj with rfl | hk
    · simp
    · have hquote : k ≠ '"' := hk.ne (by decide)
      have ht : k ≠ 't' := hk.ne (by decide)
      have hf : k ≠ 'f' := hk.ne (by decide)
      simp [hquote, ht, hf]
  | string s =>
    obtain ⟨rfl, rfl⟩ := List.cons.inj htext
    exact ⟨fun _ => ⟨s, rfl⟩, by simp, by simp⟩
  | list gap es =>
    obtain ⟨rfl, rfl⟩ := List.cons.inj htext
    simp
  | object gap ms =>
    obtain ⟨rfl, rfl⟩ := List.cons.inj htext
    simp

theorem readString_cases {text : List Char} (h : IsValue text) (gap : Blanks) :
    Refuses readString (gap.chars ++ text) ∨
      ∃ value, Takes readString (gap.chars ++ text) value := by
  obtain ⟨k, ks, rfl, -⟩ := h.eq_cons
  by_cases hk : k = '"'
  · obtain ⟨s, hs⟩ := (eq_of_isValue h).1 hk
    rw [hs]
    rcases s.reads_or_fails with ⟨value, hread⟩ | hfails
    · exact .inr ⟨value, .of_reads (reads_quoted gap hread)⟩
    · refine .inl ?_
      intro rest p _
      rw [readString_quoted]
      exact hfails rest _
  · refine .inl ?_
    intro rest p _
    have hplace := h.skipBlank gap rest p
    simp only [List.cons_append] at hplace
    simp [readString, hplace, hk]

theorem readBool_cases {text : List Char} (h : IsValue text) (gap : Blanks) :
    Refuses readBool (gap.chars ++ text) ∨
      ∃ value, Takes readBool (gap.chars ++ text) value := by
  obtain ⟨k, ks, rfl, -⟩ := h.eq_cons
  obtain ⟨-, htrue, hfalse⟩ := eq_of_isValue h
  by_cases ht : k = 't'
  · obtain rfl := ht
    obtain rfl := htrue rfl
    exact .inr ⟨true, .of_reads (reads_readBool gap.isBlank true)⟩
  by_cases hf : k = 'f'
  · obtain rfl := hf
    obtain rfl := hfalse rfl
    exact .inr ⟨false, .of_reads (reads_readBool gap.isBlank false)⟩
  refine .inl ?_
  intro rest p _
  have hplace := h.skipBlank gap rest p
  simp only [List.cons_append] at hplace
  simp [readBool, hplace, ht, hf]

theorem cases_give {α : Type} {read : Cursor → Reading α} {text : List Char} {field : Field}
    (set : α → Setting) (hset : ∀ value, (set value).field = field)
    (h : Refuses read text ∨ ∃ value, Takes read text value) (g : Given) :
    Refuses (fun c => (read c).map (Prod.map (fun value => (set value).give g) id)) text ∨
      ∃ x : Setting, x.field = field ∧
        Takes (fun c => (read c).map (Prod.map (fun value => (set value).give g) id)) text
          (x.give g) := by
  rcases h with hfails | ⟨value, htakes⟩
  · exact .inl (hfails.map _)
  · exact .inr ⟨set value, hset value, htakes.map _⟩

/-- Whatever the value: the field is set, with the cursor behind the value, or it is refused. -/
theorem readField_cases {text : List Char} (h : IsValue text) (field : Field) (g : Given)
    (gap : Blanks) :
    Refuses (readField field g) (gap.chars ++ text) ∨ ∃ x : Setting, x.field = field ∧
      Takes (readField field g) (gap.chars ++ text) (x.give g) := by
  cases field with
  | stringClass => exact cases_give .stringClass (fun _ => rfl) (readString_cases h gap) g
  | charset => exact cases_give .charset (fun _ => rfl) (readString_cases h gap) g
  | describeExceptions =>
    exact cases_give .describeExceptions (fun _ => rfl) (readBool_cases h gap) g

/-- What stands behind the key, up to the end of the value. -/
def behindKey (m : Member) : List Char := m.gap.chars ++ ':' :: (m.before.chars ++ m.value)

theorem ofName?_eq_none {name : String} (h : ∀ field : Field, field.name ≠ name) :
    Field.ofName? name = none := by
  simp [Field.ofName?, h]

theorem ofName?_eq_some {name : String} {field : Field} (h : Field.ofName? name = some field) :
    field.name = name := by
  simpa using List.find?_some h

/-- A member of which the field has not been given. -/
theorem readMember_field {field : Field} {g : Given} (hnew : g.has field = false) {m : Member}
    {g' : Given} (h : Takes (readField field g) (m.before.chars ++ m.value) g') :
    Takes (readMember field.name g) (behindKey m) g' := by
  intro rest p hrest
  have hcolon := skipColon_colon m.gap (m.before.chars ++ (m.value ++ rest)) p
  have hvalue := h rest (p.afterAll (m.gap.chars ++ [':'])) hrest
  simp only [List.append_assoc, Position.afterAll_append, Position.afterAll_cons,
    Position.afterAll_nil] at hcolon hvalue
  simp [behindKey, readMember, hnew, hcolon, hvalue]

/-- A member that is not a field. -/
theorem readMember_unknown {name : String} (hname : ∀ field : Field, field.name ≠ name) (g : Given)
    {m : Member} (h : IsValue m.value) : Takes (readMember name g) (behindKey m) g := by
  intro rest p hrest
  have hcolon := skipColon_colon m.gap (m.before.chars ++ (m.value ++ rest)) p
  have hvalue := h.skipValue m.before hrest (p.afterAll (m.gap.chars ++ [':']))
  simp only [Position.afterAll_append, Position.afterAll_cons, Position.afterAll_nil]
    at hcolon hvalue
  simp [behindKey, readMember, ofName?_eq_none hname, hcolon, hvalue, Except.map]

/-- A member of which the field has been given. -/
theorem readMember_given {field : Field} {g : Given} (hold : g.has field = true) (m : Member) :
    Refuses (readMember field.name g) (behindKey m) := by
  intro rest p _
  simp [readMember, hold]

theorem readMember_refused {field : Field} {g : Given} (hnew : g.has field = false) {m : Member}
    (h : Refuses (readField field g) (m.before.chars ++ m.value)) :
    Refuses (readMember field.name g) (behindKey m) := by
  intro rest p hrest
  have hcolon := skipColon_colon m.gap (m.before.chars ++ (m.value ++ rest)) p
  obtain ⟨e, he⟩ := h rest (p.afterAll (m.gap.chars ++ [':'])) hrest
  simp only [List.append_assoc, Position.afterAll_append, Position.afterAll_cons,
    Position.afterAll_nil] at hcolon he
  simp [behindKey, readMember, hnew, hcolon, he]

/-- Whatever the key and the value: a field is new and has been given then, anything else leaves
what has been given, or the member is refused. -/
theorem readMember_cases {m : Member} (h : IsValue m.value) (name : String) (g : Given) :
    Refuses (readMember name g) (behindKey m) ∨ ∃ g', Takes (readMember name g) (behindKey m) g' ∧
      ∀ field : Field, (g.has field = true → g'.has field = true) ∧
        (field.name = name → g.has field = false ∧ g'.has field = true) := by
  cases hfield : Field.ofName? name with
  | none =>
    have hname : ∀ field : Field, field.name ≠ name := by
      rintro field rfl
      simp at hfield
    exact .inr ⟨g, readMember_unknown hname g h, fun field => ⟨id, fun hsame =>
      absurd hsame (hname field)⟩⟩
  | some field =>
    obtain rfl := ofName?_eq_some hfield
    cases hhas : g.has field with
    | true => exact .inl (readMember_given hhas m)
    | false =>
      rcases readField_cases h field g m.before with hfails | ⟨x, rfl, htakes⟩
      · exact .inl (readMember_refused hhas hfails)
      · refine .inr ⟨_, readMember_field hhas htakes, ?_⟩
        intro other
        refine ⟨?_, ?_⟩
        · intro hother
          simp [Setting.has_give, hother]
        · intro hsame
          have hfields : Field.ofName? other.name = some x.field := by rw [hsame, hfield]
          obtain rfl : other = x.field := by simpa using hfields
          simp [Setting.has_give, hhas]

/-- In front of a member the reader finds its key, behind the comma if there has to be one. -/
theorem nextKey_place (lead margin : Blanks) (first : Bool) (rest : List Char) (p : Position) :
    nextKey first ⟨lead.chars ++ (Layout.lead first ++ (margin.chars ++ '"' :: rest)), p⟩ =
      .ok (some ⟨'"' :: rest, p.afterAll (lead.chars ++ (Layout.lead first ++ margin.chars))⟩) := by
  have hplace := nextKey_lead
    ⟨margin.chars, [], [], margin.isBlank, List.forall_mem_nil _, List.forall_mem_nil _⟩ first rest
    (p.afterAll lead.chars)
  simp only [List.nil_append, List.append_nil] at hplace
  rw [Position.afterAll_append, ← hplace]
  simp [nextKey]

/-- A member is read in two steps, its key and what stands behind it, and then the next one is. -/
theorem readMembers_place (m : Member) (g : Given) (fuel : Nat) (first : Bool) (lead : Blanks)
    (rest : List Char) (p : Position) :
    readMembers (fuel + 1) first g ⟨lead.chars ++ (Layout.lead first ++ (m.text ++ rest)), p⟩ =
      (readText [] ⟨m.key.text ++ '"' :: (behindKey m ++ (m.after.chars ++ rest)),
        p.afterAll (lead.chars ++ (Layout.lead first ++ (m.margin.chars ++ ['"'])))⟩).bind
        fun named => (readMember named.1 g named.2).bind fun given =>
          readMembers fuel false given.1 given.2 := by
  have hplace := nextKey_place lead m.margin first
    (m.key.text ++ '"' :: (behindKey m ++ (m.after.chars ++ rest))) p
  simp only [behindKey, List.append_assoc, List.cons_append] at hplace ⊢
  simp only [readMembers, Member.text, Element.text, Spelling.quoted, List.append_assoc,
    List.cons_append, List.nil_append, hplace, Cursor.advance_cons, Position.afterAll_append,
    Position.afterAll_cons, Position.afterAll_nil]
  generalize readText [] _ = named
  cases named with
  | error e => rfl
  | ok named =>
    simp only [Except.bind]
    cases readMember named.1 g named.2 <;> rfl

/-- One member is read, and reading goes on behind it. -/
theorem readMembers_takes {m : Member} {name : String} {g g' : Given}
    (hkey : Reads (readText []) (m.key.text ++ ['"']) name)
    (hmember : Takes (readMember name g) (behindKey m) g') (fuel : Nat) (first : Bool)
    (lead : Blanks) {rest : List Char} (hrest : Closes rest) (p : Position) :
    readMembers (fuel + 1) first g ⟨lead.chars ++ (Layout.lead first ++ (m.text ++ rest)), p⟩ =
      readMembers fuel false g' ⟨m.after.chars ++ rest,
        p.afterAll (lead.chars ++ (Layout.lead first ++
          (m.margin.chars ++ (m.key.quoted ++ behindKey m))))⟩ := by
  have hname := hkey (behindKey m ++ (m.after.chars ++ rest))
    (p.afterAll (lead.chars ++ (Layout.lead first ++ (m.margin.chars ++ ['"']))))
  have hvalue := hmember (m.after.chars ++ rest)
    ((p.afterAll (lead.chars ++ (Layout.lead first ++ (m.margin.chars ++ ['"'])))).afterAll
      (m.key.text ++ ['"'])) (hrest.blanks m.after)
  rw [List.append_assoc, List.singleton_append] at hname
  rw [readMembers_place, hname, Except.bind, hvalue]
  simp [Except.bind, Spelling.quoted]

/-- A member whose key denotes nothing, or that is refused itself. -/
theorem readMembers_refused {m : Member} {g : Given}
    (h : (∀ rest p, ∃ e, readText [] ⟨m.key.text ++ '"' :: rest, p⟩ = .error e) ∨
      ∃ name, Reads (readText []) (m.key.text ++ ['"']) name ∧
        Refuses (readMember name g) (behindKey m)) (fuel : Nat) (first : Bool)
    (lead : Blanks) {rest : List Char} (hrest : Closes rest) (p : Position) :
    ∃ e, readMembers (fuel + 1) first g
      ⟨lead.chars ++ (Layout.lead first ++ (m.text ++ rest)), p⟩ = .error e := by
  rcases h with hfails | ⟨name, hkey, hmember⟩
  · obtain ⟨e, he⟩ := hfails (behindKey m ++ (m.after.chars ++ rest))
      (p.afterAll (lead.chars ++ (Layout.lead first ++ (m.margin.chars ++ ['"']))))
    exact ⟨e, by rw [readMembers_place, he, Except.bind]⟩
  · have hname := hkey (behindKey m ++ (m.after.chars ++ rest))
      (p.afterAll (lead.chars ++ (Layout.lead first ++ (m.margin.chars ++ ['"']))))
    obtain ⟨e, he⟩ := hmember (m.after.chars ++ rest)
      ((p.afterAll (lead.chars ++ (Layout.lead first ++ (m.margin.chars ++ ['"'])))).afterAll
        (m.key.text ++ ['"'])) (hrest.blanks m.after)
    rw [List.append_assoc, List.singleton_append] at hname
    exact ⟨e, by rw [readMembers_place, hname, Except.bind, he, Except.bind]⟩

/-- In front of an element the reader finds its value, behind the comma if there has to be one. -/
theorem nextElement_place {e : Element} (h : IsValue e.value) (lead : Blanks) (first : Bool)
    (rest : List Char) (p : Position) :
    nextElement first ⟨lead.chars ++ (Layout.lead first ++ (e.text ++ rest)), p⟩ =
      .ok (some ⟨e.value ++ (e.after.chars ++ rest),
        p.afterAll (lead.chars ++ (Layout.lead first ++ e.before.chars))⟩) := by
  obtain ⟨k, ks, hvalue, hk⟩ := h.eq_cons
  have hend : k ≠ ']' := by
    rintro rfl
    exact hk (by decide)
  cases first with
  | true =>
    have hplace := h.skipBlank e.before (e.after.chars ++ rest) (p.afterAll lead.chars)
    simp only [hvalue, List.cons_append] at hplace
    simp [nextElement, Layout.lead, Element.text, hvalue, hplace, hend]
  | false =>
    have hcomma := Cursor.skipBlank_cons (k := ',') rfl (e.text ++ rest) (p.afterAll lead.chars)
    have hplace := h.skipBlank e.before (e.after.chars ++ rest) ((p.afterAll lead.chars).after ',')
    simp only [hvalue, Element.text, List.cons_append, List.append_assoc] at hcomma hplace
    simp [nextElement, Layout.lead, Element.text, hvalue, hcomma, hplace, hend]

theorem nextElement_end (lead gap : Blanks) (first : Bool) (rest : List Char) (p : Position) :
    nextElement first ⟨lead.chars ++ (gap.chars ++ ']' :: rest), p⟩ = .ok none := by
  have hskip := Cursor.skipBlank_cons (k := ']') rfl rest
    ((p.afterAll lead.chars).afterAll gap.chars)
  simp [nextElement, hskip]

/-- One element is read, and reading goes on behind it. -/
theorem readElements_takes {e : Element} (hvalue : IsValue e.value) {field : Field} {g g' : Given}
    (h : Takes (readField field g) e.value g') (fields : List Field) (first : Bool)
    (lead : Blanks) {rest : List Char} (hrest : Closes rest) (p : Position) :
    readElements (field :: fields) first g
        ⟨lead.chars ++ (Layout.lead first ++ (e.text ++ rest)), p⟩ =
      readElements fields false g' ⟨e.after.chars ++ rest,
        p.afterAll (lead.chars ++ (Layout.lead first ++ (e.before.chars ++ e.value)))⟩ := by
  have hplace := nextElement_place hvalue lead first rest p
  have hread := h (e.after.chars ++ rest)
    (p.afterAll (lead.chars ++ (Layout.lead first ++ e.before.chars))) (hrest.blanks e.after)
  simp only [readElements, hplace, hread]
  simp

/-- A value that is no value of the field. -/
theorem readElements_refused {e : Element} (hvalue : IsValue e.value) {field : Field} {g : Given}
    (h : Refuses (readField field g) e.value) (fields : List Field) (first : Bool) (lead : Blanks)
    {rest : List Char} (hrest : Closes rest) (p : Position) :
    ∃ error, readElements (field :: fields) first g
      ⟨lead.chars ++ (Layout.lead first ++ (e.text ++ rest)), p⟩ = .error error := by
  have hplace := nextElement_place hvalue lead first rest p
  obtain ⟨error, herror⟩ := h (e.after.chars ++ rest)
    (p.afterAll (lead.chars ++ (Layout.lead first ++ e.before.chars))) (hrest.blanks e.after)
  exact ⟨error, by simp only [readElements, hplace, herror]⟩

theorem endList_end (lead gap : Blanks) (rest : List Char) (p : Position) :
    endList ⟨lead.chars ++ (gap.chars ++ ']' :: rest), p⟩ =
      .ok ⟨rest, p.afterAll (lead.chars ++ (gap.chars ++ [']']))⟩ := by
  have hskip := Cursor.skipBlank_cons (k := ']') rfl rest
    ((p.afterAll lead.chars).afterAll gap.chars)
  simp [endList, hskip]

theorem endList_comma (lead : Blanks) (rest : List Char) (p : Position) :
    ∃ e, endList ⟨lead.chars ++ ',' :: rest, p⟩ = .error e := by
  have hskip := Cursor.skipBlank_cons (k := ',') rfl rest (p.afterAll lead.chars)
  by_cases hend : (Cursor.skipBlank ⟨rest, (p.afterAll lead.chars).after ','⟩).peek? = some ']'
  · exact ⟨_, by simp [endList, hskip, hend, Cursor.failAtPeek]; rfl⟩
  · exact ⟨_, by simp [endList, hskip, hend, Cursor.failAtPeek]; rfl⟩

end ManagedBridge.Config
