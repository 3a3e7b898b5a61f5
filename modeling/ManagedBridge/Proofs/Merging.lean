import Mathlib.Data.List.Nodup
import ManagedBridge.Proofs.Members

/-!
# Settings are merged, however they are spelled

What an object or a list of settings says is a list of fields with their values. Reading it gives
the defaults with these fields overridden, and nothing else about the text has a say: neither the
order of the members, nor the white space, nor which characters are escaped, nor what else the
object holds. A field that is given twice is refused, and so is a list with too many values.
-/

namespace ManagedBridge.Config

open ManagedBridge.Json

/-- The settings with the field overridden. -/
def Setting.override (c : BridgeConfig) : Setting → BridgeConfig
  | stringClass value => { c with stringClass := value }
  | charset value => { c with charset := value }
  | describeExceptions value => { c with describeExceptions := value }

/-- The defaults with the given fields overridden. -/
def merged (xs : List Setting) : BridgeConfig := xs.foldl Setting.override {}

/-- The members give `xs`, in this order, and otherwise only what is not a field. -/
inductive Says : List Member → List Setting → Prop
  | nothing : Says [] []
  | sets {m : Member} {x : Setting} {ms : List Member} {xs : List Setting} :
    m.key.Denotes x.field.name → x.Spelled m.value → Says ms xs → Says (m :: ms) (x :: xs)
  | skips {m : Member} {name : String} {ms : List Member} {xs : List Setting} :
    m.key.Denotes name → (∀ field : Field, field.name ≠ name) → IsValue m.value → Says ms xs →
      Says (m :: ms) xs

/-- The text is a value, apart from white space. -/
def Holds (text : String) (value : List Char) : Prop :=
  ∃ before after : Blanks, text.toList = before.chars ++ (value ++ after.chars)

/-- The text is an object that gives `xs`, each field at most once. -/
def ObjectGives (text : String) (xs : List Setting) : Prop :=
  (xs.map Setting.field).Nodup ∧
    ∃ (gap : Blanks) (ms : List Member), Holds text (objectText gap ms) ∧ Says ms xs

/-- The text is a list of the values of `xs`, whose fields are the first in their order. -/
def ListGives (text : String) (xs : List Setting) : Prop :=
  xs.map Setting.field <+: Field.all ∧
    ∃ (gap : Blanks) (es : List Element), Holds text (listText gap es) ∧
      List.Forall₂ (fun e x => Setting.Spelled e.value x) es xs

theorem Setting.toConfig_give (g : Given) (x : Setting) :
    (x.give g).toConfig = x.override g.toConfig := by
  cases x <;> rfl

theorem Setting.override_comm {x y : Setting} (h : x.field ≠ y.field) (c : BridgeConfig) :
    y.override (x.override c) = x.override (y.override c) := by
  cases x <;> cases y <;> first | rfl | exact absurd rfl h

theorem toConfig_foldl_give (xs : List Setting) (g : Given) :
    (xs.foldl Setting.give g).toConfig = xs.foldl Setting.override g.toConfig := by
  induction xs generalizing g with
  | nil => rfl
  | cons x xs ih => rw [List.foldl_cons, List.foldl_cons, ih, Setting.toConfig_give]

/-- The order in which fields are overridden does not matter, if each is overridden once. -/
theorem merged_eq {xs ys : List Setting} (hx : (xs.map Setting.field).Nodup)
    (hy : (ys.map Setting.field).Nodup) (h : ∀ x, x ∈ xs ↔ x ∈ ys) : merged xs = merged ys := by
  have hperm : xs.Perm ys :=
    (List.perm_ext_iff_of_nodup (List.Nodup.of_map _ hx) (List.Nodup.of_map _ hy)).2 h
  apply hperm.foldl_eq'
  intro x hxs y hys c
  by_cases hsame : x.field = y.field
  · rw [List.inj_on_of_nodup_map hx hxs hys hsame]
  · exact Setting.override_comm hsame c

/-- Once one of the fields has been given, the others are still new. -/
theorem has_give_of_mem {x : Setting} {xs : List Setting} {g : Given}
    (hnodup : ((x :: xs).map Setting.field).Nodup)
    (hnew : ∀ y ∈ x :: xs, g.has y.field = false) :
    ∀ y ∈ xs, (x.give g).has y.field = false := by
  intro y hy
  have hne : x.field ≠ y.field := by
    intro hsame
    exact (List.nodup_cons.1 hnodup).1 (List.mem_map.2 ⟨y, hy, hsame.symm⟩)
  rw [Setting.has_give, hnew y (by simp [hy])]
  simp [hne]

/-- By the members from the front on: what they say is given, up to the end of the object. -/
theorem Says.readMembers {ms : List Member} {xs : List Setting} (h : Says ms xs) {g : Given}
    (hnodup : (xs.map Setting.field).Nodup) (hnew : ∀ x ∈ xs, g.has x.field = false) {fuel : Nat}
    (hfuel : ms.length < fuel) (first : Bool) (lead gap : Blanks) (rest : List Char)
    (p : Position) :
    readMembers fuel first g
        ⟨lead.chars ++ (separated first (ms.map Member.text) ++ (gap.chars ++ '}' :: rest)), p⟩ =
      .ok (xs.foldl Setting.give g, ⟨rest, p.afterAll (lead.chars ++
        (separated first (ms.map Member.text) ++ (gap.chars ++ ['}'])))⟩) := by
  induction h generalizing g fuel first lead p with
  | nothing =>
    obtain ⟨fuel, rfl⟩ := Nat.exists_eq_add_one_of_ne_zero (Nat.ne_zero_of_lt hfuel)
    have hskip := Cursor.skipBlank_cons (k := '}') rfl rest
      ((p.afterAll lead.chars).afterAll gap.chars)
    simp [Config.readMembers, separated, nextKey, hskip]
  | @sets m x ms xs hkey hspelled _ ih =>
    obtain ⟨fuel, rfl⟩ := Nat.exists_eq_add_one_of_ne_zero (Nat.ne_zero_of_lt hfuel)
    have hmember := readMember_field (hnew x (by simp))
      (.of_reads (reads_spelled hspelled g m.before))
    have hstep := readMembers_takes hkey.reads hmember fuel first lead
      (closes_separated (ms.map Member.text) gap '}' (by decide) rest) p
    have htail := ih (List.nodup_cons.1 hnodup).2 (has_give_of_mem hnodup hnew)
      (by simpa using hfuel) false m.after
      (p.afterAll (lead.chars ++ (Layout.lead first ++
        (m.margin.chars ++ (m.key.quoted ++ behindKey m)))))
    simp only [List.map_cons, separated, List.append_assoc, List.foldl_cons]
    rw [hstep, htail]
    simp [behindKey, Member.text, Element.text]
  | @skips m name ms xs hkey hname hvalue _ ih =>
    obtain ⟨fuel, rfl⟩ := Nat.exists_eq_add_one_of_ne_zero (Nat.ne_zero_of_lt hfuel)
    have hmember := readMember_unknown hname g hvalue
    have hstep := readMembers_takes hkey.reads hmember fuel first lead
      (closes_separated (ms.map Member.text) gap '}' (by decide) rest) p
    have htail := ih hnodup hnew (by simpa using hfuel) false m.after
      (p.afterAll (lead.chars ++ (Layout.lead first ++
        (m.margin.chars ++ (m.key.quoted ++ behindKey m)))))
    simp only [List.map_cons, separated, List.append_assoc]
    rw [hstep, htail]
    simp [behindKey, Member.text, Element.text]

/-- The members that are left give the field once too often: it has been given, and one of them
gives it, or two of them do. -/
def Repeats (field : Field) (g : Given) (ms : List Member) : Prop :=
  (g.has field = true ∧ ∃ m ∈ ms, m.key.Denotes field.name) ∨
    ∃ m m', [m, m'].Sublist ms ∧ m.key.Denotes field.name ∧ m'.key.Denotes field.name

/-- Reading a member that is not refused leaves it so. -/
theorem Repeats.step {field : Field} {g g' : Given} {m : Member} {ms : List Member}
    (h : Repeats field g (m :: ms)) (hold : g.has field = true → g'.has field = true)
    (hnew : m.key.Denotes field.name → g.has field = false ∧ g'.has field = true) :
    Repeats field g' ms := by
  rcases h with ⟨hhas, m₀, hm₀, hdenotes⟩ | ⟨a, b, hsub, ha, hb⟩
  · rcases List.mem_cons.1 hm₀ with rfl | hm₀
    · have hfalse := (hnew hdenotes).1
      simp [hhas] at hfalse
    · exact .inl ⟨hold hhas, m₀, hm₀, hdenotes⟩
  · cases hsub with
    | cons _ hsub => exact .inr ⟨a, b, hsub, ha, hb⟩
    | cons_cons _ hsub => exact .inl ⟨(hnew ha).2, b, List.singleton_sublist.1 hsub, hb⟩

/-- By the members from the front on: an object in which a field repeats is refused. -/
theorem readMembers_repeats {field : Field} {ms : List Member}
    (hvalues : ∀ m ∈ ms, IsValue m.value) {g : Given} (h : Repeats field g ms) {fuel : Nat}
    (hfuel : ms.length < fuel) (first : Bool) (lead gap : Blanks) (rest : List Char)
    (p : Position) :
    ∃ e, readMembers fuel first g
      ⟨lead.chars ++ (separated first (ms.map Member.text) ++ (gap.chars ++ '}' :: rest)), p⟩ =
        .error e := by
  induction ms generalizing g fuel first lead p with
  | nil => simp [Repeats] at h
  | cons m ms ih =>
    obtain ⟨fuel, rfl⟩ := Nat.exists_eq_add_one_of_ne_zero (Nat.ne_zero_of_lt hfuel)
    have hclose := closes_separated (ms.map Member.text) gap '}' (by decide) rest
    simp only [List.map_cons, separated, List.append_assoc]
    rcases m.key.reads_or_fails with ⟨name, hname⟩ | hfails
    · rcases readMember_cases (hvalues m (by simp)) name g with hrefused | ⟨g', htakes, hgrows⟩
      · exact readMembers_refused (.inr ⟨name, hname, hrefused⟩) fuel first lead hclose p
      · have hkey (hdenotes : m.key.Denotes field.name) : field.name = name :=
          reads_unique hdenotes.reads hname
        have hleft := h.step (hgrows field).1 fun hdenotes => (hgrows field).2 (hkey hdenotes)
        rw [readMembers_takes hname htakes fuel first lead hclose p]
        exact ih (fun m' hm' => hvalues m' (by simp [hm'])) hleft (by simpa using hfuel) false
          m.after _
    · exact readMembers_refused (.inl hfails) fuel first lead hclose p

/-- By the elements from the front on: their values are given to the first fields. If there are no
fields left, the end of the list is still to come, and if there are, it has been seen. -/
theorem readElements_spelled {es : List Element} {xs : List Setting}
    (h : List.Forall₂ (fun e x => Setting.Spelled e.value x) es xs) (g : Given)
    (fields : List Field) (first : Bool) (lead gap : Blanks) (rest : List Char) (p : Position) :
    ∃ (lead' : Blanks) (p' : Position),
      readElements (xs.map Setting.field ++ fields) first g
        ⟨lead.chars ++ (separated first (es.map Element.text) ++ (gap.chars ++ ']' :: rest)), p⟩ =
      .ok (xs.foldl Setting.give g, ⟨lead'.chars ++ (gap.chars ++ ']' :: rest), p'⟩) := by
  induction h generalizing g first lead p with
  | nil =>
    refine ⟨lead, p, ?_⟩
    cases fields with
    | nil => rfl
    | cons field fields => simp [readElements, separated, nextElement_end]
  | @cons e x es xs hspelled _ ih =>
    have hvalue := Setting.isValue hspelled
    have hread := reads_spelled hspelled g .none
    have hstep := readElements_takes hvalue (.of_reads hread) (xs.map Setting.field ++ fields) first
      lead (closes_separated (es.map Element.text) gap ']' (by decide) rest) p
    obtain ⟨lead', p', htail⟩ := ih (x.give g) false e.after
      (p.afterAll (lead.chars ++ (Layout.lead first ++ (e.before.chars ++ e.value))))
    refine ⟨lead', p', ?_⟩
    simp only [List.map_cons, separated, List.append_assoc, List.cons_append, List.foldl_cons]
    rw [hstep, htail]

/-- By the fields: with more values than fields, an element is refused, or a comma is left to
come. -/
theorem readElements_long {fields : List Field} {es : List Element}
    (hvalues : ∀ e ∈ es, IsValue e.value) (hlong : fields.length < es.length) (g : Given)
    (first : Bool) (hfirst : first = true → fields ≠ []) (lead gap : Blanks) (rest : List Char)
    (p : Position) :
    (∃ e, readElements fields first g ⟨lead.chars ++
      (separated first (es.map Element.text) ++ (gap.chars ++ ']' :: rest)), p⟩ = .error e) ∨
    ∃ (g' : Given) (lead' : Blanks) (rest' : List Char) (p' : Position),
      readElements fields first g ⟨lead.chars ++
        (separated first (es.map Element.text) ++ (gap.chars ++ ']' :: rest)), p⟩ =
      .ok (g', ⟨lead'.chars ++ ',' :: rest', p'⟩) := by
  induction fields generalizing es g first lead p with
  | nil =>
    obtain rfl : first = false := by simpa using hfirst
    cases es with
    | nil => simp at hlong
    | cons e es =>
      refine .inr ⟨g, lead, e.text ++ (separated false (es.map Element.text) ++
        (gap.chars ++ ']' :: rest)), p, ?_⟩
      simp [readElements, separated, Layout.lead]
  | cons field fields ih =>
    cases es with
    | nil => simp at hlong
    | cons e es =>
      have hvalue := hvalues e (by simp)
      have hclose := closes_separated (es.map Element.text) gap ']' (by decide) rest
      simp only [List.map_cons, separated, List.append_assoc]
      rcases readField_cases hvalue field g .none with hrefused | ⟨x, -, htakes⟩
      · exact .inl (readElements_refused hvalue hrefused fields first lead hclose p)
      · rw [readElements_takes hvalue htakes fields first lead hclose p]
        exact ih (fun e' he' => hvalues e' (by simp [he'])) (by simpa using hlong) (x.give g)
          false (by simp) e.after _

/-- Each text between brackets takes at least one character. -/
theorem length_le_separated {texts : List (List Char)} (h : ∀ text ∈ texts, text ≠ [])
    (first : Bool) : texts.length ≤ (separated first texts).length := by
  induction texts generalizing first with
  | nil => simp
  | cons text texts ih =>
    have htail := ih (fun other hother => h other (by simp [hother])) false
    have hhead := List.length_pos_iff.2 (h text (by simp))
    simp only [separated, List.length_cons, List.length_append]
    omega

/-- An object is read with enough fuel for its members. -/
theorem readGiven_object (before gap after : Blanks) (ms : List Member) (p : Position) :
    ∃ fuel, ms.length < fuel ∧
      readGiven ⟨before.chars ++ (objectText gap ms ++ after.chars), p⟩ =
        readMembers fuel true {} ⟨separated true (ms.map Member.text) ++
          (gap.chars ++ '}' :: after.chars), (p.afterAll before.chars).after '{'⟩ := by
  have hskip := Cursor.skipBlank_cons (k := '{') rfl (separated true (ms.map Member.text) ++
    (gap.chars ++ '}' :: after.chars)) (p.afterAll before.chars)
  have htexts : ∀ text ∈ ms.map Member.text, text ≠ [] := by
    simp [Member.text, Spelling.quoted]
  have hlength := length_le_separated htexts true
  refine ⟨('{' :: (separated true (ms.map Member.text) ++
    (gap.chars ++ '}' :: after.chars))).length, ?_, ?_⟩
  · simp only [List.length_map] at hlength
    simp only [List.length_cons, List.length_append]
    omega
  · simp [readGiven, objectText, enclosed_eq, hskip]

theorem readGiven_list {before gap after : Blanks} {es : List Element} {p : Position} {g : Given}
    {c : Cursor} (h : readElements Field.all true {} ⟨separated true (es.map Element.text) ++
      (gap.chars ++ ']' :: after.chars), (p.afterAll before.chars).after '['⟩ = .ok (g, c)) :
    readGiven ⟨before.chars ++ (listText gap es ++ after.chars), p⟩ = (endList c).map (g, ·) := by
  have hskip := Cursor.skipBlank_cons (k := '[') rfl (separated true (es.map Element.text) ++
    (gap.chars ++ ']' :: after.chars)) (p.afterAll before.chars)
  simp [readGiven, listText, enclosed_eq, hskip, h]

theorem readGiven_list_error {before gap after : Blanks} {es : List Element} {p : Position}
    {e : Error} (h : readElements Field.all true {} ⟨separated true (es.map Element.text) ++
      (gap.chars ++ ']' :: after.chars), (p.afterAll before.chars).after '['⟩ = .error e) :
    readGiven ⟨before.chars ++ (listText gap es ++ after.chars), p⟩ = .error e := by
  have hskip := Cursor.skipBlank_cons (k := '[') rfl (separated true (es.map Element.text) ++
    (gap.chars ++ ']' :: after.chars)) (p.afterAll before.chars)
  simp [readGiven, listText, enclosed_eq, hskip, h]

/-- White space behind the settings is no error. -/
theorem parse_ok {text : String} {g : Given} {after : Blanks} {p : Position}
    (h : readGiven (.ofText text) = .ok (g, ⟨after.chars, p⟩)) : parse text = .ok g := by
  have hskip : (Cursor.skipBlank ⟨after.chars, p⟩).rest = [] := by
    simpa [Cursor.skipBlank, Cursor.span] using after.isBlank
  simp [parse, h, hskip]

theorem parse_members {text : String} {gap : Blanks} {ms : List Member} {xs : List Setting}
    (htext : Holds text (objectText gap ms)) (hgives : Says ms xs)
    (hnodup : (xs.map Setting.field).Nodup) : parse text = .ok (xs.foldl Setting.give {}) := by
  obtain ⟨before, after, htext⟩ := htext
  obtain ⟨fuel, hfuel, hread⟩ := readGiven_object before gap after ms .start
  have hmembers := hgives.readMembers (g := {}) hnodup
    (by intro x _; cases x <;> rfl) hfuel true .none gap after.chars
    ((Position.start.afterAll before.chars).after '{')
  simp only [Blanks.chars_none, List.nil_append] at hmembers
  rw [← htext, hmembers] at hread
  exact parse_ok hread

theorem parse_elements {text : String} {gap : Blanks} {es : List Element} {xs : List Setting}
    (htext : Holds text (listText gap es))
    (hspelled : List.Forall₂ (fun e x => Setting.Spelled e.value x) es xs)
    (hfields : xs.map Setting.field <+: Field.all) :
    parse text = .ok (xs.foldl Setting.give {}) := by
  obtain ⟨before, after, htext⟩ := htext
  obtain ⟨fields, hall⟩ := hfields
  obtain ⟨lead, p, hread⟩ := readElements_spelled hspelled {} fields true .none gap
    after.chars ((Position.start.afterAll before.chars).after '[')
  rw [hall] at hread
  have hgiven := readGiven_list hread
  rw [endList_end, ← htext] at hgiven
  exact parse_ok hgiven

theorem parse_twice {text : String} {gap : Blanks} {ms : List Member}
    (htext : Holds text (objectText gap ms)) (hvalues : ∀ m ∈ ms, IsValue m.value)
    {field : Field} {m m' : Member} (hboth : [m, m'].Sublist ms)
    (hm : m.key.Denotes field.name) (hm' : m'.key.Denotes field.name) :
    ∃ e, parse text = .error e := by
  obtain ⟨before, after, htext⟩ := htext
  obtain ⟨fuel, hfuel, hread⟩ := readGiven_object before gap after ms .start
  obtain ⟨e, he⟩ := readMembers_repeats hvalues (g := {}) (.inr ⟨m, m', hboth, hm, hm'⟩) hfuel
    true .none gap after.chars ((Position.start.afterAll before.chars).after '{')
  simp only [Blanks.chars_none, List.nil_append] at he
  rw [← htext, he] at hread
  exact ⟨e, by simp [parse, Cursor.ofText, hread]⟩

theorem parse_long {text : String} {gap : Blanks} {es : List Element}
    (htext : Holds text (listText gap es)) (hvalues : ∀ e ∈ es, IsValue e.value)
    (hlong : Field.all.length < es.length) : ∃ e, parse text = .error e := by
  obtain ⟨before, after, htext⟩ := htext
  rcases readElements_long hvalues hlong {} true (by simp [Field.all]) .none gap
    after.chars ((Position.start.afterAll before.chars).after '[') with
    ⟨e, he⟩ | ⟨g, lead, rest, p, hread⟩
  · have hgiven := readGiven_list_error he
    rw [← htext] at hgiven
    exact ⟨e, by simp [parse, Cursor.ofText, hgiven]⟩
  · obtain ⟨e, he⟩ := endList_comma lead rest p
    have hgiven := readGiven_list hread
    rw [he, ← htext] at hgiven
    exact ⟨e, by simp [parse, Cursor.ofText, hgiven, Except.map]⟩

end ManagedBridge.Config

namespace ManagedBridge.BridgeConfig

open ManagedBridge.Json ManagedBridge.Config

theorem ofJson_of_parse {text : String} {xs : List Setting}
    (h : parse text = .ok (xs.foldl Setting.give {})) : ofJson text = (merged xs).validate := by
  rw [ofJson, h]
  simp only [toConfig_foldl_give]
  rfl

theorem ofJson_of_object {text : String} {xs : List Setting} (h : ObjectGives text xs) :
    ofJson text = (merged xs).validate := by
  obtain ⟨hnodup, gap, ms, htext, hgives⟩ := h
  exact ofJson_of_parse (parse_members htext hgives hnodup)

theorem ofJson_of_list {text : String} {xs : List Setting} (h : ListGives text xs) :
    ofJson text = (merged xs).validate := by
  obtain ⟨hfields, gap, es, htext, hspelled⟩ := h
  exact ofJson_of_parse (parse_elements htext hspelled hfields)

theorem ofJson_error {text : String} (h : ∃ e, parse text = .error e) :
    ∃ e, ofJson text = .error (.parse e) := by
  obtain ⟨e, he⟩ := h
  exact ⟨e, by rw [ofJson, he]⟩

/-- What settings a text gives is all that matters about it. An object gives the defaults with its
fields overridden, unless a name is blank, the class first; two objects with the same fields give
the same. A field that stands twice is an error, under whatever escapes and with whatever values.
A list of values gives what an object with the first fields gives, and one of more than three is an
error. -/
theorem ofJson_merges :
    (∀ text xs, ObjectGives text xs →
      ofJson text =
        if Text.trim (merged xs).stringClass = [] then .error .emptyStringClass
        else if Text.trim (merged xs).charset = [] then .error .emptyCharset
        else .ok (merged xs)) ∧
    (∀ text text' xs xs', ObjectGives text xs → ObjectGives text' xs' → (∀ x, x ∈ xs ↔ x ∈ xs') →
      ofJson text = ofJson text') ∧
    (∀ text gap ms, Holds text (objectText gap ms) → (∀ m ∈ ms, IsValue m.value) →
      ∀ (field : Field) (m m' : Member), [m, m'].Sublist ms → m.key.Denotes field.name →
        m'.key.Denotes field.name → ∃ e, ofJson text = .error (.parse e)) ∧
    (∀ text text' xs xs', ListGives text xs → ObjectGives text' xs' → (∀ x, x ∈ xs ↔ x ∈ xs') →
      ofJson text = ofJson text') ∧
    (∀ text gap es, Holds text (listText gap es) → (∀ e ∈ es, IsValue e.value) → 3 < es.length →
      ∃ e, ofJson text = .error (.parse e)) := by
  refine ⟨?object, ?objects, ?twice, ?list, ?long⟩
  case object =>
    intro text xs h
    rw [ofJson_of_object h, validate_eq]
  case objects =>
    intro text text' xs xs' h h' hsame
    rw [ofJson_of_object h, ofJson_of_object h', merged_eq h.1 h'.1 hsame]
  case twice =>
    intro text gap ms htext hvalues field m m' hboth hm hm'
    exact ofJson_error (parse_twice htext hvalues hboth hm hm')
  case list =>
    intro text text' xs xs' h h' hsame
    have hnodup : (xs.map Setting.field).Nodup :=
      List.Nodup.sublist h.1.sublist (by decide)
    rw [ofJson_of_list h, ofJson_of_object h', merged_eq hnodup h'.1 hsame]
  case long =>
    intro text gap es htext hvalues hlong
    exact ofJson_error (parse_long htext hvalues hlong)

/-- The spelling of a text that needs no escapes; characters that need one are left out. -/
def unescaped (text : String) : Spelling :=
  text.toList.filterMap fun k =>
    if allowed : k ≠ '"' ∧ k ≠ '\\' ∧ ' ' ≤ k then some (.plain k allowed) else none

/-- The name of the charset, with one letter escaped. -/
def escapedCharset : Spelling :=
  unescaped "ch" ++ .unicode ⟨0, false⟩ ⟨0, false⟩ ⟨6, false⟩ ⟨1, false⟩ :: unescaped "rset"

/-- A letter that is escaped, though it need not be. -/
def escapedLetter : Spelling := [.unicode ⟨0, false⟩ ⟨0, false⟩ ⟨14, true⟩ ⟨9, false⟩]

/-- A place with no white space around it. -/
def tight (value : List Char) : Element := ⟨.none, value, .none⟩

/-- A member with no white space. -/
def tightMember (key : Spelling) (value : List Char) : Member := ⟨tight value, .none, key, .none⟩

/-- A list with a number and an empty object. -/
def surplus : List Char :=
  listText ⟨[' '], by simp [whiteSpace]⟩ [tight "-0.5E+3".toList, tight (objectText .none [])]

/-- A charset, with escapes, behind something that is not a field. -/
def escaped : String :=
  "\x7b\"more\":[-0.5E+3,\x7b\x7d ],\"ch\\u0061rset\":\"\\u00E9\"\x7d\n"

theorem isValue_surplus : IsValue surplus := by
  have hfraction : IsFraction ['.', '5'] := .present (by simp [IsDigits, IsDigit])
  have hexponent : IsExponent ('E' :: (['+'] ++ ['3'])) :=
    .present (by decide) (by decide) (by simp [IsDigits, IsDigit])
  have hnumber : IsNumber (['-'] ++ (['0'] ++ (['.', '5'] ++ 'E' :: (['+'] ++ ['3'])))) :=
    .mk (by decide) .zero hfraction hexponent
  apply IsValue.list
  intro e he
  simp only [List.mem_cons, List.not_mem_nil, or_false] at he
  rcases he with rfl | rfl
  · exact .number hnumber
  · exact .object _ _ (List.forall_mem_nil _)

theorem escaped_gives : ObjectGives escaped [.charset "é"] := by
  have hmore : ∀ field : Field, field.name ≠ "more" := by
    intro field
    cases field <;> decide
  have hletter : Setting.Spelled escapedLetter.quoted (.charset "é") :=
    ⟨escapedLetter, by decide, rfl⟩
  have hrest : Says [tightMember escapedCharset escapedLetter.quoted] [.charset "é"] :=
    .sets (by decide) hletter .nothing
  have hkey : (unescaped "more").Denotes "more" := by decide
  exact ⟨by decide, .none, tightMember (unescaped "more") surplus :: _,
    ⟨.none, ⟨['\n'], by simp [whiteSpace]⟩, by decide +kernel⟩,
    .skips hkey hmore isValue_surplus hrest⟩

/-- One member, of which neither the key nor the value has escapes. -/
theorem unescaped_gives {text : String} (value : String) {x : Setting}
    (htext : text.toList = objectText .none
      [tightMember (unescaped x.field.name) (unescaped value).quoted])
    (hkey : (unescaped x.field.name).Denotes x.field.name)
    (hvalue : x.Spelled (unescaped value).quoted) : ObjectGives text [x] :=
  ⟨by simp, .none, _, ⟨.none, .none, by simpa using htext⟩, .sets hkey hvalue .nothing⟩

/-- The letter need not be escaped, nor anything else be there. A charset that stands twice is an
error, once with its name escaped and with no string for a value, and so is a list of four. -/
theorem escaped_merges :
    ofJson escaped = .ok { charset := "é" } ∧
    ofJson escaped = ofJson "\x7b\"charset\":\"é\"\x7d" ∧
    (∃ e, ofJson "\x7b\"charset\":\"a\",\"ch\\u0061rset\":null\x7d" = .error (.parse e)) ∧
    ofJson "[\"b\"]" = ofJson "\x7b\"string_class\":\"b\"\x7d" ∧
    ∃ e, ofJson "[null,null,null,null]" = .error (.parse e) := by
  obtain ⟨hobject, hobjects, htwice, hlist, hlong⟩ := ofJson_merges
  refine ⟨?_, ?_, ?_, ?_, ?_⟩
  · rw [hobject _ _ escaped_gives]
    decide
  · have hplain : ObjectGives "\x7b\"charset\":\"é\"\x7d" [.charset "é"] :=
      unescaped_gives "é" (by decide +kernel) (by decide) ⟨_, by decide, rfl⟩
    exact hobjects _ _ _ _ escaped_gives hplain fun x => Iff.rfl
  · have hvalues : ∀ m ∈ [tightMember (unescaped "charset") (unescaped "a").quoted,
        tightMember escapedCharset "null".toList], IsValue m.value := by
      simp only [List.mem_cons, List.not_mem_nil, or_false, forall_eq_or_imp, forall_eq]
      exact ⟨.string _, .null⟩
    exact htwice _ .none _ ⟨.none, .none, by decide +kernel⟩ hvalues .charset _ _
      (List.Sublist.refl _) (by decide) (by decide)
  · have hnamed : ObjectGives "\x7b\"string_class\":\"b\"\x7d" [.stringClass "b"] :=
      unescaped_gives "b" (by decide +kernel) (by decide) ⟨_, by decide, rfl⟩
    have hvalue : Setting.Spelled (unescaped "b").quoted (.stringClass "b") :=
      ⟨_, by decide, rfl⟩
    have hgives : ListGives "[\"b\"]" [.stringClass "b"] :=
      ⟨by decide, .none, [tight (unescaped "b").quoted], ⟨.none, .none, by decide +kernel⟩,
        .cons hvalue .nil⟩
    exact hlist _ _ _ _ hgives hnamed fun x => Iff.rfl
  · have hvalues : ∀ e ∈ List.replicate 4 (tight "null".toList), IsValue e.value := by
      intro e he
      rw [List.eq_of_mem_replicate he]
      exact .null
    exact hlong _ .none _ ⟨.none, .none, by decide +kernel⟩ hvalues (by decide)

end ManagedBridge.BridgeConfig
