import Mathlib.Data.List.DropRight
import ManagedBridge.Config.Reader
import ManagedBridge.Config.Writer
import ManagedBridge.Proofs.Escaping

/-!
# Settings are read as they were written

Both written forms of settings are one object in two layouts, which differ in the white space
between its parts. Whatever the layout, the reader takes the object off the front of a text and
finds each field as it was written, so that reading judges the very settings that were written:
it refuses blank names and nothing else, and changes nothing.
-/

namespace ManagedBridge

/-- What is left of a text when the white space at its ends is trimmed. -/
def Text.trim (s : String) : List Char :=
  (s.toList.dropWhile Text.isWhiteSpace).rdropWhile Text.isWhiteSpace

/-- Trimming at the ends leaves nothing only where there was nothing but white space. -/
theorem Text.isBlank_iff_trim (s : String) : Text.isBlank s = true ↔ Text.trim s = [] := by
  rw [isBlank, List.all_eq_true, trim, List.rdropWhile_eq_nil_iff]
  constructor
  · intro hall k hk
    exact hall k ((List.dropWhile_suffix _).subset hk)
  · intro hback k hk
    rw [← List.takeWhile_append_dropWhile (p := isWhiteSpace) (l := s.toList)] at hk
    rcases List.mem_append.1 hk with hfront | hrest
    · exact List.mem_takeWhile_imp hfront
    · exact hback k hrest

namespace Json

theorem Cursor.skipBlank_append {gap : List Char} {k : Char}
    (hgap : ∀ j ∈ gap, Cursor.isBlank j = true) (hk : Cursor.isBlank k = false)
    (rest : List Char) (p : Position) :
    Cursor.skipBlank ⟨gap ++ k :: rest, p⟩ = ⟨k :: rest, p.afterAll gap⟩ := by
  have htaken : (gap ++ k :: rest).takeWhile isBlank = gap := by
    rw [List.takeWhile_append_of_pos hgap]
    simp [hk]
  have hleft : (gap ++ k :: rest).dropWhile isBlank = k :: rest := by
    rw [List.dropWhile_append_of_pos hgap]
    simp [hk]
  simp [skipBlank, span, htaken, hleft]

theorem Cursor.skipBlank_cons {k : Char} (hk : Cursor.isBlank k = false) (rest : List Char)
    (p : Position) : Cursor.skipBlank ⟨k :: rest, p⟩ = ⟨k :: rest, p⟩ :=
  skipBlank_append (List.forall_mem_nil _) hk rest p

theorem Cursor.readIdent_append (word rest : List Char) (p : Position) :
    Cursor.readIdent ⟨word ++ rest, p⟩ word = .ok ⟨rest, p.afterAll word⟩ := by
  induction word generalizing p with
  | nil => rfl
  | cons w word ih =>
    have htail := ih (p.after w)
    simpa [readIdent] using htail

/-- The white space between the parts of a written object. -/
structure Layout where
  /-- What stands before each member and before the end. -/
  line : List Char
  /-- What stands between that and the key. -/
  indent : List Char
  /-- What stands between the colon and the value. -/
  gap : List Char
  blank_line : ∀ k ∈ line, Cursor.isBlank k = true
  blank_indent : ∀ k ∈ indent, Cursor.isBlank k = true
  blank_gap : ∀ k ∈ gap, Cursor.isBlank k = true

namespace Layout

/-- No white space at all. -/
def compact : Layout := ⟨[], [], [], by simp, by simp, by simp⟩

/-- Each member on a line of its own, two spaces in. -/
def lines : Layout where
  line := ['\n']
  indent := [' ', ' ']
  gap := [' ']
  blank_line := by simp [Cursor.isBlank]
  blank_indent := by simp [Cursor.isBlank]
  blank_gap := by simp [Cursor.isBlank]

/-- What separates a member from the one before it, if there is one. -/
def lead (first : Bool) : List Char := if first then [] else [',']

def member (l : Layout) (m : String × List Char) : List Char :=
  l.indent ++ (writeText m.1 ++ ':' :: (l.gap ++ m.2))

/-- The members of an object and its end; `first` says whether no member stands before them. -/
def members (l : Layout) : (first : Bool) → List (String × List Char) → List Char
  | _, [] => l.line ++ ['}']
  | first, m :: ms => lead first ++ (l.line ++ (l.member m ++ l.members false ms))

/-- A whole object. -/
def object (l : Layout) (ms : List (String × List Char)) : List Char :=
  '{' :: l.members true ms

theorem length_lt_members (l : Layout) (first : Bool) (ms : List (String × List Char)) :
    ms.length < (l.members first ms).length := by
  induction ms generalizing first with
  | nil => simp [members]
  | cons m ms ih =>
    have htail := ih false
    simp only [members, member, List.length_cons, List.length_append]
    omega

end Layout

end Json

namespace Config

open ManagedBridge.Json

namespace Field

/-- The value of a field as it is written. -/
def write (c : BridgeConfig) : Field → List Char
  | stringClass => writeText c.stringClass
  | charset => writeText c.charset
  | describeExceptions => (if c.describeExceptions then "true" else "false").toList

/-- What has been given once the field has been read, too. -/
def give (c : BridgeConfig) (g : Given) : Field → Given
  | stringClass => { g with stringClass := some c.stringClass }
  | charset => { g with charset := some c.charset }
  | describeExceptions => { g with describeExceptions := some c.describeExceptions }

@[simp] theorem ofName?_name (field : Field) : ofName? field.name = some field := by
  cases field <;> rfl

theorem has_give {field other : Field} (h : other ≠ field) (c : BridgeConfig) (g : Given) :
    (field.give c g).has other = g.has other := by
  cases field <;> cases other <;> simp_all [give, Given.has]

end Field

theorem reads_readString {gap : List Char} (hgap : ∀ k ∈ gap, Cursor.isBlank k = true)
    (s : String) : Reads readString (gap ++ writeText s) s := by
  intro rest p
  have hskip := Cursor.skipBlank_append (k := '"') hgap rfl
    (s.toList.flatMap writeChar ++ '"' :: rest) p
  have hread := readText_writeText s rest (p.afterAll gap)
  simp only [writeText, List.cons_append, List.append_assoc, List.nil_append] at hread ⊢
  simpa [readString, hskip] using hread

theorem reads_readBool {gap : List Char} (hgap : ∀ k ∈ gap, Cursor.isBlank k = true) (b : Bool) :
    Reads readBool (gap ++ (if b then "true" else "false").toList) b := by
  intro rest p
  cases b with
  | true =>
    have hskip := Cursor.skipBlank_append (k := 't') hgap rfl (['r', 'u', 'e'] ++ rest) p
    have hword := Cursor.readIdent_append ['r', 'u', 'e'] rest ((p.afterAll gap).after 't')
    simp only [List.cons_append, List.nil_append] at hskip hword
    simp [readBool, hskip, hword, Except.map]
  | false =>
    have hskip := Cursor.skipBlank_append (k := 'f') hgap rfl (['a', 'l', 's', 'e'] ++ rest) p
    have hword := Cursor.readIdent_append ['a', 'l', 's', 'e'] rest ((p.afterAll gap).after 'f')
    simp only [List.cons_append, List.nil_append] at hskip hword
    simp [readBool, hskip, hword, Except.map]

theorem reads_readField {gap : List Char} (hgap : ∀ k ∈ gap, Cursor.isBlank k = true)
    (c : BridgeConfig) (field : Field) (g : Given) :
    Reads (readField field g) (gap ++ field.write c) (field.give c g) := by
  cases field with
  | stringClass =>
    exact (reads_readString hgap c.stringClass).map fun s => { g with stringClass := some s }
  | charset =>
    exact (reads_readString hgap c.charset).map fun s => { g with charset := some s }
  | describeExceptions =>
    exact (reads_readBool hgap c.describeExceptions).map fun b =>
      { g with describeExceptions := some b }

theorem reads_readMember {gap : List Char} (hgap : ∀ k ∈ gap, Cursor.isBlank k = true)
    (c : BridgeConfig) {field : Field} {g : Given} (hnew : g.has field = false) :
    Reads (readMember field.name g) (':' :: (gap ++ field.write c)) (field.give c g) := by
  intro rest p
  have hcolon := Cursor.skipBlank_cons (k := ':') rfl (gap ++ field.write c ++ rest) p
  have hread := reads_readField hgap c field g rest (p.after ':')
  simp only [readMember, Field.ofName?_name, hnew, skipColon, List.cons_append, hcolon]
  simpa using hread

/-- In front of a member the reader finds its key, behind the comma if there has to be one. -/
theorem nextKey_lead (l : Layout) (first : Bool) (rest : List Char) (p : Position) :
    nextKey first ⟨Layout.lead first ++ (l.line ++ (l.indent ++ '"' :: rest)), p⟩ =
      .ok (some ⟨'"' :: rest, p.afterAll (Layout.lead first ++ (l.line ++ l.indent))⟩) := by
  have hblank : ∀ k ∈ l.line ++ l.indent, Cursor.isBlank k = true := by
    intro k hk
    rcases List.mem_append.1 hk with hline | hindent
    · exact l.blank_line k hline
    · exact l.blank_indent k hindent
  cases first with
  | true =>
    have hskip := Cursor.skipBlank_append (k := '"') hblank rfl rest p
    simp only [List.append_assoc] at hskip
    simp [nextKey, Layout.lead, hskip]
  | false =>
    have hcomma := Cursor.skipBlank_cons (k := ',') rfl (l.line ++ (l.indent ++ '"' :: rest)) p
    have hskip := Cursor.skipBlank_append (k := '"') hblank rfl rest (p.after ',')
    simp only [List.append_assoc] at hskip
    simp [nextKey, Layout.lead, hcomma, hskip]

theorem nextKey_end (l : Layout) (first : Bool) (rest : List Char) (p : Position) :
    nextKey first ⟨l.line ++ '}' :: rest, p⟩ = .ok none := by
  have hskip := Cursor.skipBlank_append (k := '}') l.blank_line rfl rest p
  simp [nextKey, hskip]

/-- One member is read, and reading goes on behind it with the field given. -/
theorem readMembers_member (l : Layout) (c : BridgeConfig) {field : Field} {g : Given}
    (hnew : g.has field = false) (fuel : Nat) (first : Bool) (rest : List Char) (p : Position) :
    readMembers (fuel + 1) first g
        ⟨Layout.lead first ++ (l.line ++ (l.member (field.name, field.write c) ++ rest)), p⟩ =
      readMembers fuel false (field.give c g)
        ⟨rest, p.afterAll
          (Layout.lead first ++ (l.line ++ l.member (field.name, field.write c)))⟩ := by
  have hkey := nextKey_lead l first (field.name.toList.flatMap writeChar ++
    '"' :: ':' :: (l.gap ++ (field.write c ++ rest))) p
  have hname := readText_writeText field.name (':' :: (l.gap ++ (field.write c ++ rest)))
    (p.afterAll (Layout.lead first ++ (l.line ++ l.indent)))
  have hvalue := reads_readMember l.blank_gap c hnew rest
    (p.afterAll (Layout.lead first ++ (l.line ++ (l.indent ++ writeText field.name))))
  simp only [Layout.member, writeText, List.cons_append, List.append_assoc, List.nil_append,
    Position.afterAll_append] at hkey hname hvalue ⊢
  simp only [readMembers, hkey, hname, hvalue]
  simp

/-- Fields that have not been given yet are read one after the other, whichever they are and in
whatever order they stand, up to the end of the object. -/
theorem readMembers_members (l : Layout) (c : BridgeConfig)
    {fields : List Field} {g : Given} {fuel : Nat} (hnodup : fields.Nodup)
    (hnew : ∀ field ∈ fields, g.has field = false) (hfuel : fields.length < fuel) (first : Bool) :
    Reads (readMembers fuel first g)
      (l.members first (fields.map fun field => (field.name, field.write c)))
      (fields.foldl (Field.give c) g) := by
  obtain ⟨fuel, rfl⟩ : ∃ left, fuel = left + 1 := ⟨fuel - 1, by omega⟩
  induction fields generalizing g fuel first with
  | nil =>
    intro rest p
    have hskip := Cursor.skipBlank_append (k := '}') l.blank_line rfl rest p
    simp [readMembers, Layout.members, nextKey_end, hskip]
  | cons field fields ih =>
    intro rest p
    obtain ⟨hout, hnodup⟩ := List.nodup_cons.1 hnodup
    have hstill : ∀ other ∈ fields, (field.give c g).has other = false := by
      intro other hother
      have hne : other ≠ field := by
        rintro rfl
        exact hout hother
      rw [Field.has_give hne]
      exact hnew other (by simp [hother])
    obtain ⟨fuel, rfl⟩ : ∃ left, fuel = left + 1 :=
      ⟨fuel - 1, by simp only [List.length_cons] at hfuel; omega⟩
    have hstep := readMembers_member l c (hnew field (by simp)) (fuel + 1) first
      (l.members false (fields.map fun field => (field.name, field.write c)) ++ rest) p
    have htail := ih hnodup hstill false fuel (by simpa using hfuel) rest
      (p.afterAll (Layout.lead first ++ (l.line ++ l.member (field.name, field.write c))))
    simp only [List.map_cons, Layout.members, List.append_assoc, List.foldl_cons] at hstep ⊢
    rw [hstep, htail]
    simp

theorem parse_object (l : Layout) (c : BridgeConfig) :
    parse (String.ofList (l.object c.members)) =
      .ok ⟨some c.stringClass, some c.charset, some c.describeExceptions⟩ := by
  have hfuel : Field.all.length < (l.object c.members).length := by
    have hlt := l.length_lt_members true c.members
    have hlength : c.members.length = Field.all.length := rfl
    simp only [Layout.object, List.length_cons]
    omega
  have hread := readMembers_members l c (by decide : Field.all.Nodup)
    (by decide : ∀ field ∈ Field.all, ({} : Given).has field = false) hfuel true []
    (Position.start.after '{')
  have hskip := Cursor.skipBlank_cons (k := '{') rfl (l.members true c.members) .start
  simp only [List.append_nil] at hread
  have hmembers : Field.all.map (fun field => (field.name, field.write c)) = c.members := rfl
  rw [hmembers] at hread
  simp only [parse, readGiven, Cursor.ofText, String.toList_ofList, Layout.object, hskip]
  simp only [Layout.object, List.length_cons] at hread
  have hgiven : Field.all.foldl (Field.give c) {} =
      ⟨some c.stringClass, some c.charset, some c.describeExceptions⟩ := rfl
  simp [hread, hgiven, Cursor.skipBlank, Cursor.span]

end Config

namespace BridgeConfig

open ManagedBridge.Json

theorem toJson_eq (c : BridgeConfig) :
    c.toJson = String.ofList (Layout.compact.object c.members) := by
  simp [toJson, members, Layout.object, Layout.members, Layout.member, Layout.lead,
    Layout.compact, List.intercalate]

theorem toJsonLines_eq (c : BridgeConfig) :
    c.toJsonLines = String.ofList (Layout.lines.object c.members) := by
  simp [toJsonLines, members, Layout.object, Layout.members, Layout.member, Layout.lead,
    Layout.lines, List.intercalate]

/-- Reading written settings comes down to judging them. -/
theorem ofJson_object (l : Layout) (c : BridgeConfig) :
    ofJson (String.ofList (l.object c.members)) = c.validate := by
  rw [ofJson, Config.parse_object]
  rfl

theorem validate_eq (c : BridgeConfig) :
    c.validate =
      if Text.trim c.stringClass = [] then .error .emptyStringClass
      else if Text.trim c.charset = [] then .error .emptyCharset
      else .ok c := by
  simp only [validate, Text.isBlank_iff_trim]

/-- Settings that have been read have been judged. -/
theorem validate_of_ofJson {text : String} {c : BridgeConfig} (h : ofJson text = .ok c) :
    c.validate = .ok c := by
  have hgiven : ∃ g : Config.Given, g.toConfig.validate = .ok c := by
    unfold ofJson at h
    split at h
    · cases h
    · exact ⟨_, h⟩
  obtain ⟨g, hg⟩ := hgiven
  have hsame : g.toConfig = c := by
    unfold validate at hg
    split at hg
    · cases hg
    · split at hg
      · cases hg
      · simpa using hg
  rw [← hsame] at hg ⊢
  exact hg

/-- Settings survive being written and read, whatever characters they hold: the reader gives back
what was written, in either form, unless a name is blank, and then it says which. So what has been
read from any text has names that are not blank, and reads the same when it is written again. -/
theorem ofJson_written_again :
    (∀ c : BridgeConfig, ∀ text ∈ [c.toJson, c.toJsonLines],
      ofJson text =
        if Text.trim c.stringClass = [] then .error .emptyStringClass
        else if Text.trim c.charset = [] then .error .emptyCharset
        else .ok c) ∧
    (∀ (text : String) (c : BridgeConfig), ofJson text = .ok c →
      Text.trim c.stringClass ≠ [] ∧ Text.trim c.charset ≠ [] ∧
        ∀ again ∈ [c.toJson, c.toJsonLines], ofJson again = .ok c) := by
  have hwritten (c : BridgeConfig) : ∀ text ∈ [c.toJson, c.toJsonLines],
      ofJson text = c.validate := by
    simp [toJson_eq, toJsonLines_eq, ofJson_object]
  constructor
  · intro c text htext
    rw [hwritten c text htext, validate_eq]
  · intro text c hread
    have hvalid := validate_of_ofJson hread
    have hjudged := hvalid
    rw [validate_eq] at hjudged
    by_cases hclass : Text.trim c.stringClass = []
    · simp [hclass] at hjudged
    by_cases hcharset : Text.trim c.charset = []
    · simp [hclass, hcharset] at hjudged
    refine ⟨hclass, hcharset, ?_⟩
    intro again hagain
    rw [hwritten c again hagain, hvalid]

/-- A list of values, with a name that has a blank at its end, escapes that need not be there and a
character beyond the first plane. -/
def handWritten : String := "[ \"\\u0041\\/\x7f \", \" \\ud834\\udd1e\\u0000\\b\" ]"

/-- The settings that the list gives. -/
def fromHandWritten : BridgeConfig := ⟨"A/\x7f ", " 𝄞\x00\x08", true⟩

/-- The list is accepted, and its settings read the same in both written forms, though neither has
its escapes; a charset of white space is refused. -/
theorem handWritten_written_again :
    ofJson handWritten = .ok fromHandWritten ∧
      ofJson fromHandWritten.toJson = .ok fromHandWritten ∧
      ofJson fromHandWritten.toJsonLines = .ok fromHandWritten ∧
      ofJson (toJsonLines ⟨"\"", "\t ", true⟩) = .error .emptyCharset := by
  have hread : ofJson handWritten = .ok fromHandWritten := by decide +kernel
  have hagain := (ofJson_written_again.2 handWritten fromHandWritten hread).2.2
  have hrefused := ofJson_written_again.1 ⟨"\"", "\t ", true⟩
    (toJsonLines ⟨"\"", "\t ", true⟩) (by simp)
  refine ⟨hread, hagain _ (by simp), hagain _ (by simp), ?_⟩
  rw [hrefused]
  decide

end BridgeConfig

end ManagedBridge
