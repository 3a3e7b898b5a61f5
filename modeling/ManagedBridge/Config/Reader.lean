import ManagedBridge.Config
import ManagedBridge.Json.Skip
import ManagedBridge.Text.Utf8

/-!
# Reading settings

Settings are a JSON object, or a list of the fields' values in their order. What is not given keeps
its default; members that are not fields are skipped; a field given twice is an error.
-/

namespace ManagedBridge.Config

open ManagedBridge.Json

inductive Field
  | stringClass
  | charset
  | describeExceptions
  deriving DecidableEq, Repr

namespace Field

def all : List Field := [stringClass, charset, describeExceptions]

def name : Field → String
  | stringClass => "string_class"
  | charset => "charset"
  | describeExceptions => "describe_exceptions"

def ofName? (s : String) : Option Field := all.find? (·.name == s)

end Field

/-- The fields that have been read. -/
structure Given where
  stringClass : Option String := none
  charset : Option String := none
  describeExceptions : Option Bool := none
  deriving DecidableEq, Repr

namespace Given

def has (g : Given) : Field → Bool
  | .stringClass => g.stringClass.isSome
  | .charset => g.charset.isSome
  | .describeExceptions => g.describeExceptions.isSome

/-- The settings with the defaults for what is not given. -/
def toConfig (g : Given) : BridgeConfig :=
  { stringClass := g.stringClass.getD ({} : BridgeConfig).stringClass
    charset := g.charset.getD ({} : BridgeConfig).charset
    describeExceptions := g.describeExceptions.getD ({} : BridgeConfig).describeExceptions }

end Given

/-- The error for a value of the wrong type at the cursor. A list or an object is not read; all else
is, and may turn out not to be a value. -/
def mismatch (expected : String) (c : Cursor) : Error :=
  let found (what : String) (stop : Cursor) : Error := ⟨.invalidType what expected, stop.position⟩
  let ident (word : List Char) (what : String) : Error :=
    match c.advance.readIdent word with
    | .ok stop => found what stop
    | .error e => e
  let number (start : Cursor) (positive : Bool) : Error :=
    match Number.read start positive with
    | .ok (n, stop) => found n.describe stop
    | .error e => e
  match c.peek? with
  | none => ⟨.expectedValue, c.peekPosition⟩
  | some k =>
    if k == 'n' then ident ['u', 'l', 'l'] "null"
    else if k == 't' then ident ['r', 'u', 'e'] "boolean `true`"
    else if k == 'f' then ident ['a', 'l', 's', 'e'] "boolean `false`"
    else if k == '-' then number c.advance false
    else if Cursor.isDigit k then number c true
    else if k == '"' then
      match readText [] c.advance with
      | .ok (s, stop) => found ("string " ++ Text.quoted s) stop
      | .error e => e
    else if k == '[' then found "sequence" c
    else if k == '{' then found "map" c
    else ⟨.expectedValue, c.peekPosition⟩

def readString (c₀ : Cursor) : Reading String :=
  let c := c₀.skipBlank
  match c.peek? with
  | none => c.fail .eofValue
  | some k => if k == '"' then readText [] c.advance else .error (mismatch "a string" c)

def readBool (c₀ : Cursor) : Reading Bool :=
  let c := c₀.skipBlank
  match c.peek? with
  | none => c.fail .eofValue
  | some k =>
    if k == 't' then (c.advance.readIdent ['r', 'u', 'e']).map (true, ·)
    else if k == 'f' then (c.advance.readIdent ['a', 'l', 's', 'e']).map (false, ·)
    else .error (mismatch "a boolean" c)

/-- Reads the value of a field into what has been given. -/
def readField (field : Field) (g : Given) (c : Cursor) : Reading Given :=
  match field with
  | .stringClass => (readString c).map fun (s, c) => ({ g with stringClass := some s }, c)
  | .charset => (readString c).map fun (s, c) => ({ g with charset := some s }, c)
  | .describeExceptions =>
    (readBool c).map fun (b, c) => ({ g with describeExceptions := some b }, c)

/-- Where an error in the middle of an object is placed if it has no place of its own: behind the
blanks that follow, and behind the object's end if that comes next. -/
def closedPosition (c₀ : Cursor) : Position :=
  let c := c₀.skipBlank
  if c.peek? == some '}' then c.advance.position else c.position

/-- Steps to the opening quote of the next key, or finds the end of the object (`none`). -/
def nextKey (first : Bool) (c₀ : Cursor) : Except Error (Option Cursor) :=
  let c := c₀.skipBlank
  match c.peek? with
  | none => c.fail .eofObject
  | some k =>
    if k == '}' then .ok none
    else if first then if k == '"' then .ok (some c) else c.failAtPeek .keyMustBeString
    else if k == ',' then
      let d := c.advance.skipBlank
      match d.peek? with
      | none => d.fail .eofValue
      | some j =>
        if j == '"' then .ok (some d)
        else if j == '}' then d.failAtPeek .trailingComma
        else d.failAtPeek .keyMustBeString
    else c.failAtPeek .expectedObjectCommaOrEnd

/-- Reads the value that belongs to a key, from behind the key. -/
def readMember (key : String) (g : Given) (c : Cursor) : Reading Given :=
  match Field.ofName? key with
  | some field =>
    if g.has field then .error ⟨.duplicateField field.name, closedPosition c⟩
    else
      match skipColon c with
      | .error e => .error e
      | .ok c => readField field g c
  | none =>
    match skipColon c with
    | .error e => .error e
    | .ok c => (skipValue c).map (g, ·)

/-- Reads the members of an object up to its end, at most `fuel` of them. -/
def readMembers : (fuel : Nat) → (first : Bool) → Given → Cursor → Reading Given
  | 0, _, _, c => c.fail .eofObject
  | fuel + 1, first, g, c =>
    match nextKey first c with
    | .error e => .error e
    | .ok none => .ok (g, c.skipBlank.advance)
    | .ok (some start) =>
      match readText [] start.advance with
      | .error e => .error e
      | .ok (key, c₁) =>
        match readMember key g c₁ with
        | .error e => .error e
        | .ok (g, c₂) => readMembers fuel false g c₂

/-- Steps to the next element of a list, or finds the end of the list (`none`). -/
def nextElement (first : Bool) (c₀ : Cursor) : Except Error (Option Cursor) :=
  let c := c₀.skipBlank
  match c.peek? with
  | none => c.fail .eofList
  | some k =>
    if k == ']' then .ok none
    else if first then .ok (some c)
    else if k == ',' then
      let d := c.advance.skipBlank
      match d.peek? with
      | none => d.fail .eofValue
      | some j => if j == ']' then d.failAtPeek .trailingComma else .ok (some d)
    else c.failAtPeek .expectedListCommaOrEnd

/-- Reads the values of `fields` up to the end of the list. -/
def readElements : (fields : List Field) → (first : Bool) → Given → Cursor → Reading Given
  | [], _, g, c => .ok (g, c)
  | field :: fields, first, g, c =>
    match nextElement first c with
    | .error e => .error e
    | .ok none => .ok (g, c)
    | .ok (some start) =>
      match readField field g start with
      | .error e => .error e
      | .ok (g, c) => readElements fields false g c

/-- Steps over the end of a list that has no more fields to give. -/
def endList (c₀ : Cursor) : Except Error Cursor :=
  let c := c₀.skipBlank
  match c.peek? with
  | none => c.fail .eofList
  | some k =>
    if k == ']' then .ok c.advance
    else if k == ',' then
      let d := c.advance.skipBlank
      if d.peek? == some ']' then d.failAtPeek .trailingComma else d.failAtPeek .trailingCharacters
    else c.failAtPeek .trailingCharacters

/-- Reads an object or a list of settings. -/
def readGiven (c₀ : Cursor) : Reading Given :=
  let c := c₀.skipBlank
  match c.peek? with
  | none => c.fail .eofValue
  | some k =>
    if k == '{' then readMembers c.rest.length true {} c.advance
    else if k == '[' then
      match readElements Field.all true {} c.advance with
      | .error e => .error e
      | .ok (g, c) => (endList c).map (g, ·)
    else .error (mismatch "struct BridgeConfig" c)

/-- Reads a whole text; nothing but blanks may follow the settings. -/
def parse (s : String) : Except Error Given :=
  match readGiven (.ofText s) with
  | .error e => .error e
  | .ok (g, c) =>
    if c.skipBlank.rest.isEmpty then .ok g else c.skipBlank.failAtPeek .trailingCharacters

end ManagedBridge.Config

namespace ManagedBridge.BridgeConfig

/-- The settings that a JSON text gives. -/
def ofJson (s : String) : Except ConfigError BridgeConfig :=
  match Config.parse s with
  | .error e => .error (.parse e)
  | .ok g => g.toConfig.validate

/-- The settings that the value of an environment variable gives. A variable that is not set, or
whose value is not UTF-8, gives the defaults. -/
def ofEnvironment (value : Option (List UInt8)) : Except ConfigError BridgeConfig :=
  match value.bind Text.Utf8.decode? with
  | some s => ofJson s
  | none => .ok {}

end ManagedBridge.BridgeConfig
