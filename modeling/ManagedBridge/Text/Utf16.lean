/-!
# UTF-16

Code points beyond U+FFFF are written as a pair of surrogate units. A surrogate outside a pair
stands for no code point.
-/

namespace ManagedBridge.Text.Utf16

def isHighSurrogate (u : UInt16) : Bool := 0xd800 ≤ u && u ≤ 0xdbff

def isLowSurrogate (u : UInt16) : Bool := 0xdc00 ≤ u && u ≤ 0xdfff

/-- The code point of a surrogate pair. -/
def ofPair (high low : UInt16) : Char :=
  Char.ofNat (0x10000 + (high.toNat - 0xd800) * 0x400 + (low.toNat - 0xdc00))

/-- The units of one code point. -/
def encodeChar (c : Char) : List UInt16 :=
  if c.toNat < 0x10000 then [c.toNat.toUInt16]
  else
    let n := c.toNat - 0x10000
    [(0xd800 + n / 0x400).toUInt16, (0xdc00 + n % 0x400).toUInt16]

def encodeChars (cs : List Char) : List UInt16 := cs.flatMap encodeChar

/-- The units of a text. -/
def encode (s : String) : List UInt16 := encodeChars s.toList

/-- What stands at the front of `u :: rest`: a code point, or `none` for an unpaired surrogate,
with the number of units that it takes from `rest`. -/
def first (u : UInt16) (rest : List UInt16) : Option Char × Nat :=
  if isHighSurrogate u then
    match rest with
    | v :: _ => if isLowSurrogate v then (some (ofPair u v), 1) else (none, 0)
    | [] => (none, 0)
  else if isLowSurrogate u then (none, 0)
  else (some (Char.ofNat u.toNat), 0)

/-- The parts of `units` once the first `taken` of them belong to an earlier part. -/
def partsFrom : Nat → List UInt16 → List (Option Char)
  | _, [] => []
  | taken + 1, _ :: rest => partsFrom taken rest
  | 0, u :: rest => (first u rest).1 :: partsFrom (first u rest).2 rest

/-- The code points of `units` in order, with `none` for each unpaired surrogate. -/
def parts (units : List UInt16) : List (Option Char) := partsFrom 0 units

theorem partsFrom_eq_parts_drop (taken : Nat) (units : List UInt16) :
    partsFrom taken units = parts (units.drop taken) := by
  induction units generalizing taken with
  | nil => cases taken <;> rfl
  | cons u rest ih =>
    cases taken with
    | zero => rfl
    | succ n => exact ih n

@[simp] theorem parts_nil : parts [] = [] := rfl

theorem parts_cons (u : UInt16) (rest : List UInt16) :
    parts (u :: rest) = (first u rest).1 :: parts (rest.drop (first u rest).2) := by
  rw [← partsFrom_eq_parts_drop]; rfl

/-- The text of `units`, with each unpaired surrogate replaced by U+FFFD. -/
def decodeLossy (units : List UInt16) : String :=
  String.ofList ((parts units).map (·.getD '\uFFFD'))

@[simp] theorem encodeChars_nil : encodeChars [] = [] := rfl

@[simp] theorem encodeChars_cons (c : Char) (cs : List Char) :
    encodeChars (c :: cs) = encodeChar c ++ encodeChars cs := rfl

end ManagedBridge.Text.Utf16
