/-!
# UTF-8

Bytes are cut into code points and maximal invalid parts: a byte that starts no sequence stands
alone, and a sequence that breaks off is one part up to the byte that breaks it. Lossy decoding
replaces each invalid part by U+FFFD; strict decoding refuses it.
-/

namespace ManagedBridge.Text.Utf8

/-- Whether a byte continues a sequence. -/
def isContinuation (b : UInt8) : Bool := 0x80 ≤ b && b ≤ 0xbf

/-- The payload of a continuation byte. -/
def low6 (b : UInt8) : Nat := b.toNat % 0x40

def char2 (b₀ b₁ : UInt8) : Char := Char.ofNat (b₀.toNat % 0x20 * 0x40 + low6 b₁)

def char3 (b₀ b₁ b₂ : UInt8) : Char :=
  Char.ofNat ((b₀.toNat % 0x10 * 0x40 + low6 b₁) * 0x40 + low6 b₂)

def char4 (b₀ b₁ b₂ b₃ : UInt8) : Char :=
  Char.ofNat (((b₀.toNat % 0x8 * 0x40 + low6 b₁) * 0x40 + low6 b₂) * 0x40 + low6 b₃)

/-- Whether `b₁` may follow the lead `b₀` of a three-byte sequence: the second byte of `e0` is not
overlong, and that of `ed` keeps clear of the surrogates. -/
def second3 (b₀ b₁ : UInt8) : Bool :=
  if b₀ == 0xe0 then 0xa0 ≤ b₁ && b₁ ≤ 0xbf
  else if b₀ == 0xed then 0x80 ≤ b₁ && b₁ ≤ 0x9f
  else isContinuation b₁

/-- Whether `b₁` may follow the lead `b₀` of a four-byte sequence: the second byte of `f0` is not
overlong, and that of `f4` keeps below U+110000. -/
def second4 (b₀ b₁ : UInt8) : Bool :=
  if b₀ == 0xf0 then 0x90 ≤ b₁ && b₁ ≤ 0xbf
  else if b₀ == 0xf4 then 0x80 ≤ b₁ && b₁ ≤ 0x8f
  else isContinuation b₁

/-- What stands at the front of `b₀ :: rest`: a code point, or `none` for a maximal invalid part,
with the number of bytes that it takes from `rest`. -/
def first (b₀ : UInt8) (rest : List UInt8) : Option Char × Nat :=
  if b₀ < 0x80 then (some (Char.ofNat b₀.toNat), 0)
  else if 0xc2 ≤ b₀ && b₀ ≤ 0xdf then
    match rest with
    | b₁ :: _ => if isContinuation b₁ then (some (char2 b₀ b₁), 1) else (none, 0)
    | [] => (none, 0)
  else if 0xe0 ≤ b₀ && b₀ ≤ 0xef then
    match rest with
    | b₁ :: b₂ :: _ =>
      if !second3 b₀ b₁ then (none, 0)
      else if !isContinuation b₂ then (none, 1)
      else (some (char3 b₀ b₁ b₂), 2)
    | [b₁] => (none, if second3 b₀ b₁ then 1 else 0)
    | [] => (none, 0)
  else if 0xf0 ≤ b₀ && b₀ ≤ 0xf4 then
    match rest with
    | b₁ :: b₂ :: b₃ :: _ =>
      if !second4 b₀ b₁ then (none, 0)
      else if !isContinuation b₂ then (none, 1)
      else if !isContinuation b₃ then (none, 2)
      else (some (char4 b₀ b₁ b₂ b₃), 3)
    | [b₁, b₂] => (none, if !second4 b₀ b₁ then 0 else if !isContinuation b₂ then 1 else 2)
    | [b₁] => (none, if second4 b₀ b₁ then 1 else 0)
    | [] => (none, 0)
  else (none, 0)

/-- The parts of `bytes` once the first `taken` of them belong to an earlier part. -/
def partsFrom : Nat → List UInt8 → List (Option Char)
  | _, [] => []
  | taken + 1, _ :: rest => partsFrom taken rest
  | 0, b₀ :: rest => (first b₀ rest).1 :: partsFrom (first b₀ rest).2 rest

/-- The code points of `bytes` in order, with `none` for each maximal invalid part. -/
def parts (bytes : List UInt8) : List (Option Char) := partsFrom 0 bytes

theorem partsFrom_eq_parts_drop (taken : Nat) (bytes : List UInt8) :
    partsFrom taken bytes = parts (bytes.drop taken) := by
  induction bytes generalizing taken with
  | nil => cases taken <;> rfl
  | cons b rest ih =>
    cases taken with
    | zero => rfl
    | succ n => exact ih n

@[simp] theorem parts_nil : parts [] = [] := rfl

theorem parts_cons (b₀ : UInt8) (rest : List UInt8) :
    parts (b₀ :: rest) = (first b₀ rest).1 :: parts (rest.drop (first b₀ rest).2) := by
  rw [← partsFrom_eq_parts_drop]; rfl

/-- U+FFFD, which stands for what could not be decoded. -/
def replacement : Char := '\uFFFD'

def decodeLossyChars (bytes : List UInt8) : List Char :=
  (parts bytes).map (·.getD replacement)

/-- The text of `bytes`, with each maximal invalid part replaced by U+FFFD. -/
def decodeLossy (bytes : List UInt8) : String := String.ofList (decodeLossyChars bytes)

/-- The text of `bytes` if they are well-formed. -/
def decode? (bytes : List UInt8) : Option String :=
  ((parts bytes).mapM id).map String.ofList

def encodeChars (cs : List Char) : List UInt8 := cs.flatMap String.utf8EncodeChar

/-- The UTF-8 bytes of a text. -/
def encode (s : String) : List UInt8 := encodeChars s.toList

@[simp] theorem encodeChars_nil : encodeChars [] = [] := rfl

@[simp] theorem encodeChars_cons (c : Char) (cs : List Char) :
    encodeChars (c :: cs) = String.utf8EncodeChar c ++ encodeChars cs := rfl

@[simp] theorem decodeLossy_toList (bytes : List UInt8) :
    (decodeLossy bytes).toList = decodeLossyChars bytes := by
  simp [decodeLossy]

end ManagedBridge.Text.Utf8
