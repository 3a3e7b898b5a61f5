import ManagedBridge.Proofs.Utf8
import ManagedBridge.Text.Charset

/-!
# Charsets there and back

What is left of bytes that are decoded in a charset and encoded in it again. ISO-8859-1 has a code
point for each byte, and brings back all of them. UTF-8 brings back what is well-formed.
-/

namespace ManagedBridge.Text

namespace Utf16

theorem isHighSurrogate_iff {u : UInt16} :
    isHighSurrogate u = true ↔ 0xd800 ≤ u.toNat ∧ u.toNat ≤ 0xdbff := by
  simp [isHighSurrogate, UInt16.le_iff_toNat_le]

theorem isLowSurrogate_iff {u : UInt16} :
    isLowSurrogate u = true ↔ 0xdc00 ≤ u.toNat ∧ u.toNat ≤ 0xdfff := by
  simp [isLowSurrogate, UInt16.le_iff_toNat_le]

/-- A unit that is no surrogate stands for itself. -/
theorem first_of_plain {u : UInt16} (h : u.toNat < 0xd800 ∨ 0xdfff < u.toNat)
    (rest : List UInt16) : first u rest = (some (Char.ofNat u.toNat), 0) := by
  have high : isHighSurrogate u = false := by
    rw [Bool.eq_false_iff, Ne, isHighSurrogate_iff]
    omega
  have low : isLowSurrogate u = false := by
    rw [Bool.eq_false_iff, Ne, isLowSurrogate_iff]
    omega
  simp [first, high, low]

theorem first_of_pair {u v : UInt16} (high : 0xd800 ≤ u.toNat ∧ u.toNat ≤ 0xdbff)
    (low : 0xdc00 ≤ v.toNat ∧ v.toNat ≤ 0xdfff) (rest : List UInt16) :
    first u (v :: rest) = (some (ofPair u v), 1) := by
  simp [first, isHighSurrogate_iff.mpr high, isLowSurrogate_iff.mpr low]

theorem parts_encodeChar_append (c : Char) (rest : List UInt16) :
    parts (encodeChar c ++ rest) = some c :: parts rest := by
  have valid : c.toNat.isValidChar := c.valid
  unfold Nat.isValidChar at valid
  unfold encodeChar
  split
  · next hsmall =>
    have hunit : c.toNat.toUInt16.toNat = c.toNat := by
      simp [Nat.toUInt16, Nat.mod_eq_of_lt hsmall]
    rw [List.singleton_append, parts_cons, first_of_plain (by omega), hunit]
    simp
  · next hlarge =>
    have hhigh : (0xd800 + (c.toNat - 0x10000) / 0x400).toUInt16.toNat =
        0xd800 + (c.toNat - 0x10000) / 0x400 := by
      simp [Nat.toUInt16]
      omega
    have hlow : (0xdc00 + (c.toNat - 0x10000) % 0x400).toUInt16.toNat =
        0xdc00 + (c.toNat - 0x10000) % 0x400 := by
      simp [Nat.toUInt16]
      omega
    rw [List.cons_append, List.singleton_append, parts_cons,
      first_of_pair (by omega) (by omega), ofPair, hhigh, hlow]
    have hchar : 0x10000 + (0xd800 + (c.toNat - 0x10000) / 0x400 - 0xd800) * 0x400 +
        (0xdc00 + (c.toNat - 0x10000) % 0x400 - 0xdc00) = c.toNat := by omega
    rw [hchar]
    simp

@[simp] theorem parts_encodeChars (cs : List Char) : parts (encodeChars cs) = cs.map some := by
  induction cs with
  | nil => rfl
  | cons c cs ih => rw [encodeChars_cons, parts_encodeChar_append, ih, List.map_cons]

end Utf16

namespace Charset

/-- A text that is written in UTF-16 and read from it is written in UTF-8. -/
theorem encode_utf8 (text : String) : utf8.encode (Utf16.encode text) = Utf8.encode text := by
  simp only [encode, Utf16.encode, Utf16.parts_encodeChars, List.flatMap_map, Utf8.encode,
    Utf8.encodeChars]
  rfl

theorem decode_utf8 (bytes : List UInt8) :
    utf8.decode bytes = Utf16.encode (Utf8.decodeLossy bytes) := by
  rw [decode, Utf16.encode, Utf8.decodeLossy_toList]

/-- Of bytes that are read as UTF-8 and written as UTF-8 again, what is invalid is replaced. -/
theorem encode_decode_utf8 (bytes : List UInt8) :
    utf8.encode (utf8.decode bytes) = Utf8.encode (Utf8.decodeLossy bytes) := by
  rw [decode_utf8, encode_utf8]

theorem encode_decode_utf8_eq_iff {bytes : List UInt8} :
    utf8.encode (utf8.decode bytes) = bytes ↔ Utf8.WellFormed bytes := by
  rw [encode_decode_utf8, Utf8.encode_decodeLossy_eq_iff]

/-- Every byte is a code point of ISO-8859-1. -/
theorem encode_decode_latin1 (bytes : List UInt8) :
    latin1.encode (latin1.decode bytes) = bytes := by
  simp only [encode, decode]
  induction bytes with
  | nil => rfl
  | cons b rest ih =>
    have hunit : b.toUInt16.toNat = b.toNat := UInt8.toNat_toUInt16 b
    have hbyte := b.toNat_lt
    have hchar : (Char.ofNat b.toNat).toNat = b.toNat :=
      Utf8.val_ofNat (by unfold Nat.isValidChar; omega)
    rw [List.map_cons, Utf16.parts_cons, Utf16.first_of_plain (by omega), hunit]
    simp only [List.drop_zero, List.flatMap_cons, ih, encodePart, hchar]
    rw [if_pos (by omega)]
    simp

end Charset

end ManagedBridge.Text
