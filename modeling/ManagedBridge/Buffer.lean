import ManagedBridge.Text.Utf8
import ManagedBridge.Text.Quoted
import ManagedBridge.ZeroFilled

/-!
# Byte buffers

Bytes copied out of a managed string, kept with a zero byte behind them so that a C reader stops
inside the block. The content may hold zero bytes of its own.
-/

namespace ManagedBridge

open ManagedBridge.Text

/-- The memory of a process: whether it grants a block of so many bytes. -/
class Memory where
  grants : Nat → Bool

/-- Blocks of up to 30 GiB are granted, unless said otherwise. Every array that a virtual machine
can have fits into one. -/
instance : Memory := ⟨fun size => size ≤ 30 * Nat.pow 2 30⟩

/-- A block of memory whose last byte is zero and does not count as content. -/
structure ByteBuffer where
  block : List UInt8
  terminated : block.getLast? = some 0

namespace ByteBuffer

/-- The most bytes that one request for memory can name. -/
def maxRequest : Nat := Nat.pow 2 63 - 1

/-- What a request for more bytes than that ends in. -/
def requestExceeded : String := "capacity overflow"

/-- Whether memory can be found for `len` bytes of content and the terminator. -/
def fits [Memory] (len : Nat) : Bool := len + 1 ≤ maxRequest && Memory.grants (len + 1)

def ofBytes (content : List UInt8) : ByteBuffer := ⟨content ++ [0], by simp⟩

/-- A buffer with `len` zero bytes of content, if memory can be found for it. -/
def zeroed? [Memory] (len : Nat) : Option ByteBuffer :=
  if fits len then some (ofBytes (List.replicate len 0)) else none

/-- The content, without the terminator. -/
def content (b : ByteBuffer) : List UInt8 := b.block.dropLast

def len (b : ByteBuffer) : Nat := b.block.length - 1

def isEmpty (b : ByteBuffer) : Bool := b.len == 0

/-- The buffer with `bytes` written over its content from position `start` on; what would reach
beyond the content is left out. -/
def write (b : ByteBuffer) (start : Nat) (bytes : List UInt8) : ByteBuffer :=
  ofBytes (overwrite b.content start bytes)

/-- A buffer of `len` bytes into which a runtime has written `bytes`. -/
def filled (len : Nat) (bytes : List UInt8) : ByteBuffer :=
  (ofBytes (List.replicate len 0)).write 0 bytes

/-- The content as text, if it is well-formed UTF-8. -/
def text? (b : ByteBuffer) : Option String := Utf8.decode? b.content

/-- The content as text, with U+FFFD for what is not well-formed. -/
def textLossy (b : ByteBuffer) : String := Utf8.decodeLossy b.content

/-- The bytes that a C reader sees: those in front of the first zero byte of the block. -/
def cView (b : ByteBuffer) : List UInt8 := b.block.takeWhile (· != 0)

/-- The content as a C string, or the position of the zero byte that forbids it. -/
def toCString (b : ByteBuffer) : Except Nat (List UInt8) :=
  match b.content.idxOf? 0 with
  | some position => .error position
  | none => .ok (b.content ++ [0])

/-- What forbids a C string with a zero byte at `position`. -/
def interiorZeroMessage (position : Nat) : String :=
  "nul byte found in provided data at position: " ++ toString position

/-- The buffer on one line, for diagnostics. -/
def diagnostic (b : ByteBuffer) : String :=
  "ByteBuffer \x7b len: " ++ toString b.len ++ ", content: " ++ quoted b.textLossy ++ " \x7d"

/-- The buffer with one field a line, for diagnostics. -/
def diagnosticLines (b : ByteBuffer) : String :=
  "ByteBuffer \x7b\n    len: " ++ toString b.len ++ ",\n    content: " ++ quoted b.textLossy ++
    ",\n\x7d"

theorem fits_iff [Memory] {len : Nat} :
    fits len = true ↔ len + 1 ≤ maxRequest ∧ Memory.grants (len + 1) = true := by
  simp only [fits, Bool.and_eq_true, decide_eq_true_eq]

/-- Unless said otherwise there is memory for what is shorter than 30 GiB. -/
theorem fits_of_lt {len : Nat} (h : len < 30 * Nat.pow 2 30) : fits len = true :=
  fits_iff.mpr ⟨Nat.le_trans h (by decide), decide_eq_true h⟩

theorem ext_block {a b : ByteBuffer} (h : a.block = b.block) : a = b := by
  cases a; cases b; simp_all

theorem content_append_zero (b : ByteBuffer) : b.content ++ [0] = b.block := by
  have h := b.terminated
  have hne : b.block ≠ [] := by rintro he; rw [he] at h; simp at h
  have : b.block.getLast hne = 0 := by
    rw [List.getLast?_eq_some_getLast hne] at h; exact Option.some.inj h
  rw [content, ← this]; exact List.dropLast_concat_getLast hne

@[simp] theorem content_ofBytes (bytes : List UInt8) : (ofBytes bytes).content = bytes := by
  simp [content, ofBytes]

@[simp] theorem ofBytes_content (b : ByteBuffer) : ofBytes b.content = b :=
  ext_block b.content_append_zero

theorem len_eq_length_content (b : ByteBuffer) : b.len = b.content.length := by
  simp [len, content]

theorem content_injective {a b : ByteBuffer} (h : a.content = b.content) : a = b := by
  rw [← ofBytes_content a, ← ofBytes_content b, h]

/-- A region read in full becomes the content. -/
theorem content_filled (bytes : List UInt8) : (filled bytes.length bytes).content = bytes := by
  simp [filled, write, overwrite]

instance : DecidableEq ByteBuffer := fun a b =>
  decidable_of_iff (a.block == b.block) ⟨fun h => ext_block (eq_of_beq h), fun h => by simp [h]⟩

end ByteBuffer

end ManagedBridge
