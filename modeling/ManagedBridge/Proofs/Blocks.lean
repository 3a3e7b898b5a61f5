import ManagedBridge.Proofs.CStrings
import ManagedBridge.Proofs.Discipline

/-!
# Buffers as blocks of memory

A buffer has a block in which a zero byte follows the content, and the content may have zero bytes
of its own, at its end as well. However a buffer came about and whatever has been written to it,
the block is the content and one zero, and everything that is read off the block is what the
content says.
-/

namespace ManagedBridge

open Text

variable {σ κ ς β : Type}

/-- A conversion out of a managed string, through any context, makes its buffer of what the calls
answer. -/
theorem Marshal.toNative_traces [Memory] (ctx : CallContext σ κ ς β) (caps : κ) (string : ς) :
    Routine.Traces World.untraced (·.backend.2) (toNative ctx.traced caps (some string))
      (toNative ctx caps (some string))
      fun calls ended => ∀ b, ended = .ok (.ok (some b)) → MadeBuffer caps string calls b := by
  rw [toNative_some, toNative_some]
  refine (throughArray_traces (stringBytes_acquires caps string) nativeFault?_releaseBytes
    (Call.traces_recorded _ _) fun array => ?_).mono fun calls ended h => h.2.2
  refine (copyOut_traces ctx array).mono fun calls ended h => ⟨h.1, h.2.1, fun b hended => ?_⟩
  obtain ⟨len, bytes, rfl, rfl⟩ := h.2.2 b hended
  exact ⟨array, len, bytes, rfl, rfl⟩

namespace ByteBuffer

/-- The word after `n`, unless it has wrapped around. -/
def next? (n : UInt64) : Option UInt64 := if n + 1 < n then none else some (n + 1)

theorem next?_eq_some_iff {n total : UInt64} :
    next? n = some total ↔ total.toNat = n.toNat + 1 := by
  have hn := n.toNat_lt
  have htotal := total.toNat_lt
  have hsucc : (n + 1).toNat = (n.toNat + 1) % 2 ^ 64 := UInt64.toNat_add n 1
  by_cases hwraps : n + 1 < n
  · rw [UInt64.lt_iff_toNat_lt] at hwraps
    simp only [next?, UInt64.lt_iff_toNat_lt, hwraps, if_true, reduceCtorEq, false_iff]
    omega
  · rw [UInt64.lt_iff_toNat_lt] at hwraps
    simp only [next?, UInt64.lt_iff_toNat_lt, hwraps, if_false, Option.some.injEq,
      ← UInt64.toNat_inj]
    omega

variable [Memory]

/-- A buffer with `len` zero bytes of content. The size of its block is a word, which must not have
wrapped around. -/
def reserve (len : UInt64) : Option ByteBuffer :=
  match hnext : next? len with
  | none => none
  | some total =>
    if total.toNat ≤ maxRequest ∧ Memory.grants total.toNat then
      some ⟨List.replicate total.toNat 0, by
        rw [next?_eq_some_iff.mp hnext, List.replicate_succ', List.getLast?_concat]⟩
    else none

/-- What is reserved is one byte longer than the content, however long that is. -/
theorem reserve_eq_some_iff {len : UInt64} {b : ByteBuffer} :
    reserve len = some b ↔
      len.toNat + 1 ≤ maxRequest ∧ Memory.grants (len.toNat + 1) = true ∧
        b = .ofBytes (List.replicate len.toNat 0) := by
  unfold reserve
  split
  case h_1 hnext =>
    have hword : maxRequest < 2 ^ 64 := by decide
    have hfull : ¬ len.toNat + 1 ≤ maxRequest := by
      intro hrequest
      have htotal : next? len = some (.ofNat (len.toNat + 1)) := by
        rw [next?_eq_some_iff, UInt64.toNat_ofNat']
        omega
      rw [htotal] at hnext
      cases hnext
    simp [hfull]
  case h_2 total hnext =>
    have htotal := next?_eq_some_iff.mp hnext
    simp only [htotal]
    split
    case isTrue hgranted =>
      have hblock : ∀ h, (⟨List.replicate (len.toNat + 1) 0, h⟩ : ByteBuffer) =
          .ofBytes (List.replicate len.toNat 0) := fun _ => ext_block (List.replicate_succ' ..)
      simp [hgranted, hblock, eq_comm]
    case isFalse hrefused =>
      simp only [reduceCtorEq, false_iff]
      exact fun h => hrefused ⟨h.1, h.2.1⟩

/-- There is a buffer for a length if the size of its block can be requested and is granted, and
then the block is one byte longer than the content. -/
structure Reserves (len : UInt64) : Prop where
  isSome_iff : (reserve len).isSome = true ↔
    len.toNat + 1 ≤ maxRequest ∧ Memory.grants (len.toNat + 1) = true
  exact : ∀ b, reserve len = some b →
    b.block.length = len.toNat + 1 ∧ b.content = List.replicate len.toNat 0

theorem reserves (len : UInt64) : Reserves len where
  isSome_iff := by simp [Option.isSome_iff_exists, reserve_eq_some_iff]
  exact b h := by
    rw [(reserve_eq_some_iff.mp h).2.2]
    simp [ofBytes, content]

/-- A length behind which there is no other is not taken for the first one. -/
example : @reserve ⟨fun _ => true⟩ 0xffffffffffffffff = none := rfl

/-- There is memory for zeros where there is a block of one byte more. -/
theorem zeroed?_eq_some_iff {len : Nat} {b : ByteBuffer} :
    zeroed? len = some b ↔
      len + 1 ≤ maxRequest ∧ Memory.grants (len + 1) = true ∧
        b = .ofBytes (List.replicate len 0) := by
  rw [zeroed?, ← and_assoc, ← fits_iff]
  split
  case isTrue hfits => simp [hfits, eq_comm]
  case isFalse hfits => simp [hfits]

/-- A length for which there is memory is a word, so that nothing is lost if it is taken for one. -/
theorem zeroed?_eq_reserve (len : Nat) :
    zeroed? len = if len < UInt64.size then reserve (.ofNat len) else none := by
  apply Option.ext
  intro b
  rw [zeroed?_eq_some_iff]
  by_cases hword : len < UInt64.size
  · have hlen : (UInt64.ofNat len).toNat = len := UInt64.toNat_ofNat_of_lt' hword
    rw [if_pos hword, reserve_eq_some_iff, hlen]
  · have hlarge : ¬ len + 1 ≤ maxRequest := fun h =>
      hword (Nat.lt_of_lt_of_le h (by decide))
    rw [if_neg hword]
    simp [hlarge]

omit [Memory]

/-- The part of the block in front of the terminator. -/
def slice (b : ByteBuffer) : List UInt8 := b.block.take b.len

theorem len_ofBytes (content : List UInt8) : (ofBytes content).len = content.length := by
  rw [len_eq_length_content, content_ofBytes]

theorem slice_eq_content (b : ByteBuffer) : b.slice = b.content := by
  rw [slice, len, content, List.dropLast_eq_take]

theorem len_write (b : ByteBuffer) (start : Nat) (bytes : List UInt8) :
    (b.write start bytes).len = b.len := by
  rw [len_eq_length_content, write, content_ofBytes, length_overwrite, ← len_eq_length_content]

/-- How a buffer came about, and what its content is by that. -/
inductive Made : ByteBuffer → List UInt8 → Prop
  | ofBytes (content : List UInt8) : Made (.ofBytes content) content
  | zeroed [Memory] {len : UInt64} {b : ByteBuffer} (reserved : reserve len = some b) :
    Made b (List.replicate len.toNat 0)
  | write {b : ByteBuffer} {content : List UInt8} (made : Made b content) (start : Nat)
    (bytes : List UInt8) : Made (b.write start bytes) (overwrite content start bytes)
  /-- A conversion has gone through, in which the runtime reported the length and then wrote what it
  liked into a region of that many zeros. -/
  | converted [Memory] {σ κ ς β : Type} {ctx : CallContext σ κ ς β} {caps : κ} {string : ς}
    {array : β} {w : World σ} {v : World (σ × List (ContextCall κ ς β))} {b : ByteBuffer}
    {len : Nat} {bytes : List UInt8}
    (run : (Marshal.toNative ctx.traced caps (some string)).run (w.withCalls []) =
      (.ok (.ok (some b)), v))
    (reported : .byteArrayLen array (.ok (.ok len)) ∈ v.backend.2)
    (written : .readByteArray array len (.ok (.ok bytes)) ∈ v.backend.2) :
    Made b (overwrite (List.replicate len 0) 0 bytes)
  | clone {b copy : ByteBuffer} {content : List UInt8} (made : Made b content)
    (same : copy.block = b.block) : Made copy content

/-- What a buffer with this content is like, to all that read it. -/
structure Represents (b : ByteBuffer) (content : List UInt8) : Prop where
  block : b.block = content ++ [0]
  len : b.len = content.length
  /-- There is a byte to take off the length of the block. -/
  total : b.block.length = b.len + 1
  slice : b.slice = content
  dropped : b.content = content
  isEmpty : b.isEmpty = true ↔ content = []
  /-- A reader of C strings stops in the block, whatever is behind it. -/
  read : ∀ beyond, Jvm.scan (b.block ++ beyond) = some (content.takeWhile (· ≠ 0))
  cView : b.cView = content.takeWhile (· ≠ 0)
  cString : ∀ string, b.toCString = .ok string ↔ 0 ∉ content ∧ string = content ++ [0]
  /-- What forbids a C string is the first zero. -/
  noCString : ∀ position, b.toCString = .error position ↔
    content[position]? = some 0 ∧ ∀ i < position, content[i]? ≠ some 0
  text : ∀ s, b.text? = some s ↔ Utf8.encode s = content
  wellFormed : b.text?.isSome = true ↔ Utf8.WellFormed content
  lossless : b.text?.isSome = true ↔ Utf8.encode b.textLossy = content

theorem idxOf?_zero_eq_some_iff {content : List UInt8} {position : Nat} :
    content.idxOf? 0 = some position ↔
      content[position]? = some 0 ∧ ∀ i < position, content[i]? ≠ some 0 := by
  rw [List.idxOf?_eq_some_iff]
  constructor
  · rintro ⟨hlt, hzero, hbefore⟩
    refine ⟨by rw [List.getElem?_eq_getElem hlt, hzero], fun i hi => ?_⟩
    rw [List.getElem?_eq_getElem (Nat.lt_trans hi hlt)]
    exact fun heq => hbefore i hi (Option.some.inj heq)
  · rintro ⟨hzero, hbefore⟩
    obtain ⟨hlt, hget⟩ := List.getElem?_eq_some_iff.mp hzero
    refine ⟨hlt, hget, fun i hi heq => hbefore i hi ?_⟩
    rw [List.getElem?_eq_getElem (Nat.lt_trans hi hlt), heq]

theorem isSome_text?_iff {b : ByteBuffer} :
    b.text?.isSome = true ↔ Utf8.WellFormed b.content := by
  rw [← not_iff_not, ← Utf8.decode?_eq_none_iff]
  simp [text?]

theorem toCString_eq_ok_iff {b : ByteBuffer} {string : List UInt8} :
    b.toCString = .ok string ↔ 0 ∉ b.content ∧ string = b.content ++ [0] := by
  unfold toCString
  cases hidx : b.content.idxOf? 0 with
  | none => simp [List.idxOf?_eq_none_iff.mp hidx, eq_comm]
  | some position =>
    have hmem : 0 ∈ b.content := by
      by_contra hnot
      rw [List.idxOf?_eq_none_iff.mpr hnot] at hidx
      cases hidx
    simp [hmem]

theorem toCString_eq_error_iff {b : ByteBuffer} {position : Nat} :
    b.toCString = .error position ↔
      b.content[position]? = some 0 ∧ ∀ i < position, b.content[i]? ≠ some 0 := by
  rw [← idxOf?_zero_eq_some_iff]
  unfold toCString
  cases b.content.idxOf? 0 <;> simp

theorem takeWhile_append_zero (content : List UInt8) :
    (content ++ [0]).takeWhile (· != 0) = content.takeWhile (· ≠ 0) := by
  induction content with
  | nil => rfl
  | cons b content ih =>
    by_cases hzero : b = 0
    · simp [hzero]
    · simpa [hzero] using ih

theorem represents_ofBytes (content : List UInt8) : Represents (ofBytes content) content where
  block := rfl
  len := len_ofBytes content
  total := by rw [len_ofBytes, ofBytes, List.length_append]; rfl
  slice := by rw [slice_eq_content, content_ofBytes]
  dropped := content_ofBytes content
  isEmpty := by simp [ByteBuffer.isEmpty, len_ofBytes]
  read beyond := by
    rw [ofBytes, List.append_assoc, List.singleton_append, Jvm.scan_append_zero]
    rfl
  cView := takeWhile_append_zero content
  cString string := by rw [toCString_eq_ok_iff, content_ofBytes]
  noCString position := by rw [toCString_eq_error_iff, content_ofBytes]
  text s := by rw [text?, content_ofBytes, Utf8.decode?_eq_some_iff]
  wellFormed := by rw [isSome_text?_iff, content_ofBytes]
  lossless := by rw [isSome_text?_iff, textLossy, content_ofBytes, Utf8.encode_decodeLossy_eq_iff]

/-- What a conversion makes is filled from the calls that it made. -/
theorem filled_of_converted [Memory] {ctx : CallContext σ κ ς β} {caps : κ} {string : ς} {array : β}
    {w : World σ} {v : World (σ × List (ContextCall κ ς β))} {b : ByteBuffer} {len : Nat}
    {bytes : List UInt8}
    (run : (Marshal.toNative ctx.traced caps (some string)).run (w.withCalls []) =
      (.ok (.ok (some b)), v))
    (reported : .byteArrayLen array (.ok (.ok len)) ∈ v.backend.2)
    (written : .readByteArray array len (.ok (.ok bytes)) ∈ v.backend.2) :
    b = .filled len bytes := by
  rcases hplain : (Marshal.toNative ctx caps (some string)).run w with ⟨ended, u⟩
  obtain ⟨calls, htraced, hmade⟩ :=
    World.run_traced (Marshal.toNative_traces ctx caps string) hplain
  rw [run, Prod.mk.injEq] at htraced
  obtain ⟨array', len', bytes', hfilled, hsteps⟩ := hmade b htraced.1.symm
  rw [htraced.2, hsteps] at reported written
  have hreported : array = array' ∧ len = len' := by
    simpa [World.withCalls] using reported
  have hwritten : array = array' ∧ len = len' ∧ bytes = bytes' := by
    simpa [World.withCalls] using written
  rw [hfilled, hreported.2, hwritten.2.2]

/-- Whatever a buffer has gone through, its block is the content and one zero. -/
theorem Made.eq_ofBytes {b : ByteBuffer} {content : List UInt8} (h : Made b content) :
    b = .ofBytes content := by
  induction h with
  | ofBytes content => rfl
  | zeroed reserved => exact (reserve_eq_some_iff.mp reserved).2.2
  | write made start bytes ih => rw [ih, ByteBuffer.write, content_ofBytes]
  | converted run reported written =>
    rw [filled_of_converted run reported written, filled, ByteBuffer.write, content_ofBytes]
  | clone made same ih => exact (ext_block same).trans ih

theorem Made.represents {b : ByteBuffer} {content : List UInt8} (h : Made b content) :
    Represents b content := by
  rw [h.eq_ofBytes]
  exact represents_ofBytes content

theorem Made.eq_iff {b b' : ByteBuffer} {content content' : List UInt8} (h : Made b content)
    (h' : Made b' content') : b = b' ↔ content = content' := by
  constructor
  · intro heq
    rw [← h.represents.dropped, heq, h'.represents.dropped]
  · intro heq
    rw [h.eq_ofBytes, h'.eq_ofBytes, heq]

/-- The length that a call reports. -/
def reported? : ContextCall κ ς β → Option Nat
  | .byteArrayLen _ (.ok (.ok len)) => some len
  | _ => none

/-- A conversion that gives a buffer has been told a length once, and the buffer has it. -/
theorem exists_made_of_toNative [Memory] {ctx : CallContext σ κ ς β} {caps : κ} {string : ς}
    {w v : World σ} {b : ByteBuffer} (run : (Marshal.toNative ctx caps (some string)).run w =
      (.ok (.ok (some b)), v)) :
    ∃ calls bytes, (Marshal.toNative ctx.traced caps (some string)).run (w.withCalls []) =
        (.ok (.ok (some b)), v.withCalls calls) ∧
      calls.filterMap reported? = [b.len] ∧
      Made b (overwrite (List.replicate b.len 0) 0 bytes) := by
  obtain ⟨calls, htraced, hmade⟩ := World.run_traced (Marshal.toNative_traces ctx caps string) run
  obtain ⟨array, len, bytes, hfilled, hsteps⟩ := hmade b rfl
  have hreported : .byteArrayLen array (.ok (.ok len)) ∈ (v.withCalls calls).backend.2 := by
    simp [World.withCalls, hsteps]
  have hwritten : .readByteArray array len (.ok (.ok bytes)) ∈ (v.withCalls calls).backend.2 := by
    simp [World.withCalls, hsteps]
  have hconverted : Made b (overwrite (List.replicate len 0) 0 bytes) :=
    .converted htraced hreported hwritten
  have hlen : b.len = len := by
    rw [hconverted.represents.len, length_overwrite, List.length_replicate]
  subst hlen
  exact ⟨calls, bytes, htraced, by rw [hsteps]; rfl, hconverted⟩

/-- However a buffer came about, its block is its content and one zero, and is read as the content
says; buffers are equal if their contents are; and a conversion through any context gives a buffer
of the length that it was told. -/
theorem made_represents :
    (∀ b content, Made b content → Represents b content) ∧
    (∀ b b' content content', Made b content → Made b' content' →
      (b = b' ↔ content = content')) ∧
    ∀ [Memory] (σ κ ς β : Type) (ctx : CallContext σ κ ς β) (caps : κ) (string : ς) (w v : World σ)
      (b : ByteBuffer), (Marshal.toNative ctx caps (some string)).run w =
        (.ok (.ok (some b)), v) →
      ∃ calls bytes, (Marshal.toNative ctx.traced caps (some string)).run (w.withCalls []) =
          (.ok (.ok (some b)), v.withCalls calls) ∧
        calls.filterMap reported? = [b.len] ∧
        Made b (overwrite (List.replicate b.len 0) 0 bytes) :=
  ⟨fun _ _ => Made.represents, fun _ _ _ _ => Made.eq_iff,
    fun _ _ _ _ _ _ _ _ _ _ => exists_made_of_toNative⟩

theorem written_represents : Represents ((ofBytes [97, 0]).write 1 [98, 99]) [97, 98] :=
  made_represents.1 _ _ ((Made.ofBytes [97, 0]).write 1 [98, 99])

end ByteBuffer

end ManagedBridge
