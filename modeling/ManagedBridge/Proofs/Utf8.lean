import ManagedBridge.Text.Utf8

/-!
# Well-formed bytes and the repair of the others

The table of the byte sequences that encode one code point fixes three notions: bytes are
well-formed when they are such sequences one after another, an invalid part is maximal when it is
cut where no sequence can go on, and a repair keeps the sequences and replaces each maximal invalid
part. Decoding finds exactly this repair.
-/

namespace ManagedBridge.Text.Utf8

/-- The bytes from `low` to `high`. -/
def Within (low high b : UInt8) : Prop := low ≤ b ∧ b ≤ high

theorem within_iff {low high b : UInt8} :
    Within low high b ↔ low.toNat ≤ b.toNat ∧ b.toNat ≤ high.toNat := by
  simp [Within, UInt8.le_iff_toNat_le]

/-- The byte sequences of one code point: none is longer than it has to be, none is a surrogate and
none lies beyond U+10FFFF. -/
inductive Sequence : List UInt8 → Prop
  | one {a : UInt8} (lead : Within 0x00 0x7f a) : Sequence [a]
  | two {a b : UInt8} (lead : Within 0xc2 0xdf a) (hb : Within 0x80 0xbf b) : Sequence [a, b]
  | three {a b c : UInt8} (lead : Within 0xe0 0xef a) (hb : Within 0x80 0xbf b)
      (overlong : a = 0xe0 → Within 0xa0 0xbf b) (surrogate : a = 0xed → Within 0x80 0x9f b)
      (hc : Within 0x80 0xbf c) : Sequence [a, b, c]
  | four {a b c d : UInt8} (lead : Within 0xf0 0xf4 a) (hb : Within 0x80 0xbf b)
      (overlong : a = 0xf0 → Within 0x90 0xbf b) (beyond : a = 0xf4 → Within 0x80 0x8f b)
      (hc : Within 0x80 0xbf c) (hd : Within 0x80 0xbf d) : Sequence [a, b, c, d]

inductive WellFormed : List UInt8 → Prop
  | nil : WellFormed []
  | append {front rest : List UInt8} (h : Sequence front) (tail : WellFormed rest) :
      WellFormed (front ++ rest)

/-- `front` begins the sequence of some code point. -/
def Opens (front : List UInt8) : Prop := ∃ bytes, Sequence bytes ∧ front <+: bytes

/-- No sequence stands at the front of `part ++ rest`, and `part` is all of it that begins one, or
a single byte. -/
structure InvalidPart (part rest : List UInt8) : Prop where
  nonempty : part ≠ []
  unconvertible : ∀ bytes, Sequence bytes → ¬ bytes <+: part ++ rest
  opens : Opens part ∨ part.length = 1
  maximal : ∀ longer, longer <+: part ++ rest → Opens longer → longer.length ≤ part.length

/-- `fixed` is `bytes` with U+FFFD, encoded, in the place of each maximal invalid part. -/
inductive Repairs : List UInt8 → List UInt8 → Prop
  | nil : Repairs [] []
  | keep {front rest fixed : List UInt8} (h : Sequence front) (tail : Repairs rest fixed) :
      Repairs (front ++ rest) (front ++ fixed)
  | replace {part rest fixed : List UInt8} (h : InvalidPart part rest)
      (tail : Repairs rest fixed) : Repairs (part ++ rest) ([0xef, 0xbf, 0xbd] ++ fixed)

theorem val_ofNat {n : Nat} (h : n.isValidChar) : (Char.ofNat n).val.toNat = n := by
  unfold Char.ofNat
  rw [dif_pos h]
  rfl

theorem ofNat_eq_iff {n : Nat} {b : UInt8} : UInt8.ofNat n = b ↔ n % 256 = b.toNat := by
  simp [← UInt8.toNat_inj]

theorem utf8EncodeChar_ofNat {n : Nat} (h : n.isValidChar) :
    String.utf8EncodeChar (Char.ofNat n) =
      if n ≤ 0x7f then [UInt8.ofNat n]
      else if n ≤ 0x7ff then [UInt8.ofNat (n / 64 % 32 + 192), UInt8.ofNat (n % 64 + 128)]
      else if n ≤ 0xffff then
        [UInt8.ofNat (n / 4096 % 16 + 224), UInt8.ofNat (n / 64 % 64 + 128),
          UInt8.ofNat (n % 64 + 128)]
      else
        [UInt8.ofNat (n / 262144 % 8 + 240), UInt8.ofNat (n / 4096 % 64 + 128),
          UInt8.ofNat (n / 64 % 64 + 128), UInt8.ofNat (n % 64 + 128)] := by
  simp only [String.utf8EncodeChar, val_ofNat h]

theorem encode_char1 {a : UInt8} (lead : Within 0x00 0x7f a) :
    String.utf8EncodeChar (Char.ofNat a.toNat) = [a] := by
  simp only [within_iff, UInt8.reduceToNat] at lead
  rw [utf8EncodeChar_ofNat (by unfold Nat.isValidChar; omega), if_pos (by omega)]
  simp

theorem encode_char2 {a b : UInt8} (lead : Within 0xc2 0xdf a) (hb : Within 0x80 0xbf b) :
    String.utf8EncodeChar (char2 a b) = [a, b] := by
  simp only [within_iff, UInt8.reduceToNat] at lead hb
  unfold char2 low6
  rw [utf8EncodeChar_ofNat (by unfold Nat.isValidChar; omega), if_neg (by omega),
    if_pos (by omega)]
  simp only [List.cons.injEq, ofNat_eq_iff, and_true]
  omega

theorem encode_char3 {a b c : UInt8} (lead : Within 0xe0 0xef a) (hb : Within 0x80 0xbf b)
    (overlong : a = 0xe0 → Within 0xa0 0xbf b) (surrogate : a = 0xed → Within 0x80 0x9f b)
    (hc : Within 0x80 0xbf c) : String.utf8EncodeChar (char3 a b c) = [a, b, c] := by
  simp only [within_iff, UInt8.reduceToNat, ← UInt8.toNat_inj] at lead hb overlong surrogate hc
  unfold char3 low6
  rw [utf8EncodeChar_ofNat (by unfold Nat.isValidChar; omega), if_neg (by omega),
    if_neg (by omega), if_pos (by omega)]
  simp only [List.cons.injEq, ofNat_eq_iff, and_true]
  omega

theorem encode_char4 {a b c d : UInt8} (lead : Within 0xf0 0xf4 a) (hb : Within 0x80 0xbf b)
    (overlong : a = 0xf0 → Within 0x90 0xbf b) (beyond : a = 0xf4 → Within 0x80 0x8f b)
    (hc : Within 0x80 0xbf c) (hd : Within 0x80 0xbf d) :
    String.utf8EncodeChar (char4 a b c d) = [a, b, c, d] := by
  simp only [within_iff, UInt8.reduceToNat, ← UInt8.toNat_inj] at lead hb overlong beyond hc hd
  unfold char4 low6
  rw [utf8EncodeChar_ofNat (by unfold Nat.isValidChar; omega), if_neg (by omega),
    if_neg (by omega), if_neg (by omega)]
  simp only [List.cons.injEq, ofNat_eq_iff, and_true]
  omega

/-- Every code point is encoded as one of the sequences of the table. -/
theorem sequence_encode (c : Char) : Sequence (String.utf8EncodeChar c) := by
  have valid : c.toNat.isValidChar := c.valid
  rw [← Char.ofNat_toNat c, utf8EncodeChar_ofNat valid]
  generalize c.toNat = n at valid
  unfold Nat.isValidChar at valid
  split
  · apply Sequence.one
    simp only [within_iff, UInt8.toNat_ofNat', UInt8.reduceToNat]
    omega
  split
  · apply Sequence.two
    all_goals
      simp only [within_iff, UInt8.toNat_ofNat', UInt8.reduceToNat]
      omega
  split
  · apply Sequence.three
    all_goals
      simp only [within_iff, UInt8.toNat_ofNat', UInt8.reduceToNat, ← UInt8.toNat_inj]
      omega
  · apply Sequence.four
    all_goals
      simp only [within_iff, UInt8.toNat_ofNat', UInt8.reduceToNat, ← UInt8.toNat_inj]
      omega

theorem Sequence.ne_nil {bytes : List UInt8} (h : Sequence bytes) : bytes ≠ [] := by
  cases h <;> simp

theorem isContinuation_iff {b : UInt8} : isContinuation b = true ↔ Within 0x80 0xbf b := by
  simp [isContinuation, Within]

theorem second3_iff {a b : UInt8} :
    second3 a b = true ↔ Within 0x80 0xbf b ∧
      (a = 0xe0 → Within 0xa0 0xbf b) ∧ (a = 0xed → Within 0x80 0x9f b) := by
  simp only [second3, beq_iff_eq, within_iff]
  by_cases he : a = 0xe0
  · simp [he, UInt8.le_iff_toNat_le]; omega
  by_cases hs : a = 0xed
  · simp [hs, UInt8.le_iff_toNat_le]; omega
  · simp [he, hs, isContinuation_iff, within_iff]

theorem second4_iff {a b : UInt8} :
    second4 a b = true ↔ Within 0x80 0xbf b ∧
      (a = 0xf0 → Within 0x90 0xbf b) ∧ (a = 0xf4 → Within 0x80 0x8f b) := by
  simp only [second4, beq_iff_eq, within_iff]
  by_cases he : a = 0xf0
  · simp [he, UInt8.le_iff_toNat_le]; omega
  by_cases hs : a = 0xf4
  · simp [hs, UInt8.le_iff_toNat_le]; omega
  · simp [he, hs, isContinuation_iff, within_iff]

theorem Sequence.first {a : UInt8} {tail : List UInt8} (h : Sequence (a :: tail))
    (rest : List UInt8) :
    ∃ c, String.utf8EncodeChar c = a :: tail ∧
      Utf8.first a (tail ++ rest) = (some c, tail.length) := by
  cases h with
  | one lead =>
    refine ⟨Char.ofNat a.toNat, encode_char1 lead, ?_⟩
    have small : a < 0x80 := by grind [Within]
    simp [Utf8.first, small]
  | @two _ b lead hb =>
    refine ⟨char2 a b, encode_char2 lead hb, ?_⟩
    have tail : isContinuation b = true := isContinuation_iff.2 hb
    grind [Utf8.first, Within]
  | @three _ b c lead hb overlong surrogate hc =>
    refine ⟨char3 a b c, encode_char3 lead hb overlong surrogate hc, ?_⟩
    have second : second3 a b = true := second3_iff.2 ⟨hb, overlong, surrogate⟩
    have tail : isContinuation c = true := isContinuation_iff.2 hc
    grind [Utf8.first, Within]
  | @four _ b c d lead hb overlong beyond hc hd =>
    refine ⟨char4 a b c d, encode_char4 lead hb overlong beyond hc hd, ?_⟩
    have second : second4 a b = true := second4_iff.2 ⟨hb, overlong, beyond⟩
    have tail₂ : isContinuation c = true := isContinuation_iff.2 hc
    have tail₃ : isContinuation d = true := isContinuation_iff.2 hd
    grind [Utf8.first, Within]

theorem first_sound {a : UInt8} {rest : List UInt8} {c : Char} {n : Nat} :
    first a rest = (some c, n) → n ≤ rest.length ∧ String.utf8EncodeChar c = a :: rest.take n := by
  fun_cases first a rest with
  | case1 lead =>
    rintro ⟨⟩
    have lead : Within 0x00 0x7f a := by grind [Within]
    simpa using encode_char1 lead
  | case2 _ lead b _ hb =>
    rintro ⟨⟩
    have lead : Within 0xc2 0xdf a := by simpa [Within] using lead
    simpa using encode_char2 lead (isContinuation_iff.1 hb)
  | case7 _ _ lead b c _ hb hc =>
    rintro ⟨⟩
    have lead : Within 0xe0 0xef a := by simpa [Within] using lead
    obtain ⟨hb, overlong, surrogate⟩ := second3_iff.1 (by simpa using hb)
    have hc : Within 0x80 0xbf c := isContinuation_iff.1 (by simpa using hc)
    simpa using encode_char3 lead hb overlong surrogate hc
  | case13 _ _ _ lead b c d _ hb hc hd =>
    rintro ⟨⟩
    have lead : Within 0xf0 0xf4 a := by simpa [Within] using lead
    obtain ⟨hb, overlong, beyond⟩ := second4_iff.1 (by simpa using hb)
    have hc : Within 0x80 0xbf c := isContinuation_iff.1 (by simpa using hc)
    have hd : Within 0x80 0xbf d := isContinuation_iff.1 (by simpa using hd)
    simpa using encode_char4 lead hb overlong beyond hc hd
  | _ => simp

theorem Sequence.encode {bytes : List UInt8} (h : Sequence bytes) :
    ∃ c, String.utf8EncodeChar c = bytes := by
  obtain ⟨a, tail, rfl⟩ := List.exists_cons_of_ne_nil h.ne_nil
  obtain ⟨c, hc, -⟩ := h.first []
  exact ⟨c, hc⟩

theorem opens_pair_iff {a b : UInt8} :
    Opens [a, b] ↔ (Within 0xc2 0xdf a ∧ isContinuation b) ∨ (Within 0xe0 0xef a ∧ second3 a b) ∨
      (Within 0xf0 0xf4 a ∧ second4 a b) := by
  constructor
  · rintro ⟨bytes, hs, hp⟩
    cases hs with
    | one => simp at hp
    | two lead hb =>
      obtain ⟨rfl, rfl⟩ : a = _ ∧ b = _ := by simpa using hp
      exact .inl ⟨lead, isContinuation_iff.2 hb⟩
    | three lead hb overlong surrogate =>
      obtain ⟨rfl, rfl⟩ : a = _ ∧ b = _ := by simpa using hp
      exact .inr (.inl ⟨lead, second3_iff.2 ⟨hb, overlong, surrogate⟩⟩)
    | four lead hb overlong beyond =>
      obtain ⟨rfl, rfl⟩ : a = _ ∧ b = _ := by simpa using hp
      exact .inr (.inr ⟨lead, second4_iff.2 ⟨hb, overlong, beyond⟩⟩)
  · have tail : Within 0x80 0xbf 0x80 := by constructor <;> decide
    rintro (⟨lead, hb⟩ | ⟨lead, second⟩ | ⟨lead, second⟩)
    · exact ⟨_, .two lead (isContinuation_iff.1 hb), List.prefix_refl _⟩
    · obtain ⟨hb, overlong, surrogate⟩ := second3_iff.1 second
      exact ⟨_, .three lead hb overlong surrogate tail, by simp⟩
    · obtain ⟨hb, overlong, beyond⟩ := second4_iff.1 second
      exact ⟨_, .four lead hb overlong beyond tail tail, by simp⟩

theorem opens_triple_iff {a b c : UInt8} :
    Opens [a, b, c] ↔ ((Within 0xe0 0xef a ∧ second3 a b) ∨ (Within 0xf0 0xf4 a ∧ second4 a b)) ∧
      isContinuation c := by
  constructor
  · rintro ⟨bytes, hs, hp⟩
    cases hs with
    | one => simp at hp
    | two => simp at hp
    | three lead hb overlong surrogate hc =>
      obtain ⟨rfl, rfl, rfl⟩ : a = _ ∧ b = _ ∧ c = _ := by simpa using hp
      exact ⟨.inl ⟨lead, second3_iff.2 ⟨hb, overlong, surrogate⟩⟩, isContinuation_iff.2 hc⟩
    | four lead hb overlong beyond hc =>
      obtain ⟨rfl, rfl, rfl⟩ : a = _ ∧ b = _ ∧ c = _ := by simpa using hp
      exact ⟨.inr ⟨lead, second4_iff.2 ⟨hb, overlong, beyond⟩⟩, isContinuation_iff.2 hc⟩
  · have tail : Within 0x80 0xbf 0x80 := by constructor <;> decide
    rintro ⟨⟨lead, second⟩ | ⟨lead, second⟩, third⟩
    · obtain ⟨hb, overlong, surrogate⟩ := second3_iff.1 second
      exact ⟨_, .three lead hb overlong surrogate (isContinuation_iff.1 third), by simp⟩
    · obtain ⟨hb, overlong, beyond⟩ := second4_iff.1 second
      exact ⟨_, .four lead hb overlong beyond (isContinuation_iff.1 third) tail, by simp⟩

theorem Opens.fourth {a b c d : UInt8} (h : Opens [a, b, c, d]) : isContinuation d := by
  obtain ⟨bytes, hs, hp⟩ := h
  cases hs with
  | one | two | three => simp at hp
  | four lead hb overlong beyond hc hd =>
    obtain ⟨rfl, rfl, rfl, rfl⟩ : a = _ ∧ b = _ ∧ c = _ ∧ d = _ := by simpa using hp
    exact isContinuation_iff.2 hd

/-- Where decoding gives up, the bytes so far begin a sequence. -/
theorem first_halts {a : UInt8} {rest : List UInt8} {n : Nat} :
    first a rest = (none, n) → n ≤ rest.length ∧ (n = 0 ∨ Opens (a :: rest.take n)) := by
  fun_cases first a rest with
  | case6 | case8 | case11 | case12 | case14 | case15 =>
    rintro ⟨⟩
    grind [Within, opens_pair_iff, opens_triple_iff]
  | _ => rintro ⟨⟩ <;> simp

/-- Where decoding gives up, the next byte does not go on. -/
theorem first_refuses {a : UInt8} {rest : List UInt8} {n : Nat} :
    first a rest = (none, n) → n < rest.length → ¬ Opens (a :: rest.take (n + 1)) := by
  fun_cases first a rest with
  | case17 =>
    rintro ⟨⟩ more
    obtain ⟨b, rest, rfl⟩ := List.exists_cons_of_length_pos more
    grind [Within, opens_pair_iff]
  | _ => rintro ⟨⟩ <;> grind [Within, opens_pair_iff, opens_triple_iff, Opens.fourth]

theorem Opens.mono {front longer : List UInt8} (h : Opens longer) (hp : front <+: longer) :
    Opens front := by
  obtain ⟨bytes, hs, hl⟩ := h
  exact ⟨bytes, hs, hp.trans hl⟩

theorem first_invalid {a : UInt8} {rest : List UInt8} {n : Nat} (h : first a rest = (none, n)) :
    InvalidPart (a :: rest.take n) (rest.drop n) := by
  obtain ⟨hn, begun⟩ := first_halts h
  have whole : (a :: rest.take n) ++ rest.drop n = a :: rest := by simp
  refine ⟨by simp, ?_, ?_, ?_⟩
  · intro bytes hs hp
    rw [whole] at hp
    obtain ⟨b, tail, rfl⟩ := List.exists_cons_of_ne_nil hs.ne_nil
    obtain ⟨rfl, more, rfl⟩ : b = a ∧ tail <+: rest := by simpa using hp
    obtain ⟨c, -, hc⟩ := hs.first more
    simp [h] at hc
  · rcases begun with rfl | opens
    · exact .inr (by simp)
    · exact .inl opens
  · intro longer hp opens
    rw [whole] at hp
    refine Nat.le_of_not_lt ?_
    intro beyond
    have length : n + 1 < longer.length := by simpa [hn] using beyond
    have total : longer.length ≤ rest.length + 1 := hp.length_le
    refine first_refuses h (by omega) (opens.mono ?_)
    have next : a :: rest.take (n + 1) <+: a :: rest := by simp [List.take_prefix]
    exact List.prefix_of_prefix_length_le next hp (by simp; omega)

theorem InvalidPart.length_le {part rest part' rest' : List UInt8} (h : InvalidPart part rest)
    (h' : InvalidPart part' rest') (same : part ++ rest = part' ++ rest') :
    part.length ≤ part'.length := by
  rcases h.opens with opens | single
  · exact h'.maximal part (same ▸ List.prefix_append part rest) opens
  · have := List.length_pos_iff.2 h'.nonempty
    omega

theorem InvalidPart.unique {part rest part' rest' : List UInt8} (h : InvalidPart part rest)
    (h' : InvalidPart part' rest') (same : part ++ rest = part' ++ rest') :
    part = part' ∧ rest = rest' := by
  have length := Nat.le_antisymm (h.length_le h' same) (h'.length_le h same.symm)
  exact List.append_inj same length

theorem utf8EncodeChar_injective {c d : Char}
    (h : String.utf8EncodeChar c = String.utf8EncodeChar d) : c = d := by
  have hc := @List.utf8DecodeChar?_utf8Encode_singleton_append .empty c
  have hd := @List.utf8DecodeChar?_utf8Encode_singleton_append .empty d
  rw [List.utf8Encode_singleton] at hc hd
  rw [h, hd] at hc
  simpa using hc.symm

theorem parts_encode_append (c : Char) (rest : List UInt8) :
    parts (String.utf8EncodeChar c ++ rest) = some c :: parts rest := by
  obtain ⟨a, tail, front⟩ := List.exists_cons_of_ne_nil (sequence_encode c).ne_nil
  have hs := sequence_encode c
  rw [front] at hs
  obtain ⟨d, hd, hf⟩ := hs.first rest
  obtain rfl : d = c := utf8EncodeChar_injective (hd.trans front.symm)
  rw [front, List.cons_append, parts_cons, hf]
  simp

theorem parts_invalid_append {part rest : List UInt8} (h : InvalidPart part rest) :
    parts (part ++ rest) = none :: parts rest := by
  obtain ⟨a, tail, rfl⟩ := List.exists_cons_of_ne_nil h.nonempty
  rw [List.cons_append, parts_cons]
  rcases hf : first a (tail ++ rest) with ⟨_ | c, n⟩
  · have unique := (first_invalid hf).unique h (by simp)
    simp [unique.2]
  · obtain ⟨hn, hc⟩ := first_sound hf
    refine absurd ?_ (h.unconvertible _ (sequence_encode c))
    rw [hc, List.cons_append]
    simp [List.take_prefix]

theorem decodeLossyChars_encode_append (c : Char) (rest : List UInt8) :
    decodeLossyChars (String.utf8EncodeChar c ++ rest) = c :: decodeLossyChars rest := by
  simp [decodeLossyChars, parts_encode_append]

theorem decodeLossyChars_invalid_append {part rest : List UInt8} (h : InvalidPart part rest) :
    decodeLossyChars (part ++ rest) = replacement :: decodeLossyChars rest := by
  simp [decodeLossyChars, parts_invalid_append h]

@[simp] theorem decodeLossyChars_encodeChars (cs : List Char) :
    decodeLossyChars (encodeChars cs) = cs := by
  induction cs with
  | nil => rfl
  | cons c cs ih => rw [encodeChars_cons, decodeLossyChars_encode_append, ih]

@[simp] theorem decodeLossy_encode (s : String) : decodeLossy (encode s) = s := by
  simp [decodeLossy, encode]

theorem repairs_encodeChars (bytes : List UInt8) :
    Repairs bytes (encodeChars (decodeLossyChars bytes)) := by
  induction hn : bytes.length using Nat.strongRecOn generalizing bytes with
  | _ n ih =>
  cases bytes with
  | nil => exact .nil
  | cons a rest =>
    rcases hf : first a rest with ⟨_ | c, k⟩
    all_goals
      have split : a :: rest = (a :: rest.take k) ++ rest.drop k := by simp
      have tail : Repairs (rest.drop k) (encodeChars (decodeLossyChars (rest.drop k))) := by
        refine ih _ ?_ _ rfl
        simp at hn ⊢
        omega
    · rw [split, decodeLossyChars_invalid_append (first_invalid hf)]
      exact .replace (first_invalid hf) tail
    · rw [split, ← (first_sound hf).2, decodeLossyChars_encode_append]
      exact .keep (sequence_encode c) tail

/-- There is one repair, and it is what encoding a lossily decoded text gives. -/
theorem repairs_iff {bytes fixed : List UInt8} :
    Repairs bytes fixed ↔ fixed = encode (decodeLossy bytes) := by
  simp only [encode, decodeLossy_toList]
  constructor
  · intro h
    induction h with
    | nil => rfl
    | keep h tail ih =>
      obtain ⟨c, rfl⟩ := h.encode
      rw [decodeLossyChars_encode_append, encodeChars_cons, ← ih]
    | replace h tail ih =>
      rw [decodeLossyChars_invalid_append h, encodeChars_cons, ← ih]
      rfl
  · rintro rfl
    exact repairs_encodeChars bytes

theorem wellFormed_encode (s : String) : WellFormed (encode s) := by
  unfold encode
  induction s.toList with
  | nil => exact .nil
  | cons c cs ih => exact .append (sequence_encode c) ih

theorem WellFormed.encode {bytes : List UInt8} (h : WellFormed bytes) :
    ∃ s, Utf8.encode s = bytes := by
  induction h with
  | nil => exact ⟨"", rfl⟩
  | append h tail ih =>
    obtain ⟨c, rfl⟩ := h.encode
    obtain ⟨s, rfl⟩ := ih
    exact ⟨String.ofList (c :: s.toList), by simp [Utf8.encode]⟩

theorem encode_decodeLossy_eq_iff {bytes : List UInt8} :
    encode (decodeLossy bytes) = bytes ↔ WellFormed bytes := by
  constructor
  · intro h
    rw [← h]
    exact wellFormed_encode _
  · intro h
    obtain ⟨s, rfl⟩ := h.encode
    rw [decodeLossy_encode]

theorem parts_encodeChars (cs : List Char) : parts (encodeChars cs) = cs.map some := by
  induction cs with
  | nil => rfl
  | cons c cs ih => rw [encodeChars_cons, parts_encode_append, ih, List.map_cons]

/-- Bytes all of whose parts are code points are the encoding of these. -/
theorem Repairs.encodeChars_eq {bytes fixed : List UInt8} (h : Repairs bytes fixed)
    {cs : List Char} (hparts : parts bytes = cs.map some) : encodeChars cs = bytes := by
  induction h generalizing cs with
  | nil =>
    have hcs : cs = [] := by simpa using hparts.symm
    rw [hcs, encodeChars_nil]
  | keep h tail ih =>
    obtain ⟨c, rfl⟩ := h.encode
    rw [parts_encode_append] at hparts
    obtain ⟨d, ds, rfl, hd, hds⟩ := List.map_eq_cons_iff.mp hparts.symm
    obtain rfl : d = c := Option.some.inj hd
    rw [encodeChars_cons, ih hds.symm]
  | replace h tail ih =>
    rw [parts_invalid_append h] at hparts
    obtain ⟨d, ds, -, hd, -⟩ := List.map_eq_cons_iff.mp hparts.symm
    cases hd

theorem mapM_id_map_some {α : Type} (as : List α) : (as.map some).mapM id = some as := by
  induction as with
  | nil => rfl
  | cons a as ih => simp [List.mapM_cons, ih]

theorem eq_map_some_of_mapM_id {α : Type} {l : List (Option α)} {as : List α}
    (h : l.mapM id = some as) : l = as.map some := by
  induction l generalizing as with
  | nil => simp_all
  | cons o l ih =>
    simp only [List.mapM_cons, id_eq, Option.bind_eq_bind, Option.bind_eq_some_iff,
      Option.pure_def] at h
    obtain ⟨a, rfl, rest, hrest, hall⟩ := h
    obtain rfl : a :: rest = as := Option.some.inj hall
    rw [ih hrest, List.map_cons]

/-- Strict decoding gives the text that the bytes encode. -/
theorem decode?_eq_some_iff {bytes : List UInt8} {s : String} :
    decode? bytes = some s ↔ encode s = bytes := by
  unfold decode?
  constructor
  · intro h
    obtain ⟨cs, hparts, rfl⟩ := Option.map_eq_some_iff.mp h
    have hcs := (repairs_encodeChars bytes).encodeChars_eq (eq_map_some_of_mapM_id hparts)
    simpa [encode] using hcs
  · rintro rfl
    rw [encode, parts_encodeChars, mapM_id_map_some]
    simp

theorem decode?_eq_none_iff {bytes : List UInt8} : decode? bytes = none ↔ ¬ WellFormed bytes := by
  constructor
  · intro hnone hwell
    obtain ⟨s, hs⟩ := hwell.encode
    rw [decode?_eq_some_iff.mpr hs] at hnone
    cases hnone
  · intro hill
    cases h : decode? bytes with
    | none => rfl
    | some s =>
      rw [← decode?_eq_some_iff.mp h] at hill
      exact absurd (wellFormed_encode s) hill

end ManagedBridge.Text.Utf8
