import ManagedBridge.Proofs.Reliability
import ManagedBridge.Proofs.Utf8

/-!
# What conversions carry across

A context carries strings across while it hands out the arrays that are asked for, gives back from
an array what was written to it, builds strings by decoding and reads them by encoding. Any of its
calls may be refused instead, if something has failed in the backend. A conversion over such a
context comes to what the strings and the bytes determine, or is refused.
-/

namespace ManagedBridge

variable {σ τ κ ς β υ ρ α γ ε : Type}

/-- An error after something has failed, or a result as `Q` says. -/
def OrFailed (failed : σ → Prop) (Q : Except ε α → σ → Prop) (r : Except ε α) (s : σ) : Prop :=
  (∃ e, r = .error e) ∧ failed s ∨ Q r s

/-- A context whose calls do what they are asked for, or fail. `Idle known` says that no array of a
conversion is out and which strings are known, and `Held known array bytes` that besides `array` is
out, with `bytes` in it. An array can be asked for if its length is one that `Fits`. -/
structure CallContext.Carries (ctx : CallContext σ κ ς β) (caps : κ) (encode : υ → List UInt8)
    (decode : List UInt8 → υ) (Fits : Nat → Prop) (failed : σ → Prop)
    (Idle : List (ς × υ) → σ → Prop) (Held : List (ς × υ) → β → List UInt8 → σ → Prop) : Prop where
  stringBytes : ∀ {known string units}, (string, units) ∈ known →
    (ctx.stringBytes caps string).Returns (Idle known) (OrFailed failed fun r s =>
      ∃ array, r = .ok array ∧ Held known array (encode units) s)
  newByteArray : ∀ known {len}, Fits len →
    (ctx.newByteArray len).Returns (Idle known) (OrFailed failed fun r s =>
      ∃ array, r = .ok array ∧ Held known array (List.replicate len 0) s)
  byteArrayLen : ∀ known array bytes,
    (ctx.byteArrayLen array).Returns (Held known array bytes) (OrFailed failed fun r s =>
      r = .ok bytes.length ∧ Held known array bytes s)
  readByteArray : ∀ known array bytes,
    (ctx.readByteArray array bytes.length).Returns (Held known array bytes)
      (OrFailed failed fun r s => r = .ok bytes ∧ Held known array bytes s)
  writeByteArray : ∀ known array {old bytes}, bytes.length = old.length →
    (ctx.writeByteArray array bytes).Returns (Held known array old) (OrFailed failed fun r s =>
      r = .ok () ∧ Held known array bytes s)
  newString : ∀ known array bytes,
    (ctx.newString caps array).Returns (Held known array bytes) (OrFailed failed fun r s =>
      ∃ string, r = .ok string ∧ Held ((string, decode bytes) :: known) array bytes s)
  releaseBytes : ∀ known array bytes,
    (ctx.releaseBytes array).Returns (Held known array bytes) fun _ => Idle known
  releaseFailed : ∀ array, (ctx.releaseBytes array).Returns failed fun _ => failed
  fits : ∀ {known array bytes s}, Held known array bytes s → Fits bytes.length

/-- What copying `bytes` out comes to: a buffer that holds them, if there is memory for it. -/
def copied [Memory] (bytes : List UInt8) : Except BridgeError ByteBuffer :=
  if ByteBuffer.fits bytes.length then .ok (.ofBytes bytes)
  else .error (.allocation "to_native" bytes.length)

theorem map_copied [Memory] (f : ByteBuffer → α) (bytes : List UInt8) :
    (copied bytes).map f =
      if ByteBuffer.fits bytes.length then .ok (f (.ofBytes bytes))
      else .error (.allocation "to_native" bytes.length) := by
  unfold copied
  split <;> rfl

theorem ByteBuffer.filled_eq_ofBytes (bytes : List UInt8) :
    filled bytes.length bytes = ofBytes bytes :=
  content_injective (by rw [content_filled, content_ofBytes])

/-- A buffer with the bytes of a text reads as the text. -/
theorem ByteBuffer.textLossy_ofBytes_encode (s : String) :
    (ofBytes (Text.Utf8.encode s)).textLossy = s := by
  rw [textLossy, content_ofBytes, Text.Utf8.decodeLossy_encode]

/-- On a lawful place a call that may fail does as it does alone, and the rest stays. -/
theorem Call.Returns.zoom_orFailed {p : Place σ τ} (hp : p.Lawful) {P failed : τ → Prop}
    {Q : Except ε α → τ → Prop} {call : Call τ (Except ε α)}
    (h : call.Returns P (OrFailed failed Q)) (whole : σ) :
    Call.Returns (fun s => P (p.get s) ∧ ∃ part, s = p.set part whole) (call.zoom p)
      (OrFailed (fun s => failed (p.get s) ∧ ∃ part, s = p.set part whole)
        fun r s => Q r (p.get s) ∧ ∃ part, s = p.set part whole) := by
  refine (h.zoom hp whole).mono ?_
  rintro r s ⟨⟨herror, hfailed⟩ | hs, hrest⟩
  · exact .inl ⟨herror, hfailed, hrest⟩
  · exact .inr ⟨hs, hrest⟩

theorem OrFailed.imp {failed : σ → Prop} {Q Q' : Except ε α → σ → Prop} {r : Except ε α} {s : σ}
    (h : OrFailed failed Q r s) (hQ : Q r s → Q' r s) : OrFailed failed Q' r s :=
  Or.imp_right hQ h

namespace CallContext.Carries

variable {ctx : CallContext σ κ ς β} {caps : κ} {encode : υ → List UInt8}
  {decode : List UInt8 → υ} {Fits : Nat → Prop} {failed : σ → Prop}
  {Idle : List (ς × υ) → σ → Prop} {Held : List (ς × υ) → β → List UInt8 → σ → Prop}
  {known : List (ς × υ)}

/-- A context that carries on a part of the state does so on the whole, and leaves the rest. -/
theorem zoom {ctx : CallContext τ κ ς β} {failed : τ → Prop} {Idle : List (ς × υ) → τ → Prop}
    {Held : List (ς × υ) → β → List UInt8 → τ → Prop}
    (h : ctx.Carries caps encode decode Fits failed Idle Held) {p : Place σ τ} (hp : p.Lawful)
    (whole : σ) :
    (ctx.zoom p).Carries caps encode decode Fits
      (fun s => failed (p.get s) ∧ ∃ part, s = p.set part whole)
      (fun known s => Idle known (p.get s) ∧ ∃ part, s = p.set part whole)
      fun known array bytes s =>
        Held known array bytes (p.get s) ∧ ∃ part, s = p.set part whole where
  stringBytes hmem := ((h.stringBytes hmem).zoom_orFailed hp whole).mono fun _ _ hs =>
    hs.imp fun ⟨⟨array, hr, held⟩, rest⟩ => ⟨array, hr, held, rest⟩
  newByteArray known _ fits :=
    ((h.newByteArray known fits).zoom_orFailed hp whole).mono fun _ _ hs =>
      hs.imp fun ⟨⟨array, hr, held⟩, rest⟩ => ⟨array, hr, held, rest⟩
  byteArrayLen known array bytes :=
    ((h.byteArrayLen known array bytes).zoom_orFailed hp whole).mono fun _ _ hs =>
      hs.imp fun ⟨⟨hr, held⟩, rest⟩ => ⟨hr, held, rest⟩
  readByteArray known array bytes :=
    ((h.readByteArray known array bytes).zoom_orFailed hp whole).mono fun _ _ hs =>
      hs.imp fun ⟨⟨hr, held⟩, rest⟩ => ⟨hr, held, rest⟩
  writeByteArray known array _ _ same :=
    ((h.writeByteArray known array same).zoom_orFailed hp whole).mono fun _ _ hs =>
      hs.imp fun ⟨⟨hr, held⟩, rest⟩ => ⟨hr, held, rest⟩
  newString known array bytes :=
    ((h.newString known array bytes).zoom_orFailed hp whole).mono fun _ _ hs =>
      hs.imp fun ⟨⟨string, hr, held⟩, rest⟩ => ⟨string, hr, held, rest⟩
  releaseBytes known array bytes := (h.releaseBytes known array bytes).zoom hp whole
  releaseFailed array := (h.releaseFailed array).zoom hp whole
  fits held := h.fits held.1

theorem copyOut [Memory] (h : ctx.Carries caps encode decode Fits failed Idle Held)
    (known : List (ς × υ)) (array : β) (bytes : List UInt8) :
    (Marshal.copyOut ctx array).Returns (Held known array bytes) (OrFailed failed fun r s =>
      r = copied bytes ∧ Held known array bytes s) := by
  refine (h.byteArrayLen known array bytes).bind fun r => ?_
  rintro s (⟨⟨e, rfl⟩, hs⟩ | ⟨rfl, hs⟩)
  · exact ⟨_, s, rfl, .inl ⟨⟨_, rfl⟩, hs⟩⟩
  · dsimp only
    by_cases fits : ByteBuffer.fits bytes.length = true
    · rw [if_pos fits]
      refine ((h.readByteArray known array bytes).bind fun r => ?_) s hs
      rintro t (⟨⟨e, rfl⟩, ht⟩ | ⟨rfl, ht⟩)
      · exact ⟨_, t, rfl, .inl ⟨⟨_, rfl⟩, ht⟩⟩
      · have hcopied : copied bytes = .ok (ByteBuffer.filled bytes.length bytes) := by
          rw [copied, if_pos fits, ByteBuffer.filled_eq_ofBytes]
        exact ⟨_, t, rfl, .inr ⟨hcopied.symm, ht⟩⟩
    · rw [if_neg fits, copied, if_neg fits]
      exact ⟨_, s, rfl, .inr ⟨rfl, hs⟩⟩

/-- A string that is known is copied out as what it is encoded to. -/
theorem toNative [Memory] (h : ctx.Carries caps encode decode Fits failed Idle Held) {string : ς}
    {units : υ} (hmem : (string, units) ∈ known) :
    (Marshal.toNative ctx caps (some string)).Returns (Idle known) (OrFailed failed fun r s =>
      r = (copied (encode units)).map some ∧ Fits (encode units).length ∧ Idle known s) := by
  refine (h.stringBytes hmem).monadLift.bind fun r => ?_
  rintro w (⟨⟨e, rfl⟩, hw⟩ | ⟨array, rfl, hw⟩)
  · exact ⟨_, w, rfl, .inl ⟨⟨_, rfl⟩, hw⟩⟩
  · have fits := h.fits hw
    refine ((h.copyOut known array (encode units)).monadLift.bind fun r => ?_) w hw
    rintro v (⟨⟨e, rfl⟩, hv⟩ | ⟨rfl, hv⟩)
    · refine ((h.releaseFailed array).monadLift.bind fun _ => ?_) v hv
      exact fun u hu => ⟨_, u, rfl, .inl ⟨⟨_, rfl⟩, hu⟩⟩
    · refine ((h.releaseBytes known array (encode units)).monadLift.bind fun _ => ?_) v hv
      rcases copied (encode units) with e | buffer
      · exact fun u hu => ⟨_, u, rfl, .inr ⟨rfl, fits, hu⟩⟩
      · refine (Act.returns_count _).bind fun _ => (Act.returns_note _).bind fun _ => ?_
        exact fun u hu => ⟨_, u, rfl, .inr ⟨rfl, fits, hu⟩⟩

theorem construct (h : ctx.Carries caps encode decode Fits failed Idle Held)
    (known : List (ς × υ)) (array : β) {old bytes : List UInt8} (same : bytes.length = old.length) :
    (Marshal.construct ctx caps array bytes).Returns (Held known array old)
      (OrFailed failed fun r s => ∃ string, r = .ok string ∧
        Held ((string, decode bytes) :: known) array bytes s) := by
  refine (h.writeByteArray known array same).bind fun r => ?_
  rintro s (⟨⟨e, rfl⟩, hs⟩ | ⟨rfl, hs⟩)
  · exact ⟨_, s, rfl, .inl ⟨⟨_, rfl⟩, hs⟩⟩
  · refine ((h.newString known array bytes).bind fun r => ?_) s hs
    rintro t (⟨⟨e, rfl⟩, ht⟩ | ⟨string, rfl, ht⟩)
    · exact ⟨_, t, rfl, .inl ⟨⟨_, rfl⟩, ht⟩⟩
    · exact ⟨_, t, rfl, .inr ⟨string, rfl, ht⟩⟩

/-- Bytes become a string of what they are decoded to. -/
theorem toManaged (h : ctx.Carries caps encode decode Fits failed Idle Held)
    (known : List (ς × υ)) {bytes : List UInt8} (fits : Fits bytes.length) :
    (Marshal.toManaged ctx caps (some bytes)).Returns (Idle known) (OrFailed failed fun r s =>
      ∃ string, r = .ok (some string) ∧ Idle ((string, decode bytes) :: known) s) := by
  refine (h.newByteArray known fits).monadLift.bind fun r => ?_
  rintro w (⟨⟨e, rfl⟩, hw⟩ | ⟨array, rfl, hw⟩)
  · exact ⟨_, w, rfl, .inl ⟨⟨_, rfl⟩, hw⟩⟩
  · have same : bytes.length = (List.replicate bytes.length (0 : UInt8)).length := by simp
    refine ((h.construct known array same).monadLift.bind fun r => ?_) w hw
    rintro v (⟨⟨e, rfl⟩, hv⟩ | ⟨string, rfl, hv⟩)
    · refine ((h.releaseFailed array).monadLift.bind fun _ => ?_) v hv
      exact fun u hu => ⟨_, u, rfl, .inl ⟨⟨_, rfl⟩, hu⟩⟩
    · refine ((h.releaseBytes _ array bytes).monadLift.bind fun _ => ?_) v hv
      refine (Act.returns_count _).bind fun _ => (Act.returns_note _).bind fun _ => ?_
      exact fun u hu => ⟨_, u, rfl, .inr ⟨string, rfl, hu⟩⟩

section Bridges

variable {place : Place σ (Bridge ρ κ)}

/-- A bridge that has the capabilities goes on with them. -/
theorem bind_capabilities {f : Bridge ρ κ → Act σ α} {Q : α → σ → Prop}
    (hcaps : ∀ s, Idle known s → (place.get s).capabilities = .ok caps)
    (h : ∀ bridge : Bridge ρ κ, bridge.capabilities = .ok caps →
      (f bridge).Returns (Idle known) Q) :
    Act.Returns (Idle known) (liftM (Call.read place) >>= f) Q := by
  have hread : (Call.read place).Returns (Idle known) fun b s =>
      b.capabilities = .ok caps ∧ Idle known s :=
    Call.returns_step fun s hs => ⟨hcaps s hs, hs⟩
  refine hread.monadLift.bind fun bridge => ?_
  rintro w ⟨hbridge, hw⟩
  exact h bridge hbridge w hw

theorem nativeFromManaged [Memory] (h : ctx.Carries caps encode decode Fits failed Idle Held)
    (hcaps : ∀ s, Idle known s → (place.get s).capabilities = .ok caps) {string : ς} {units : υ}
    (hmem : (string, units) ∈ known) :
    (Bridge.nativeFromManaged place ctx (some string)).Returns (Idle known)
      (OrFailed failed fun r s => r = (copied (encode units)).map some ∧
        Fits (encode units).length ∧ Idle known s) := by
  refine bind_capabilities hcaps fun bridge hbridge => ?_
  simp only [hbridge]
  exact h.toNative hmem

theorem managedFromNative (h : ctx.Carries caps encode decode Fits failed Idle Held)
    (hcaps : ∀ s, Idle known s → (place.get s).capabilities = .ok caps) {bytes : List UInt8}
    (fits : Fits bytes.length) :
    (Bridge.managedFromNative place ctx (some bytes)).Returns (Idle known)
      (OrFailed failed fun r s => ∃ string, r = .ok (some string) ∧
        Idle ((string, decode bytes) :: known) s) := by
  refine bind_capabilities hcaps fun bridge hbridge => ?_
  simp only [hbridge]
  exact h.toManaged known fits

theorem stringFromManaged [Memory] (h : ctx.Carries caps encode decode Fits failed Idle Held)
    (hcaps : ∀ s, Idle known s → (place.get s).capabilities = .ok caps) {string : ς} {units : υ}
    (hmem : (string, units) ∈ known) :
    (Bridge.stringFromManaged place ctx (some string)).Returns (Idle known)
      (OrFailed failed fun r s =>
        r = (copied (encode units)).map (fun b => some b.textLossy) ∧
          Fits (encode units).length ∧ Idle known s) := by
  refine (h.nativeFromManaged hcaps hmem).bind fun r => ?_
  rintro w (⟨⟨e, rfl⟩, hw⟩ | ⟨rfl, hw⟩)
  · exact ⟨_, w, rfl, .inl ⟨⟨_, rfl⟩, hw⟩⟩
  · rcases copied (encode units) with e | buffer
    · exact ⟨_, w, rfl, .inr ⟨rfl, hw⟩⟩
    · exact ⟨_, w, rfl, .inr ⟨rfl, hw⟩⟩

end Bridges

end CallContext.Carries

end ManagedBridge
