import ManagedBridge.Proofs.Carrying

/-!
# Faithful transfers

A context transfers faithfully while it hands out the arrays that are asked for, gives back from an
array what was written to it, and reads a string as the bytes that it is made of. Such a context
carries strings across without ever failing. So a conversion over it returns what the strings and
the bytes determine, and the context is as idle as it was.
-/

namespace ManagedBridge

variable {σ τ κ ς β α γ : Type}

/-- A call that returns one result does so on a lawful place. -/
theorem Call.Returns.zoom_value {p : Place σ τ} (hp : p.Lawful) {P Q : τ → Prop} {call : Call τ α}
    {a : α} (h : call.Returns P fun b s => b = a ∧ Q s) (whole : σ) :
    Call.Returns (fun s => P (p.get s) ∧ ∃ part, s = p.set part whole) (call.zoom p)
      fun b s => b = a ∧ Q (p.get s) ∧ ∃ part, s = p.set part whole :=
  (h.zoom hp whole).mono fun _ _ hs => ⟨hs.1.1, hs.1.2, hs.2⟩

/-- A context whose calls do what they are asked for. `Idle` says that no array of a conversion is
out, and `Held array bytes` that `array` is, with `bytes` in it. -/
structure CallContext.Transfers (ctx : CallContext σ κ ς β) (caps : κ) (bytesOf : ς → List UInt8)
    (stringOf : List UInt8 → ς) (Idle : σ → Prop) (Held : β → List UInt8 → σ → Prop) : Prop where
  stringBytes : ∀ string, (ctx.stringBytes caps string).Returns Idle
    fun r s => ∃ array, r = .ok array ∧ Held array (bytesOf string) s
  newByteArray : ∀ len, (ctx.newByteArray len).Returns Idle
    fun r s => ∃ array, r = .ok array ∧ Held array (List.replicate len 0) s
  byteArrayLen : ∀ array bytes, (ctx.byteArrayLen array).Returns (Held array bytes)
    fun r s => r = .ok bytes.length ∧ Held array bytes s
  readByteArray : ∀ array bytes, (ctx.readByteArray array bytes.length).Returns (Held array bytes)
    fun r s => r = .ok bytes ∧ Held array bytes s
  writeByteArray : ∀ array old bytes, bytes.length = old.length →
    (ctx.writeByteArray array bytes).Returns (Held array old)
      fun r s => r = .ok () ∧ Held array bytes s
  newString : ∀ array bytes, (ctx.newString caps array).Returns (Held array bytes)
    fun r s => r = .ok (stringOf bytes) ∧ Held array bytes s
  releaseBytes : ∀ array bytes, (ctx.releaseBytes array).Returns (Held array bytes)
    fun _ s => Idle s

namespace CallContext.Transfers

variable {caps : κ} {bytesOf : ς → List UInt8} {stringOf : List UInt8 → ς}

/-- A context that transfers on a part of the state does so on the whole, and leaves the rest. -/
theorem zoom {ctx : CallContext τ κ ς β} {Idle : τ → Prop} {Held : β → List UInt8 → τ → Prop}
    (h : ctx.Transfers caps bytesOf stringOf Idle Held) {p : Place σ τ} (hp : p.Lawful)
    (whole : σ) :
    (ctx.zoom p).Transfers caps bytesOf stringOf
      (fun s => Idle (p.get s) ∧ ∃ part, s = p.set part whole)
      fun array bytes s => Held array bytes (p.get s) ∧ ∃ part, s = p.set part whole where
  stringBytes string := by
    refine ((h.stringBytes string).zoom hp whole).mono ?_
    rintro _ s ⟨⟨array, rfl, held⟩, rest⟩
    exact ⟨array, rfl, held, rest⟩
  newByteArray len := by
    refine ((h.newByteArray len).zoom hp whole).mono ?_
    rintro _ s ⟨⟨array, rfl, held⟩, rest⟩
    exact ⟨array, rfl, held, rest⟩
  byteArrayLen array bytes := (h.byteArrayLen array bytes).zoom_value hp whole
  readByteArray array bytes := (h.readByteArray array bytes).zoom_value hp whole
  writeByteArray array old bytes same := (h.writeByteArray array old bytes same).zoom_value hp whole
  newString array bytes := (h.newString array bytes).zoom_value hp whole
  releaseBytes array bytes := (h.releaseBytes array bytes).zoom hp whole

variable {ctx : CallContext σ κ ς β} {Idle : σ → Prop} {Held : β → List UInt8 → σ → Prop}

/-- Strings that are known by themselves. -/
def Plain (known : List (ς × ς)) : Prop := ∀ entry ∈ known, entry.1 = entry.2

/-- What is known of a string is the string itself, and nothing ever fails. -/
theorem carries (h : ctx.Transfers caps bytesOf stringOf Idle Held) :
    ctx.Carries caps bytesOf stringOf (fun _ => True) (fun _ => False)
      (fun known s => Idle s ∧ Plain known)
      fun known array bytes s => Held array bytes s ∧ Plain known where
  stringBytes {known string units} hmem := by
    rintro s ⟨hs, hknown⟩
    obtain rfl : string = units := hknown _ hmem
    obtain ⟨r, t, hrun, array, rfl, ht⟩ := h.stringBytes string s hs
    exact ⟨_, t, hrun, .inr ⟨array, rfl, ht, hknown⟩⟩
  newByteArray known len _ := by
    rintro s ⟨hs, hknown⟩
    obtain ⟨r, t, hrun, array, rfl, ht⟩ := h.newByteArray len s hs
    exact ⟨_, t, hrun, .inr ⟨array, rfl, ht, hknown⟩⟩
  byteArrayLen known array bytes := by
    rintro s ⟨hs, hknown⟩
    obtain ⟨r, t, hrun, rfl, ht⟩ := h.byteArrayLen array bytes s hs
    exact ⟨_, t, hrun, .inr ⟨rfl, ht, hknown⟩⟩
  readByteArray known array bytes := by
    rintro s ⟨hs, hknown⟩
    obtain ⟨r, t, hrun, rfl, ht⟩ := h.readByteArray array bytes s hs
    exact ⟨_, t, hrun, .inr ⟨rfl, ht, hknown⟩⟩
  writeByteArray known array old bytes same := by
    rintro s ⟨hs, hknown⟩
    obtain ⟨r, t, hrun, rfl, ht⟩ := h.writeByteArray array old bytes same s hs
    exact ⟨_, t, hrun, .inr ⟨rfl, ht, hknown⟩⟩
  newString known array bytes := by
    rintro s ⟨hs, hknown⟩
    obtain ⟨r, t, hrun, rfl, ht⟩ := h.newString array bytes s hs
    exact ⟨_, t, hrun, .inr ⟨_, rfl, ht, List.forall_mem_cons.mpr ⟨rfl, hknown⟩⟩⟩
  releaseBytes known array bytes := by
    rintro s ⟨hs, hknown⟩
    obtain ⟨r, t, hrun, ht⟩ := h.releaseBytes array bytes s hs
    exact ⟨_, t, hrun, ht, hknown⟩
  releaseFailed _ _ := False.elim
  fits _ := trivial

/-- What carries without failing returns what is to be carried. -/
theorem returns_of_carries {string : ς} {act : Act σ (Except BridgeError α)}
    {a : Except BridgeError α}
    (h : act.Returns (fun s => Idle s ∧ Plain [(string, string)])
      (OrFailed (fun _ => False) fun r s => r = a ∧ True ∧ Idle s ∧ Plain [(string, string)])) :
    act.Returns Idle fun r s => r = a ∧ Idle s := by
  intro w hw
  obtain ⟨r, v, hrun, hfailed | ⟨rfl, -, hv, -⟩⟩ :=
    h w ⟨hw, List.forall_mem_singleton.mpr rfl⟩
  · exact hfailed.2.elim
  · exact ⟨_, v, hrun, rfl, hv⟩

section Bridges

variable {ρ : Type} {place : Place σ (Bridge ρ κ)}

/-- A string is copied out as the bytes that it is made of. -/
theorem nativeFromManaged [Memory] (h : ctx.Transfers caps bytesOf stringOf Idle Held)
    (hcaps : ∀ s, Idle s → (place.get s).capabilities = .ok caps) (string : ς) :
    (Bridge.nativeFromManaged place ctx (some string)).Returns Idle
      fun r s => r = (copied (bytesOf string)).map some ∧ Idle s :=
  returns_of_carries (h.carries.nativeFromManaged (fun s hs => hcaps s hs.1) (.head _))

/-- Bytes become the string that the runtime reads them as. -/
theorem managedFromNative (h : ctx.Transfers caps bytesOf stringOf Idle Held)
    (hcaps : ∀ s, Idle s → (place.get s).capabilities = .ok caps) (bytes : List UInt8) :
    (Bridge.managedFromNative place ctx (some bytes)).Returns Idle
      fun r s => r = .ok (some (stringOf bytes)) ∧ Idle s := by
  intro w hw
  have hplain : Plain ([] : List (ς × ς)) := nofun
  obtain ⟨r, v, hrun, hfailed | ⟨string, rfl, hv, hknown⟩⟩ :=
    h.carries.managedFromNative (fun s hs => hcaps s hs.1) trivial w ⟨hw, hplain⟩
  · exact hfailed.2.elim
  · obtain rfl : string = stringOf bytes := hknown _ (.head _)
    exact ⟨_, v, hrun, rfl, hv⟩

theorem stringFromManaged [Memory] (h : ctx.Transfers caps bytesOf stringOf Idle Held)
    (hcaps : ∀ s, Idle s → (place.get s).capabilities = .ok caps) (string : ς) :
    (Bridge.stringFromManaged place ctx (some string)).Returns Idle
      fun r s => r = (copied (bytesOf string)).map (fun b => some b.textLossy) ∧ Idle s :=
  returns_of_carries (h.carries.stringFromManaged (fun s hs => hcaps s hs.1) (.head _))

end Bridges

end CallContext.Transfers

end ManagedBridge
