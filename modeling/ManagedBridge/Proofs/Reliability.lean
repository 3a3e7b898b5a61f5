import ManagedBridge.Bridge

/-!
# Reliable contexts

A context is reliable while its calls return, however they answer, and while it keeps count of the
arrays that it has handed out. What a conversion or a drain does to a reliable context is the same
whatever the backend: it returns, and as many arrays are out as before.
-/

namespace ManagedBridge

variable {σ τ κ ς β α γ : Type}

/-- From every state with `P` the routine returns, and the result and the state left are as `Q`
says. -/
def Routine.Returns (P : σ → Prop) (r : Routine σ α) (Q : α → σ → Prop) : Prop :=
  ∀ s, P s → ∃ a t, r.run s = (.ok a, t) ∧ Q a t

namespace Routine.Returns

theorem pure {P : σ → Prop} {a : α} {Q : α → σ → Prop} (h : ∀ s, P s → Q a s) :
    Returns P (Pure.pure a) Q :=
  fun s hs => ⟨a, s, rfl, h s hs⟩

theorem bind {P : σ → Prop} {r : Routine σ α} {Q : α → σ → Prop} {f : α → Routine σ γ}
    {R : γ → σ → Prop} (hr : Returns P r Q) (hf : ∀ a, Returns (Q a) (f a) R) :
    Returns P (r >>= f) R := by
  intro s hs
  obtain ⟨a, t, hrun, hQ⟩ := hr s hs
  obtain ⟨c, u, hnext, hR⟩ := hf a t hQ
  exact ⟨c, u, by rw [run_bind, hrun]; exact hnext, hR⟩

theorem mono {P : σ → Prop} {r : Routine σ α} {Q R : α → σ → Prop} (h : Returns P r Q)
    (hQR : ∀ a s, Q a s → R a s) : Returns P r R := by
  intro s hs
  obtain ⟨a, t, hrun, hQ⟩ := h s hs
  exact ⟨a, t, hrun, hQR a t hQ⟩

/-- A routine that returns one result is gone on from with it. -/
theorem bind_value {P Q : σ → Prop} {r : Routine σ α} {a : α} {f : α → Routine σ γ}
    {R : γ → σ → Prop} (hr : Returns P r fun b s => b = a ∧ Q s) (hf : Returns Q (f a) R) :
    Returns P (r >>= f) R := by
  refine hr.bind fun b => ?_
  rintro s ⟨rfl, hs⟩
  exact hf s hs

theorem bind_exists {ι : Type} {P : σ → Prop} {Q : ι → σ → Prop} {r : Routine σ α} {g : ι → α}
    {f : α → Routine σ γ} {R : γ → σ → Prop} (hr : Returns P r fun b s => ∃ i, b = g i ∧ Q i s)
    (hf : ∀ i, Returns (Q i) (f (g i)) R) : Returns P (r >>= f) R := by
  refine hr.bind fun b => ?_
  rintro s ⟨i, rfl, hs⟩
  exact hf i s hs

theorem pure_value {P : σ → Prop} (a : α) :
    Returns P (Pure.pure a) fun b s => b = a ∧ P s :=
  .pure fun _ hs => ⟨rfl, hs⟩

end Routine.Returns

/-- The call returns, if the backend's state is as `P` says. -/
abbrev Call.Returns (P : σ → Prop) (call : Call σ α) (Q : α → σ → Prop) : Prop :=
  Routine.Returns (fun s => P s.backend) call fun a s => Q a s.backend

/-- The act returns, if the backend's state is as `P` says. -/
abbrev Act.Returns (P : σ → Prop) (act : Act σ α) (Q : α → σ → Prop) : Prop :=
  Routine.Returns (fun w => P w.backend) act fun a w => Q a w.backend

theorem Call.Returns.monadLift {P : σ → Prop} {call : Call σ α} {Q : α → σ → Prop}
    (h : call.Returns P Q) : Act.Returns P (liftM call) Q := by
  intro w hw
  obtain ⟨a, s, hrun, hQ⟩ := h w.toSite hw
  exact ⟨a, { w with toSite := s }, by rw [run_monadLift, hrun], hQ⟩

/-- On a lawful place a call returns as it does alone, and leaves the rest of the state. -/
theorem Call.Returns.zoom {p : Place σ τ} (hp : p.Lawful) {P : τ → Prop} {call : Call τ α}
    {Q : α → τ → Prop} (h : call.Returns P Q) (whole : σ) :
    Call.Returns (fun s => P (p.get s) ∧ ∃ part, s = p.set part whole) (call.zoom p)
      fun a s => Q a (p.get s) ∧ ∃ part, s = p.set part whole := by
  rintro s ⟨hP, part, hs⟩
  obtain ⟨a, t, hrun, hQ⟩ := h (p.site.get s) hP
  refine ⟨a, p.site.set t s, by rw [run_zoom hp, hrun], ?_, t.backend, ?_⟩
  · exact (hp.get_set t.backend s.backend).symm ▸ hQ
  · exact (congrArg (p.set t.backend) hs).trans (hp.set_set _ _ _)

/-- On a lawful place a call returns as it does alone. -/
theorem Call.Returns.zoom_part {p : Place σ τ} (hp : p.Lawful) {P : τ → Prop} {call : Call τ α}
    {Q : α → τ → Prop} (h : call.Returns P Q) :
    Call.Returns (fun s => P (p.get s)) (call.zoom p) fun a s => Q a (p.get s) := by
  intro s hs
  obtain ⟨a, t, hrun, hQ⟩ := h (p.site.get s) hs
  refine ⟨a, p.site.set t s, by rw [run_zoom hp, hrun], ?_⟩
  exact (congrArg (Q a) (hp.get_set t.backend s.backend)).mpr hQ

/-- On a lawful place a call returns as it does alone, and what does not depend on the place stays
as it is. -/
theorem Call.Returns.zoom_aside {p : Place σ τ} (hp : p.Lawful) {P : τ → Prop} {call : Call τ α}
    {Q : α → τ → Prop} (h : call.Returns P Q) (Aside : σ → Prop)
    (haside : ∀ s part, Aside s → Aside (p.set part s)) :
    Call.Returns (fun s => P (p.get s) ∧ Aside s) (call.zoom p)
      fun a s => Q a (p.get s) ∧ Aside s := by
  rintro s ⟨hs, hrest⟩
  obtain ⟨a, t, hrun, ht, part, hpart⟩ := h.zoom hp s.backend s
    ⟨hs, _, (hp.set_get s.backend).symm⟩
  exact ⟨a, t, hrun, ht, hpart ▸ haside _ _ hrest⟩

theorem Call.returns_step {P : σ → Prop} {f : σ → α × σ} {Q : α → σ → Prop}
    (h : ∀ s, P s → Q (f s).1 (f s).2) : (Call.step f).Returns P Q :=
  fun s hs => ⟨_, _, rfl, h s.backend hs⟩

theorem Call.returns_read {P : σ → Prop} (p : Place σ α) : (Call.read p).Returns P fun _ => P :=
  Call.returns_step fun _ => id

theorem Act.returns_count {P : σ → Prop} (event : BridgeEvent) :
    (Act.count event : Act σ Unit).Returns P fun _ => P :=
  fun w hw => ⟨(), { w with events := w.events.increment event }, rfl, hw⟩

theorem Act.returns_note {P : σ → Prop} (line : LogLine) :
    (Act.note line : Act σ Unit).Returns P fun _ => P :=
  fun w hw => ⟨(), { w with log := line :: w.log }, rfl, hw⟩

/-- After a call that hands out an array, unless it is refused, one more is out. -/
def HandedOut (Live : Nat → σ → Prop) (n : Nat) : Except RuntimeError β → σ → Prop
  | .ok _ => Live (n + 1)
  | .error _ => Live n

/-- A context whose calls return while `Live n` says that it can be used and that `n` arrays are
out. -/
structure CallContext.Reliable (ctx : CallContext σ κ ς β) (Live : Nat → σ → Prop) : Prop where
  resolveCapabilities : ∀ n, ctx.resolveCapabilities.Returns (Live n) fun _ => Live n
  stringBytes : ∀ n caps string,
    (ctx.stringBytes caps string).Returns (Live n) (HandedOut Live n)
  byteArrayLen : ∀ n array, (ctx.byteArrayLen array).Returns (Live n) fun _ => Live n
  readByteArray : ∀ n array len, (ctx.readByteArray array len).Returns (Live n) fun _ => Live n
  newByteArray : ∀ n len, (ctx.newByteArray len).Returns (Live n) (HandedOut Live n)
  writeByteArray : ∀ n array bytes,
    (ctx.writeByteArray array bytes).Returns (Live n) fun _ => Live n
  newString : ∀ n caps array, (ctx.newString caps array).Returns (Live n) fun _ => Live n
  releaseBytes : ∀ n array, (ctx.releaseBytes array).Returns (Live (n + 1)) fun _ => Live n
  exceptionPending : ∀ n, ctx.exceptionPending.Returns (Live n) fun _ => Live n
  describeException : ∀ n, ctx.describeException.Returns (Live n) fun _ => Live n
  clearException : ∀ n, ctx.clearException.Returns (Live n) fun _ => Live n

namespace CallContext.Reliable

variable {ctx : CallContext σ κ ς β} {Live : Nat → σ → Prop}

/-- A context that is reliable on a part of the state is so on the whole, and leaves the rest. -/
theorem zoom {ctx : CallContext τ κ ς β} {Live : Nat → τ → Prop} (h : ctx.Reliable Live)
    {p : Place σ τ} (hp : p.Lawful) (whole : σ) :
    (ctx.zoom p).Reliable fun n s => Live n (p.get s) ∧ ∃ part, s = p.set part whole where
  resolveCapabilities n := (h.resolveCapabilities n).zoom hp whole
  stringBytes n caps string :=
    ((h.stringBytes n caps string).zoom hp whole).mono fun r _ hr => by cases r <;> exact hr
  byteArrayLen n array := (h.byteArrayLen n array).zoom hp whole
  readByteArray n array len := (h.readByteArray n array len).zoom hp whole
  newByteArray n len :=
    ((h.newByteArray n len).zoom hp whole).mono fun r _ hr => by cases r <;> exact hr
  writeByteArray n array bytes := (h.writeByteArray n array bytes).zoom hp whole
  newString n caps array := (h.newString n caps array).zoom hp whole
  releaseBytes n array := (h.releaseBytes n array).zoom hp whole
  exceptionPending n := (h.exceptionPending n).zoom hp whole
  describeException n := (h.describeException n).zoom hp whole
  clearException n := (h.clearException n).zoom hp whole

theorem copyOut [Memory] (h : ctx.Reliable Live) (n : Nat) (array : β) :
    (Marshal.copyOut ctx array).Returns (Live n) fun _ => Live n := by
  refine (h.byteArrayLen n array).bind ?_
  rintro (e | len)
  · exact .pure fun _ => id
  · show Call.Returns _ (if ByteBuffer.fits len then _ else _) _
    split
    · refine (h.readByteArray n array len).bind ?_
      rintro (e | bytes) <;> exact .pure fun _ => id
    · exact .pure fun _ => id

/-- A conversion out of a managed string returns, and its array is no longer out. -/
theorem toNative [Memory] (h : ctx.Reliable Live) (n : Nat) (caps : κ) (string? : Option ς) :
    (Marshal.toNative ctx caps string?).Returns (Live n) fun _ => Live n := by
  rcases string? with _ | string
  · exact .pure fun _ => id
  · refine (h.stringBytes n caps string).monadLift.bind ?_
    rintro (e | array)
    · exact .pure fun _ => id
    · refine (h.copyOut (n + 1) array).monadLift.bind fun copied => ?_
      refine (h.releaseBytes n array).monadLift.bind fun _ => ?_
      rcases copied with e | buffer
      · exact .pure fun _ => id
      · refine (Act.returns_count _).bind fun _ => (Act.returns_note _).bind fun _ => ?_
        exact .pure fun _ => id

theorem construct (h : ctx.Reliable Live) (n : Nat) (caps : κ) (array : β) (bytes : List UInt8) :
    (Marshal.construct ctx caps array bytes).Returns (Live n) fun _ => Live n := by
  refine (h.writeByteArray n array bytes).bind ?_
  rintro (e | _)
  · exact .pure fun _ => id
  · refine (h.newString n caps array).bind ?_
    rintro (e | string) <;> exact .pure fun _ => id

/-- A conversion into a managed string returns, and its array is no longer out. -/
theorem toManaged (h : ctx.Reliable Live) (n : Nat) (caps : κ) (bytes? : Option (List UInt8)) :
    (Marshal.toManaged ctx caps bytes?).Returns (Live n) fun _ => Live n := by
  rcases bytes? with _ | bytes
  · exact .pure fun _ => id
  · refine (h.newByteArray n bytes.length).monadLift.bind ?_
    rintro (e | array)
    · exact .pure fun _ => id
    · refine (h.construct (n + 1) caps array bytes).monadLift.bind fun built => ?_
      refine (h.releaseBytes n array).monadLift.bind fun _ => ?_
      rcases built with e | string
      · exact .pure fun _ => id
      · refine (Act.returns_count _).bind fun _ => (Act.returns_note _).bind fun _ => ?_
        exact .pure fun _ => id

theorem drain (h : ctx.Reliable Live) (n : Nat) :
    (ManagedBridge.drain ctx).Returns (Live n) fun _ => Live n := by
  refine (h.exceptionPending n).monadLift.bind ?_
  rintro (_ | _)
  · exact .pure fun _ => id
  · refine (h.describeException n).monadLift.bind fun _ => ?_
    refine (h.clearException n).monadLift.bind fun _ => ?_
    refine (Act.returns_count _).bind fun _ => (Act.returns_note _).bind fun _ => ?_
    exact .pure fun _ => id

section Bridges

variable {ρ : Type} (place : Place σ (Bridge ρ κ))

theorem nativeFromManaged [Memory] (h : ctx.Reliable Live) (n : Nat) (string? : Option ς) :
    (Bridge.nativeFromManaged place ctx string?).Returns (Live n) fun _ => Live n := by
  rcases string? with _ | string
  · exact .pure fun _ => id
  · refine (Call.returns_read place).monadLift.bind fun bridge => ?_
    cases hcaps : bridge.capabilities with
    | error e => exact .pure fun _ => id
    | ok caps => exact h.toNative n caps (some string)

theorem managedFromNative (h : ctx.Reliable Live) (n : Nat) (bytes? : Option (List UInt8)) :
    (Bridge.managedFromNative place ctx bytes?).Returns (Live n) fun _ => Live n := by
  rcases bytes? with _ | bytes
  · exact .pure fun _ => id
  · refine (Call.returns_read place).monadLift.bind fun bridge => ?_
    cases hcaps : bridge.capabilities with
    | error e => exact .pure fun _ => id
    | ok caps => exact h.toManaged n caps (some bytes)

theorem stringFromManaged [Memory] (h : ctx.Reliable Live) (n : Nat) (string? : Option ς) :
    (Bridge.stringFromManaged place ctx string?).Returns (Live n) fun _ => Live n := by
  refine (h.nativeFromManaged place n string?).bind ?_
  rintro (e | buffer?) <;> exact .pure fun _ => id

end Bridges

end CallContext.Reliable

end ManagedBridge
