import ManagedBridge.Proofs.Composition

/-!
# What routines leave alone

Something that is read off the state, and that a routine does not change, whichever way it ends.
What every call of a context leaves alone is left alone by all that the bridge does with it; a
report of an exception is not among these calls, since reports are kept.
-/

namespace ManagedBridge

variable {σ τ κ ς β ρ α γ π : Type}

/-- Whichever way the routine ends, what `view` shows of the state is as before. -/
def Routine.Preserves (view : σ → π) (r : Routine σ α) : Prop := ∀ s, view (r.run s).2 = view s

namespace Routine.Preserves

variable {view : σ → π}

theorem of_run {r : Routine σ α} (h : Preserves view r) {s t : σ} {ended : Except Panic α}
    (hrun : r.run s = (ended, t)) : view t = view s := by
  rw [← h s, hrun]

theorem compositional (view : σ → π) :
    Compositional fun (α : Type) (r : Routine σ α) => r.Preserves view where
  done _ _ := rfl
  panicked _ _ := rfl
  handle {_ _ r _ _} hr hresult hpanic := by
    intro s
    have hfirst := hr s
    rw [run_handle]
    rcases h : r.run s with ⟨panic | a, t⟩ <;> rw [h] at hfirst
    · exact (hpanic panic t).trans hfirst
    · exact (hresult a t).trans hfirst

theorem pure (a : α) : Preserves view (Pure.pure a : Routine σ α) := fun _ => rfl

theorem bind {r : Routine σ α} {f : α → Routine σ γ} (hr : Preserves view r)
    (hf : ∀ a, Preserves view (f a)) : Preserves view (r >>= f) :=
  (compositional view).bind hr hf

/-- On a lawful place a routine preserves of the whole what is read off its part. -/
theorem zoom {p : Place σ τ} (hp : p.Lawful) {part : τ → γ}
    (read : ∀ s x, part x = part (p.get s) → view (p.set x s) = view s) {r : Routine τ α}
    (hr : Preserves part r) : Preserves view (r.zoom p) := by
  intro s
  rw [run_zoom hp]
  exact read s _ (hr (p.get s))

end Routine.Preserves

/-- Whichever way the call ends, what `view` shows of the backend's state is as before. -/
abbrev Call.Preserves (view : σ → π) (call : Call σ α) : Prop :=
  Routine.Preserves (fun s : Site σ => view s.backend) call

/-- Whichever way the act ends, what `view` shows of the backend's state is as before. -/
abbrev Act.Preserves (view : σ → π) (act : Act σ α) : Prop :=
  Routine.Preserves (fun w : World σ => view w.backend) act

namespace Call

variable {view : σ → π}

theorem preserves_step {f : σ → α × σ} (h : ∀ s, view (f s).2 = view s) :
    (step f).Preserves view :=
  fun s => h s.backend

theorem preserves_read (p : Place σ α) : (read p).Preserves view := fun _ => rfl

theorem Preserves.monadLift {call : Call σ α} (h : call.Preserves view) :
    Act.Preserves view (liftM call) := by
  intro w
  rw [run_monadLift]
  exact h w.toSite

theorem Preserves.zoom {p : Place σ τ} (hp : p.Lawful) {part : τ → γ}
    (read : ∀ s x, part x = part (p.get s) → view (p.set x s) = view s) {call : Call τ α}
    (h : call.Preserves part) : (call.zoom p).Preserves view :=
  Routine.Preserves.zoom hp.site (fun s x => read s.backend x.backend) h

/-- A place whose content is not seen can be changed. -/
theorem preserves_tryModify {ε : Type} {p : Place σ α} (unseen : ∀ a s, view (p.set a s) = view s)
    (f : α → Except ε α) : (tryModify p f).Preserves view := by
  refine preserves_step fun s => ?_
  cases f (p.get s) with
  | error e => rfl
  | ok a => exact unseen a s

end Call

theorem Act.compositional_preserves (view : σ → π) :
    Act.Compositional (fun (α : Type) (call : Call σ α) => call.Preserves view)
      fun (α : Type) (act : Act σ α) => act.Preserves view where
  calls := Routine.Preserves.compositional _
  acts := Routine.Preserves.compositional _
  lift := Call.Preserves.monadLift
  count _ _ := rfl
  note _ _ := rfl

/-- What `view` shows is left alone by all calls of the context but reports of an exception. -/
structure CallContext.Preserves (view : σ → π) (ctx : CallContext σ κ ς β) : Prop where
  resolveCapabilities : ctx.resolveCapabilities.Preserves view
  stringBytes : ∀ caps string, (ctx.stringBytes caps string).Preserves view
  byteArrayLen : ∀ array, (ctx.byteArrayLen array).Preserves view
  readByteArray : ∀ array len, (ctx.readByteArray array len).Preserves view
  newByteArray : ∀ len, (ctx.newByteArray len).Preserves view
  writeByteArray : ∀ array bytes, (ctx.writeByteArray array bytes).Preserves view
  newString : ∀ caps array, (ctx.newString caps array).Preserves view
  releaseBytes : ∀ array, (ctx.releaseBytes array).Preserves view
  exceptionPending : ctx.exceptionPending.Preserves view
  clearException : ctx.clearException.Preserves view

namespace CallContext.Preserves

variable {view : σ → π} {ctx : CallContext σ κ ς β}

theorem zoom {ctx : CallContext τ κ ς β} {p : Place σ τ} (hp : p.Lawful) {part : τ → γ}
    (read : ∀ s x, part x = part (p.get s) → view (p.set x s) = view s) (h : ctx.Preserves part) :
    (ctx.zoom p).Preserves view where
  resolveCapabilities := h.resolveCapabilities.zoom hp read
  stringBytes caps string := (h.stringBytes caps string).zoom hp read
  byteArrayLen array := (h.byteArrayLen array).zoom hp read
  readByteArray array len := (h.readByteArray array len).zoom hp read
  newByteArray len := (h.newByteArray len).zoom hp read
  writeByteArray array bytes := (h.writeByteArray array bytes).zoom hp read
  newString caps array := (h.newString caps array).zoom hp read
  releaseBytes array := (h.releaseBytes array).zoom hp read
  exceptionPending := h.exceptionPending.zoom hp read
  clearException := h.clearException.zoom hp read

theorem meets (h : ctx.Preserves view) :
    ctx.Meets fun (α : Type) (call : Call σ α) => call.Preserves view where
  resolveCapabilities := h.resolveCapabilities
  stringBytes := h.stringBytes
  byteArrayLen := h.byteArrayLen
  readByteArray := h.readByteArray
  newByteArray := h.newByteArray
  writeByteArray := h.writeByteArray
  newString := h.newString
  releaseBytes := h.releaseBytes
  exceptionPending := h.exceptionPending
  clearException := h.clearException

theorem toNative [Memory] (h : ctx.Preserves view) (caps : κ) (string? : Option ς) :
    (Marshal.toNative ctx caps string?).Preserves view :=
  h.meets.toNative (Act.compositional_preserves view) caps string?

theorem toManaged (h : ctx.Preserves view) (caps : κ) (bytes? : Option (List UInt8)) :
    (Marshal.toManaged ctx caps bytes?).Preserves view :=
  h.meets.toManaged (Act.compositional_preserves view) caps bytes?

section Bridges

variable {place : Place σ (Bridge ρ κ)}

theorem nativeFromManaged [Memory] (h : ctx.Preserves view) (string? : Option ς) :
    (Bridge.nativeFromManaged place ctx string?).Preserves view :=
  h.meets.nativeFromManaged (Act.compositional_preserves view) (Call.preserves_read place) string?

theorem managedFromNative (h : ctx.Preserves view) (bytes? : Option (List UInt8)) :
    (Bridge.managedFromNative place ctx bytes?).Preserves view :=
  h.meets.managedFromNative (Act.compositional_preserves view) (Call.preserves_read place) bytes?

theorem stringFromManaged [Memory] (h : ctx.Preserves view) (string? : Option ς) :
    (Bridge.stringFromManaged place ctx string?).Preserves view :=
  h.meets.stringFromManaged (Act.compositional_preserves view) (Call.preserves_read place) string?

/-- Starting a bridge that is not seen is not seen either. -/
theorem start (h : ctx.Preserves view) (unseen : ∀ b s, view (place.set b s) = view s)
    (runtime : ρ) : (Bridge.start place runtime ctx).Preserves view :=
  h.meets.start (Act.compositional_preserves view) (Call.preserves_read place)
    (Call.preserves_read _) (Call.preserves_tryModify fun _ _ => unseen _ _)
    (Call.preserves_tryModify fun _ _ => unseen _ _) runtime

end Bridges

end CallContext.Preserves

end ManagedBridge
