import ManagedBridge.Proofs.Composition

/-!
# What routines take notice of

A routine is confined to a view of the state if what it comes to, and what the view shows in the
end, depend on no more than what the view shows at the start. From two states that look the same a
confined routine goes the same way, whatever else is in them.
-/

namespace ManagedBridge

variable {σ τ α γ δ π θ : Type}

/-- From two states that look the same the routine comes to the same, and leaves states that look
the same. -/
def Routine.Confined (view : σ → π) (r : Routine σ α) : Prop :=
  ∀ s s', view s = view s' →
    (r.run s).1 = (r.run s').1 ∧ view (r.run s).2 = view (r.run s').2

namespace Routine

variable {view : σ → π}

theorem compositional_confined (view : σ → π) :
    Compositional fun (α : Type) (r : Routine σ α) => r.Confined view where
  done _ _ _ hs := ⟨rfl, hs⟩
  panicked _ _ _ hs := ⟨rfl, hs⟩
  handle {_ _ r _ _} hr hresult hpanic := by
    intro s s' hs
    obtain ⟨hended, hleft⟩ := hr s s' hs
    rw [run_handle, run_handle]
    rcases hrun : r.run s with ⟨ended, t⟩
    rcases hrun' : r.run s' with ⟨ended', t'⟩
    simp only [hrun, hrun'] at hended hleft
    subst hended
    cases ended with
    | error panic => exact hpanic panic t t' hleft
    | ok a => exact hresult a t t' hleft

/-- On a lawful place a routine is confined to a view of the whole if it is, alone, confined to what
that shows of the part. -/
theorem Confined.zoom {p : Place σ τ} (hp : p.Lawful) {part : τ → θ}
    (shown : ∀ s s', view s = view s' → part (p.get s) = part (p.get s'))
    (put : ∀ s s' x x', view s = view s' → part x = part x' → view (p.set x s) = view (p.set x' s'))
    {r : Routine τ α} (h : r.Confined part) : (r.zoom p).Confined view := by
  intro s s' hs
  obtain ⟨hended, hleft⟩ := h _ _ (shown s s' hs)
  rw [run_zoom hp, run_zoom hp]
  exact ⟨hended, put s s' _ _ hs hleft⟩

end Routine

/-- The call is confined to what `view` shows of the backend's state. -/
abbrev Call.Confined (view : σ → π) (call : Call σ α) : Prop :=
  Routine.Confined (fun s : Site σ => view s.backend) call

/-- The act is confined to what `view` shows of the backend's state. -/
abbrev Act.Confined (view : σ → π) (act : Act σ α) : Prop :=
  Routine.Confined (fun w : World σ => view w.backend) act

namespace Call

variable {view : σ → π}

theorem compositional_confined (view : σ → π) :
    Routine.Compositional fun (α : Type) (call : Call σ α) => call.Confined view :=
  Routine.compositional_confined _

theorem confined_step {f : σ → α × σ}
    (h : ∀ s s', view s = view s' → (f s).1 = (f s').1 ∧ view (f s).2 = view (f s').2) :
    (step f).Confined view := by
  intro s s' hs
  obtain ⟨hresult, hleft⟩ := h _ _ hs
  exact ⟨congrArg Except.ok hresult, hleft⟩

theorem confined_note (line : LogLine) : (note line : Call σ Unit).Confined view :=
  fun _ _ hs => ⟨rfl, hs⟩

theorem confined_read {p : Place σ α} (shown : ∀ s s', view s = view s' → p.get s = p.get s') :
    (read p).Confined view :=
  confined_step fun s s' hs => ⟨shown s s' hs, hs⟩

theorem confined_tryModify {ε : Type} {p : Place σ α}
    (shown : ∀ s s', view s = view s' → p.get s = p.get s')
    (put : ∀ a s s', view s = view s' → view (p.set a s) = view (p.set a s'))
    (f : α → Except ε α) : (tryModify p f).Confined view := by
  refine confined_step fun s s' hs => ?_
  rw [shown s s' hs]
  cases f (p.get s') with
  | error e => exact ⟨rfl, hs⟩
  | ok a => exact ⟨rfl, put a s s' hs⟩

theorem Confined.monadLift {call : Call σ α} (h : call.Confined view) :
    Act.Confined view (liftM call) := by
  intro w w' hw
  rw [run_monadLift, run_monadLift]
  exact h w.toSite w'.toSite hw

theorem Confined.zoom {p : Place σ τ} (hp : p.Lawful) {part : τ → θ}
    (shown : ∀ s s', view s = view s' → part (p.get s) = part (p.get s'))
    (put : ∀ s s' x x', view s = view s' → part x = part x' → view (p.set x s) = view (p.set x' s'))
    {call : Call τ α} (h : call.Confined part) : (call.zoom p).Confined view :=
  Routine.Confined.zoom hp.site (fun s s' => shown s.backend s'.backend)
    (fun s s' x x' => put s.backend s'.backend x.backend x'.backend) h

end Call

/-- Counts and log are in no view of a backend's state. -/
theorem Act.compositional_confined (view : σ → π) :
    Act.Compositional (fun (α : Type) (call : Call σ α) => call.Confined view)
      fun (α : Type) (act : Act σ α) => act.Confined view where
  calls := Call.compositional_confined view
  acts := Routine.compositional_confined _
  lift := Call.Confined.monadLift
  count _ _ _ hw := ⟨rfl, hw⟩
  note := Call.confined_note

end ManagedBridge
