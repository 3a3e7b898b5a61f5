import Mathlib.Data.List.Induction
import ManagedBridge.Proofs.Pool

/-!
# Running alone and running among others

A routine that takes its steps among those of others is compared with one that takes them alone. The
two mirror each other if, step by step, they move alike and end alike. A whole pool then does for
every routine what it would do for it alone, as long as the moves of one routine do not come between
those of another.
-/

namespace ManagedBridge

variable {ι φ σ τ α β γ δ : Type}

/-- How a state of a routine that runs alone is compared with a state that it shares with others. -/
structure Mirror (φ σ : Type) where
  /-- In a phase, the first state is as the second to the routine. -/
  Alike : φ → σ → σ → Prop
  /-- From such states, and a phase, the routine comes to such states again, and a next phase. -/
  Move : φ → σ → σ → φ → σ → σ → Prop

namespace Routine

variable {M : Mirror φ σ} {Ends : φ → σ → Except Panic α → Except Panic β → Prop}
  {Ends' : φ → σ → Except Panic γ → Except Panic δ → Prop} {phase : φ} {s : σ}
  {r : Routine σ α} {r' : Routine σ β}

/-- The first routine, which runs alone from the state, and the second, which runs among others,
make the same moves and end as `Ends` says, in a phase and with the first routine's last state. -/
def Mirrors (M : Mirror φ σ) (Ends : φ → σ → Except Panic α → Except Panic β → Prop) :
    φ → σ → Routine σ α → Routine σ β → Prop
  | phase, s, done a, done b => Ends phase s (.ok a) (.ok b)
  | phase, s, panicked panic, panicked panic' => Ends phase s (.error panic) (.error panic')
  | phase, s, step change next, step change' next' =>
    ∀ s', M.Alike phase s s' → ∃ phase', M.Move phase s s' phase' (change s) (change' s') ∧
      Mirrors M Ends phase' (change s) (next s) (next' s')
  | _, _, _, _ => False

/-- Both return, and `P` holds of the results. -/
def Returning (P : φ → σ → α → β → Prop) (phase : φ) (s : σ) (x : Except Panic α)
    (y : Except Panic β) : Prop :=
  ∃ a b, x = .ok a ∧ y = .ok b ∧ P phase s a b

namespace Mirrors

/-- What follows mirrors each other whichever way the first parts end. -/
theorem handle {f : α → Routine σ γ} {g : Panic → Routine σ γ} {f' : β → Routine σ δ}
    {g' : Panic → Routine σ δ} (h : Mirrors M Ends phase s r r')
    (onResult : ∀ phase' t a b, Ends phase' t (.ok a) (.ok b) →
      Mirrors M Ends' phase' t (f a) (f' b))
    (onPanic : ∀ phase' t panic panic', Ends phase' t (.error panic) (.error panic') →
      Mirrors M Ends' phase' t (g panic) (g' panic')) :
    Mirrors M Ends' phase s (r.handle f g) (r'.handle f' g') := by
  induction r generalizing phase s r' with
  | done a =>
    cases r' with
    | done b => exact onResult phase s a b h
    | panicked | step => exact h.elim
  | panicked panic =>
    cases r' with
    | panicked panic' => exact onPanic phase s panic panic' h
    | done | step => exact h.elim
  | step change next ih =>
    cases r' with
    | done | panicked => exact h.elim
    | step change' next' =>
      intro s' hs
      obtain ⟨phase', hmove, hnext⟩ := h s' hs
      exact ⟨phase', hmove, ih s hnext⟩

theorem bind {f : α → Routine σ γ} {f' : β → Routine σ δ} (h : Mirrors M Ends phase s r r')
    (onResult : ∀ phase' t a b, Ends phase' t (.ok a) (.ok b) →
      Mirrors M Ends' phase' t (f a) (f' b))
    (onPanic : ∀ phase' t panic panic', Ends phase' t (.error panic) (.error panic') →
      Ends' phase' t (.error panic) (.error panic')) :
    Mirrors M Ends' phase s (r >>= f) (r' >>= f') :=
  h.handle onResult onPanic

theorem mono {Ends' : φ → σ → Except Panic α → Except Panic β → Prop}
    (h : Mirrors M Ends phase s r r')
    (hends : ∀ phase' t x y, Ends phase' t x y → Ends' phase' t x y) :
    Mirrors M Ends' phase s r r' := by
  induction r generalizing phase s r' with
  | done | panicked =>
    cases r' with
    | done | panicked => first | exact hends _ _ _ _ h | exact h.elim
    | step => exact h.elim
  | step change next ih =>
    cases r' with
    | done | panicked => exact h.elim
    | step change' next' =>
      intro s' hs
      obtain ⟨phase', hmove, hnext⟩ := h s' hs
      exact ⟨phase', hmove, ih s hnext⟩

/-- The routine that runs alone ends as it does when it goes through. -/
theorem with_run (h : Mirrors M Ends phase s r r') :
    Mirrors M (fun phase' t x y => Ends phase' t x y ∧ r.run s = (x, t)) phase s r r' := by
  induction r generalizing phase s r' with
  | done | panicked =>
    cases r' with
    | done | panicked => first | exact ⟨h, rfl⟩ | exact h.elim
    | step => exact h.elim
  | step change next ih =>
    cases r' with
    | done | panicked => exact h.elim
    | step change' next' =>
      intro s' hs
      obtain ⟨phase', hmove, hnext⟩ := h s' hs
      exact ⟨phase', hmove, ih s hnext⟩

/-- What returns on both sides is gone on from. -/
theorem bind_returning {P : φ → σ → α → β → Prop} {f : α → Routine σ γ} {f' : β → Routine σ δ}
    (h : Mirrors M (Returning P) phase s r r')
    (next : ∀ phase' t a b, P phase' t a b → Mirrors M Ends' phase' t (f a) (f' b)) :
    Mirrors M Ends' phase s (r >>= f) (r' >>= f') := by
  refine h.bind (fun phase' t a b => ?_) fun phase' t panic panic' => ?_
  · rintro ⟨_, _, ⟨⟩, ⟨⟩, hab⟩
    exact next phase' t a b hab
  · rintro ⟨_, _, ⟨⟩, -⟩

theorem pure {P : φ → σ → α → β → Prop} {a : α} {b : β} (h : P phase s a b) :
    Mirrors M (Returning P) phase s (Pure.pure a) (Pure.pure b) :=
  ⟨a, b, rfl, rfl, h⟩

/-- A single step on each side. -/
theorem single {f : σ → α × σ} {f' : σ → β × σ}
    (h : ∀ s', M.Alike phase s s' → ∃ phase', M.Move phase s s' phase' (f s).2 (f' s').2 ∧
      Ends phase' (f s).2 (.ok (f s).1) (.ok (f' s').1)) :
    Mirrors M Ends phase s (Routine.single f) (Routine.single f') :=
  h

/-- On a lawful place routines mirror each other as they do on its part, if what is alike as a
whole is alike in that part, and a move of the part is a move of the whole. -/
theorem zoom {p : Place τ σ} (hp : p.Lawful) {N : Mirror φ τ} {whole : τ}
    (alike : ∀ phase x x', N.Alike phase x x' → M.Alike phase (p.get x) (p.get x'))
    (move : ∀ phase x x' phase' t t', N.Alike phase x x' →
      M.Move phase (p.get x) (p.get x') phase' t t' →
      N.Move phase x x' phase' (p.set t x) (p.set t' x'))
    (h : Mirrors M Ends phase (p.get whole) r r') :
    Mirrors N (fun phase' x => Ends phase' (p.get x)) phase whole (r.zoom p) (r'.zoom p) := by
  induction r generalizing phase whole r' with
  | done | panicked =>
    cases r' with
    | done | panicked => exact h
    | step => exact h.elim
  | step change next ih =>
    cases r' with
    | done | panicked => exact h.elim
    | step change' next' =>
      intro x' hx
      obtain ⟨phase', hmove, hnext⟩ := h (p.get x') (alike _ _ _ hx)
      refine ⟨phase', move _ _ _ _ _ _ hx hmove, ih (p.get whole) ?_⟩
      exact (hp.get_set _ _).symm ▸ hnext

/-- If what is made alike ends alike, the one has ended as the other has, or neither has. -/
theorem ended?_eq {Ends : φ → σ → Except Panic α → Except Panic α → Prop} {r r' : Routine σ α}
    (h : Mirrors M Ends phase s r r') (same : ∀ phase t x y, Ends phase t x y → x = y) :
    r.ended? = r'.ended? := by
  cases r with
  | done | panicked =>
    cases r' with
    | done | panicked =>
      first
      | exact congrArg some (same _ _ _ _ h)
      | exact h.elim
    | step => exact h.elim
  | step =>
    cases r' with
    | done | panicked => exact h.elim
    | step => rfl

end Mirrors

end Routine

namespace Pool

variable [DecidableEq ι] {M : ι → Mirror φ σ}
  {Ends : φ → σ → Except Panic α → Except Panic α → Prop}

/-- The pool after the routine `i` alone has taken its steps of the schedule. -/
def alone (p : Pool ι σ α) (schedule : List ι) (i : ι) : Pool ι σ α :=
  p.run (schedule.filter (· = i))

/-- Every routine goes on in the pool as it does alone, and `Inv` ties the states that the routines
come to alone to the one that they share. -/
structure Reflected (M : ι → Mirror φ σ) (Ends : φ → σ → Except Panic α → Except Panic α → Prop)
    (Inv : (ι → φ) → (ι → σ) → σ → Prop) (phases : ι → φ) (apart : ι → Pool ι σ α)
    (p : Pool ι σ α) : Prop where
  mirrors : ∀ i, ((apart i).routines i).Mirrors (M i) Ends (phases i) (apart i).shared
    (p.routines i)
  invariant : Inv phases (fun i => (apart i).shared) p.shared

variable {Inv : (ι → φ) → (ι → σ) → σ → Prop}

theorem advance_step {p : Pool ι σ α} {i : ι} {change : σ → σ} {next : σ → Routine σ α}
    (h : p.routines i = .step change next) :
    p.advance i = ⟨change p.shared, Function.update p.routines i (next p.shared)⟩ := by
  rw [advance, h]

theorem advance_ended {p : Pool ι σ α} {i : ι} (h : (p.routines i).ended?.isSome) :
    p.advance i = p := by
  unfold advance
  split
  · next hstep => rw [hstep] at h; cases h
  · rfl

/-- If a routine takes a step in the pool and alone, the pool goes on reflecting. -/
theorem Reflected.advance {phases : ι → φ} {apart : ι → Pool ι σ α} {p : Pool ι σ α}
    (h : Reflected M Ends Inv phases apart p)
    (alike : ∀ phases solos s i, Inv phases solos s → (M i).Alike (phases i) (solos i) s)
    {i : ι} (moves : ∀ phases solos s phase t t', Inv phases solos s →
      (M i).Move (phases i) (solos i) s phase t t' →
      Inv (Function.update phases i phase) (Function.update solos i t) t') :
    ∃ phases', Reflected M Ends Inv phases'
      (Function.update apart i ((apart i).advance i)) (p.advance i) := by
  have hi := h.mirrors i
  cases hr : (apart i).routines i with
  | done | panicked =>
    rw [hr] at hi
    refine ⟨phases, ?_⟩
    have hapart : (apart i).advance i = apart i := advance_ended (by rw [hr]; rfl)
    have hp : p.advance i = p := by
      refine advance_ended ?_
      cases hr' : p.routines i <;> rw [hr'] at hi <;> first | rfl | exact hi.elim
    rw [hapart, hp, Function.update_eq_self]
    exact h
  | step change next =>
    cases hr' : p.routines i with
    | done | panicked => rw [hr, hr'] at hi; exact hi.elim
    | step change' next' =>
      rw [hr, hr'] at hi
      obtain ⟨phase, hmove, hnext⟩ := hi p.shared (alike _ _ _ i h.invariant)
      refine ⟨Function.update phases i phase, fun j => ?_, ?_⟩
      · rw [advance_step hr, advance_step hr']
        by_cases hj : j = i
        · subst hj
          simpa using hnext
        · simpa [hj] using h.mirrors j
      · rw [advance_step hr, advance_step hr']
        refine (congrArg (Inv _ · _) (funext fun j => ?_)).mp
          (moves _ _ _ phase _ _ h.invariant hmove)
        by_cases hj : j = i
        · subst hj
          simp
        · simp [hj]

/-- Whatever the schedule, every routine does in the pool what it does alone. -/
theorem reflected_run {phases : ι → φ} {p : Pool ι σ α}
    (h : Reflected M Ends Inv phases (fun _ => p) p)
    (alike : ∀ phases solos s i, Inv phases solos s → (M i).Alike (phases i) (solos i) s)
    (schedule : List ι)
    (moves : ∀ i ∈ schedule, ∀ phases solos s phase t t', Inv phases solos s →
      (M i).Move (phases i) (solos i) s phase t t' →
      Inv (Function.update phases i phase) (Function.update solos i t) t') :
    ∃ phases', Reflected M Ends Inv phases' (p.alone schedule) (p.run schedule) := by
  induction schedule using List.reverseRecOn with
  | nil => exact ⟨phases, h⟩
  | append_singleton schedule i ih =>
    obtain ⟨phases', hreflected⟩ := ih fun j hj => moves j (List.mem_append_left _ hj)
    have hi : i ∈ schedule ++ [i] := List.mem_append_right _ (List.mem_singleton_self i)
    obtain ⟨phases'', hnext⟩ := hreflected.advance alike (moves i hi)
    refine ⟨phases'', ?_⟩
    have hrun : p.run (schedule ++ [i]) = (p.run schedule).advance i := p.run_append schedule [i]
    have halone : p.alone (schedule ++ [i]) =
        Function.update (p.alone schedule) i ((p.alone schedule i).advance i) := by
      funext j
      rw [alone, List.filter_append]
      by_cases hj : j = i
      · subst hj
        simp only [decide_true, List.filter_cons_of_pos, List.filter_nil, run_append,
          Function.update_self]
        rfl
      · rw [List.filter_cons_of_neg (by simpa using Ne.symm hj), List.filter_nil, List.append_nil,
          Function.update_of_ne hj]
        rfl
    rw [hrun, halone]
    exact hnext

end Pool

end ManagedBridge
