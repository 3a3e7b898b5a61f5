import Mathlib.Logic.Function.Basic
import ManagedBridge.Routine

/-!
# Pools of routines

Routines that share a state take their steps in any order. What holds of all of them together is
shown by way of a protocol: each routine, taken alone, moves through phases, and what a phase says
of the shared state has to stand every move of the others.
-/

namespace ManagedBridge

variable {ι σ α β φ : Type}

/-- Routines under names from `ι`, with the state that they share. -/
structure Pool (ι σ α : Type) where
  shared : σ
  routines : ι → Routine σ α

namespace Routine

/-- How the routine ended, if it has no more steps to take. -/
def ended? : Routine σ α → Option (Except Panic α)
  | done a => some (.ok a)
  | panicked panic => some (.error panic)
  | step .. => none

/-- From the phase the routine moves as the protocol allows, whatever the others do between its
steps: `Good` is what it may rely on in a phase, `Move` what its steps do, and `Ends` in which phase
it ends how. -/
def Follows (Good : φ → σ → Prop) (Move : φ → σ → φ → σ → Prop) (Ends : φ → Except Panic α → Prop) :
    φ → Routine σ α → Prop
  | phase, done a => Ends phase (.ok a)
  | phase, panicked panic => Ends phase (.error panic)
  | phase, step change next =>
    ∀ s, Good phase s → ∃ phase', Move phase s phase' (change s) ∧
      Follows Good Move Ends phase' (next s)

namespace Follows

variable {Good : φ → σ → Prop} {Move : φ → σ → φ → σ → Prop} {phase : φ}

theorem bind {Ends : φ → Except Panic α → Prop} {Ends' : φ → Except Panic β → Prop}
    {r : Routine σ α} {f : α → Routine σ β} (h : Follows Good Move Ends phase r)
    (onPanic : ∀ phase panic, Ends phase (.error panic) → Ends' phase (.error panic))
    (onResult : ∀ phase a, Ends phase (.ok a) → Follows Good Move Ends' phase (f a)) :
    Follows Good Move Ends' phase (r >>= f) := by
  induction r generalizing phase with
  | done a => exact onResult phase a h
  | panicked panic => exact onPanic phase panic h
  | step change next ih =>
    intro s hs
    obtain ⟨phase', hmove, hnext⟩ := h s hs
    exact ⟨phase', hmove, ih s hnext⟩

/-- A routine that has come to its end does so as its phase says. -/
theorem ends {Ends : φ → Except Panic α → Prop} {r : Routine σ α}
    (h : Follows Good Move Ends phase r) {ended : Except Panic α} (hended : r.ended? = some ended) :
    Ends phase ended := by
  cases r with
  | done | panicked => cases hended; exact h
  | step => cases hended

/-- A single step makes one move, and what comes after goes on from there. -/
theorem single_bind {Ends : φ → Except Panic β → Prop} {f : σ → α × σ} {g : α → Routine σ β}
    (h : ∀ s, Good phase s → ∃ phase', Move phase s phase' (f s).2 ∧
      Follows Good Move Ends phase' (g (f s).1)) :
    Follows Good Move Ends phase (Routine.single f >>= g) :=
  h

end Follows

end Routine

namespace Pool

/-- How the routine `i` ended, if it has. -/
def ended? (p : Pool ι σ α) (i : ι) : Option (Except Panic α) := (p.routines i).ended?

variable [DecidableEq ι]

/-- Lets the routine `i` take its next step, if it has one. -/
def advance (p : Pool ι σ α) (i : ι) : Pool ι σ α :=
  match p.routines i with
  | .step change next => ⟨change p.shared, Function.update p.routines i (next p.shared)⟩
  | _ => p

/-- Lets the routines take steps in the order of the schedule. -/
def run (p : Pool ι σ α) : List ι → Pool ι σ α
  | [] => p
  | i :: schedule => (p.advance i).run schedule

theorem run_append (p : Pool ι σ α) (front back : List ι) :
    p.run (front ++ back) = (p.run front).run back := by
  induction front generalizing p with
  | nil => rfl
  | cons i front ih => exact ih (p.advance i)

/-- A routine that goes on alone comes to its end. -/
theorem exists_run_ended (p : Pool ι σ α) (i : ι) :
    ∃ n, ((p.run (List.replicate n i)).ended? i).isSome := by
  generalize hr : p.routines i = r
  induction r generalizing p with
  | done | panicked => exact ⟨0, by simp [run, ended?, hr, Routine.ended?]⟩
  | step change next ih =>
    have hnext : (p.advance i).routines i = next p.shared := by simp [advance, hr]
    obtain ⟨n, hn⟩ := ih p.shared (p.advance i) hnext
    exact ⟨n + 1, hn⟩

section Protocol

variable {Good : ι → φ → σ → Prop} {Move : ι → φ → σ → φ → σ → Prop}
  {Ends : ι → φ → Except Panic α → Prop}

/-- Every routine follows its protocol from its phase. -/
def Follows (Good : ι → φ → σ → Prop) (Move : ι → φ → σ → φ → σ → Prop)
    (Ends : ι → φ → Except Panic α → Prop) (phases : ι → φ) (p : Pool ι σ α) : Prop :=
  ∀ i, (p.routines i).Follows (Good i) (Move i) (Ends i) (phases i)

/-- A step changes nothing, or it is a move of its routine. -/
theorem Follows.advance {phases : ι → φ} {p : Pool ι σ α} (h : p.Follows Good Move Ends phases)
    {i : ι} (hgood : Good i (phases i) p.shared) :
    p.advance i = p ∨ ∃ phase, Move i (phases i) p.shared phase (p.advance i).shared ∧
      (p.advance i).Follows Good Move Ends (Function.update phases i phase) := by
  have hi := h i
  unfold Pool.advance
  split
  case h_2 => exact .inl rfl
  case h_1 change next hstep =>
    rw [hstep] at hi
    obtain ⟨phase, hmove, hnext⟩ := hi p.shared hgood
    refine .inr ⟨phase, hmove, fun j => ?_⟩
    by_cases hj : j = i
    · subst hj
      simpa using hnext
    · simpa [hj] using h j

/-- What holds at first, and allows every move and stands it, holds after any schedule. -/
theorem Follows.run (Inv : (ι → φ) → σ → Prop)
    (allows : ∀ phases s i, Inv phases s → Good i (phases i) s)
    (stands : ∀ phases s i phase t, Inv phases s → Move i (phases i) s phase t →
      Inv (Function.update phases i phase) t)
    {phases : ι → φ} {p : Pool ι σ α} (h : p.Follows Good Move Ends phases)
    (hinv : Inv phases p.shared) (schedule : List ι) :
    ∃ phases', (p.run schedule).Follows Good Move Ends phases' ∧
      Inv phases' (p.run schedule).shared := by
  induction schedule generalizing p phases with
  | nil => exact ⟨phases, h, hinv⟩
  | cons i schedule ih =>
    rcases h.advance (allows phases p.shared i hinv) with hsame | ⟨phase, hmove, hnext⟩
    · rw [Pool.run, hsame]
      exact ih h hinv
    · exact ih hnext (stands phases p.shared i phase _ hinv hmove)

end Protocol

end Pool

end ManagedBridge
