import ManagedBridge.Place

/-!
# Routines

A routine works on a state that it may share with others. It goes by steps, each of which reads and
changes the state at once; between two steps the state may change. `run` lets a routine go through
without a break. What a routine has done to the state stays done when it panics, so that a scope can
still be ended while a panic unwinds.
-/

namespace ManagedBridge

/-- Why a routine ended without a result. -/
inductive Panic
  | raised (message : String)
  /-- A second panic while the first was unwinding; nothing goes on after it. -/
  | abort
  deriving DecidableEq, Repr

inductive Routine (σ α : Type)
  | done (result : α)
  | panicked (panic : Panic)
  /-- Changes the state, and goes on in a way that depends on the state before the change. -/
  | step (change : σ → σ) (next : σ → Routine σ α)

namespace Routine

variable {σ τ α β γ : Type}

/-- Goes on after `r`, whichever way it ends. -/
def handle (r : Routine σ α) (onResult : α → Routine σ β) (onPanic : Panic → Routine σ β) :
    Routine σ β :=
  match r with
  | done a => onResult a
  | panicked p => onPanic p
  | step change next => step change fun s => (next s).handle onResult onPanic

instance : Monad (Routine σ) where
  pure := done
  bind r f := r.handle f panicked

instance : MonadExceptOf Panic (Routine σ) where
  throw := panicked
  tryCatch r f := r.handle done f

/-- A single step that returns a value. -/
def single (f : σ → α × σ) : Routine σ α := step (fun s => (f s).2) fun s => done (f s).1

/-- Lets a routine go through: how it ends, and the state that it leaves. -/
def run : Routine σ α → σ → Except Panic α × σ
  | done a, s => (.ok a, s)
  | panicked p, s => (.error p, s)
  | step change next, s => (next s).run (change s)

/-- A routine on a part of the state; it takes the same steps there. -/
def zoom (p : Place σ τ) : Routine τ α → Routine σ α
  | done a => done a
  | panicked panic => panicked panic
  | step change next => step (p.modify change) fun s => (next (p.get s)).zoom p

/-- Runs `body` and then `last`, also when `body` panics. A panic of `last` while another unwinds
ends everything. -/
def andFinally (body : Routine σ α) (last : Routine σ Unit) : Routine σ α :=
  body.handle
    (fun a => last.handle (fun _ => done a) panicked)
    fun
      | .raised message =>
        last.handle (fun _ => panicked (.raised message)) fun _ => panicked .abort
      | .abort => panicked .abort

/-- Runs `body` and turns a panic into its message. -/
def caught (body : Routine σ α) : Routine σ (Except String α) :=
  body.handle (fun a => done (.ok a)) fun
    | .raised message => done (.error message)
    | .abort => panicked .abort

theorem handle_handle (r : Routine σ α) (f : α → Routine σ β) (g : Panic → Routine σ β)
    (f' : β → Routine σ γ) (g' : Panic → Routine σ γ) :
    (r.handle f g).handle f' g' =
      r.handle (fun a => (f a).handle f' g') fun p => (g p).handle f' g' := by
  induction r with
  | done | panicked => rfl
  | step change next ih => simp only [handle, ih]

theorem handle_done_panicked (r : Routine σ α) : r.handle done panicked = r := by
  induction r with
  | done | panicked => rfl
  | step change next ih => simp only [handle, ih]

instance : LawfulMonad (Routine σ) :=
  LawfulMonad.mk' _ handle_done_panicked (fun _ _ => rfl)
    fun r f g => handle_handle r f panicked g panicked

@[simp] theorem run_done (a : α) (s : σ) : (done a).run s = (.ok a, s) := rfl

@[simp] theorem run_pure (a : α) (s : σ) : (pure a : Routine σ α).run s = (.ok a, s) := rfl

@[simp] theorem run_panicked (p : Panic) (s : σ) :
    (panicked p : Routine σ α).run s = (.error p, s) := rfl

@[simp] theorem run_throw (p : Panic) (s : σ) :
    (throw p : Routine σ α).run s = (.error p, s) := rfl

@[simp] theorem run_step (change : σ → σ) (next : σ → Routine σ α) (s : σ) :
    (step change next).run s = (next s).run (change s) := rfl

@[simp] theorem run_single (f : σ → α × σ) (s : σ) :
    (single f).run s = (.ok (f s).1, (f s).2) := rfl

theorem run_handle (r : Routine σ α) (f : α → Routine σ β) (g : Panic → Routine σ β) (s : σ) :
    (r.handle f g).run s =
      match r.run s with
      | (.ok a, t) => (f a).run t
      | (.error p, t) => (g p).run t := by
  induction r generalizing s with
  | done | panicked => rfl
  | step change next ih => exact ih s (change s)

theorem run_bind (r : Routine σ α) (f : α → Routine σ β) (s : σ) :
    (r >>= f).run s =
      match r.run s with
      | (.ok a, t) => (f a).run t
      | (.error p, t) => (.error p, t) :=
  run_handle r f panicked s

/-- What returns is gone on from. -/
theorem run_bind_ok {r : Routine σ α} {s t : σ} {a : α} (h : r.run s = (.ok a, t))
    (f : α → Routine σ β) : (r >>= f).run s = (f a).run t := by
  rw [run_bind, h]

theorem run_bind_error {r : Routine σ α} {s t : σ} {p : Panic} (h : r.run s = (.error p, t))
    (f : α → Routine σ β) : (r >>= f).run s = (.error p, t) := by
  rw [run_bind, h]

theorem run_map (f : α → β) (r : Routine σ α) (s : σ) :
    (f <$> r).run s =
      match r.run s with
      | (.ok a, t) => (.ok (f a), t)
      | (.error p, t) => (.error p, t) := by
  rw [map_eq_pure_bind, run_bind]; rfl

theorem run_andFinally (body : Routine σ α) (last : Routine σ Unit) (s : σ) :
    (body.andFinally last).run s =
      match body.run s with
      | (.ok a, t) =>
        match last.run t with
        | (.ok _, u) => (.ok a, u)
        | (.error p, u) => (.error p, u)
      | (.error (.raised message), t) =>
        match last.run t with
        | (.ok _, u) => (.error (.raised message), u)
        | (.error _, u) => (.error .abort, u)
      | (.error .abort, t) => (.error .abort, t) := by
  rw [andFinally, run_handle]
  rcases body.run s with ⟨p | a, t⟩
  · cases p with
    | raised message =>
      simp only [run_handle]
      rcases last.run t with ⟨_ | _, u⟩ <;> rfl
    | abort => rfl
  · simp only [run_handle]
    rcases last.run t with ⟨_ | _, u⟩ <;> rfl

theorem run_caught (body : Routine σ α) (s : σ) :
    body.caught.run s =
      match body.run s with
      | (.ok a, t) => (.ok (.ok a), t)
      | (.error (.raised message), t) => (.ok (.error message), t)
      | (.error .abort, t) => (.error .abort, t) := by
  rw [caught, run_handle]
  rcases body.run s with ⟨p | a, t⟩
  · cases p <;> rfl
  · rfl

/-- On a lawful place a routine does to the part what it does to a whole, and nothing else. -/
theorem run_zoom {p : Place σ τ} (hp : p.Lawful) (r : Routine τ α) (s : σ) :
    (r.zoom p).run s = ((r.run (p.get s)).1, p.set (r.run (p.get s)).2 s) := by
  induction r generalizing s with
  | done | panicked => simp [zoom, hp.set_get]
  | step change next ih => simp [zoom, ih, Place.modify, hp.get_set, hp.set_set]

theorem zoom_handle (p : Place σ τ) (r : Routine τ α) (f : α → Routine τ β)
    (g : Panic → Routine τ β) :
    (r.handle f g).zoom p = (r.zoom p).handle (fun a => (f a).zoom p) fun e => (g e).zoom p := by
  induction r with
  | done | panicked => rfl
  | step change next ih => simp only [handle, zoom, ih]

@[simp] theorem zoom_pure (p : Place σ τ) (a : α) :
    (pure a : Routine τ α).zoom p = pure a := rfl

theorem zoom_bind (p : Place σ τ) (r : Routine τ α) (f : α → Routine τ β) :
    (r >>= f).zoom p = r.zoom p >>= fun a => (f a).zoom p :=
  zoom_handle p r f panicked

end Routine

end ManagedBridge
