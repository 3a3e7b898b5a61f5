import ManagedBridge.Bridge

/-!
# Conversions on a part of the state

A conversion through a context that works on a part of the state is the conversion on that part.
-/

namespace ManagedBridge

variable {σ τ κ ς β γ α : Type}

theorem Routine.zoom_zoom (p : Place τ σ) (q : Place σ γ) (r : Routine γ α) :
    (r.zoom q).zoom p = r.zoom (p.inside q) := by
  induction r with
  | done | panicked => rfl
  | step change next ih =>
    simp only [Routine.zoom, ih]
    rfl

/-- Routines that work, one after the other, on a part. -/
theorem Routine.bind_zoom {p : Place σ τ} {first : Routine σ α} {next : α → Routine σ γ}
    {inner : Routine τ α} {rest : α → Routine τ γ} (hfirst : first = inner.zoom p)
    (hnext : ∀ a, next a = (rest a).zoom p) : first >>= next = (inner >>= rest).zoom p := by
  rw [zoom_bind, hfirst, funext hnext]

namespace Act

variable {p : Place σ τ}

theorem zoom_monadLift (p : Place σ τ) (call : Call τ α) :
    (liftM (call.zoom p) : Act σ α) = .zoom p (liftM call) :=
  (Routine.zoom_zoom .uncounted p.site call).trans
    (Routine.zoom_zoom p.world .uncounted call).symm

theorem zoom_count (hp : p.Lawful) (event : BridgeEvent) :
    zoom p (count event : Act τ Unit) = count event := by
  refine congrArg (Routine.step · _) (funext fun w => ?_)
  simp only [Place.modify, Place.world, Place.site, hp.set_get]

theorem zoom_note (hp : p.Lawful) (line : LogLine) :
    zoom p (note line : Act τ Unit) = note line := by
  refine congrArg (Routine.step · _) (funext fun w => ?_)
  simp only [Place.modify, Place.world, Place.site, Place.uncounted, hp.set_get]

end Act

namespace Marshal

variable {p : Place σ τ}

theorem copyOut_zoom [Memory] (p : Place σ τ) (ctx : CallContext τ κ ς β) (array : β) :
    copyOut (ctx.zoom p) array = .zoom p (copyOut ctx array) := by
  refine Routine.bind_zoom rfl fun len => ?_
  rcases len with e | len
  · rfl
  by_cases hfits : ByteBuffer.fits len
  · simp only [hfits, if_true]
    exact Routine.bind_zoom rfl fun bytes => by cases bytes <;> rfl
  · simp only [hfits, if_false, Bool.false_eq_true]
    rfl

theorem construct_zoom (p : Place σ τ) (ctx : CallContext τ κ ς β) (caps : κ) (array : β)
    (bytes : List UInt8) :
    construct (ctx.zoom p) caps array bytes = .zoom p (construct ctx caps array bytes) := by
  refine Routine.bind_zoom rfl fun written => ?_
  match written with
  | .error e => rfl
  | .ok () => exact Routine.bind_zoom rfl fun string => by cases string <;> rfl

/-- What is done at the end of a conversion concerns no part of the state. -/
theorem finish_zoom (hp : p.Lawful) (event : BridgeEvent) (line : LogLine) (a : α) :
    (do Act.count event; Act.note line; return a : Act σ α) =
      .zoom p (do Act.count event; Act.note line; return a) := by
  refine Routine.bind_zoom (Act.zoom_count hp event).symm fun _ => ?_
  exact Routine.bind_zoom (Act.zoom_note hp line).symm fun _ => rfl

theorem toNative_zoom [Memory] (hp : p.Lawful) (ctx : CallContext τ κ ς β) (caps : κ)
    (string? : Option ς) :
    toNative (ctx.zoom p) caps string? = .zoom p (toNative ctx caps string?) := by
  cases string? with
  | none => rfl
  | some string =>
    refine Routine.bind_zoom (Act.zoom_monadLift p _) fun obtained => ?_
    cases obtained with
    | error e => rfl
    | ok array =>
      refine Routine.bind_zoom ?_ fun copied => ?_
      · rw [copyOut_zoom]
        exact Act.zoom_monadLift p _
      refine Routine.bind_zoom (Act.zoom_monadLift p _) fun _ => ?_
      cases copied with
      | error e => rfl
      | ok buffer => exact finish_zoom hp _ _ _

theorem toManaged_zoom (hp : p.Lawful) (ctx : CallContext τ κ ς β) (caps : κ)
    (bytes? : Option (List UInt8)) :
    toManaged (ctx.zoom p) caps bytes? = .zoom p (toManaged ctx caps bytes?) := by
  cases bytes? with
  | none => rfl
  | some bytes =>
    refine Routine.bind_zoom (Act.zoom_monadLift p _) fun obtained => ?_
    cases obtained with
    | error e => rfl
    | ok array =>
      refine Routine.bind_zoom ?_ fun built => ?_
      · rw [construct_zoom]
        exact Act.zoom_monadLift p _
      refine Routine.bind_zoom (Act.zoom_monadLift p _) fun _ => ?_
      cases built with
      | error e => rfl
      | ok string => exact finish_zoom hp _ _ _

end Marshal

end ManagedBridge
