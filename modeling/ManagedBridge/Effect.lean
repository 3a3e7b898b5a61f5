import ManagedBridge.Event
import ManagedBridge.Log
import ManagedBridge.Routine

/-!
# Effects

A backend's operation is a `Call`: it works on the backend's own state and writes to the log. The
bridge's own operations are `Act`s, which also count events; a call goes on inside an act without
touching the counts.
-/

namespace ManagedBridge

/-- A backend's state, with the log in the order of writing, newest first. -/
structure Site (σ : Type) where
  backend : σ
  log : List LogLine := []

/-- A site with the counts of the bridge's events. -/
structure World (σ : Type) extends Site σ where
  events : Counter := .zero

/-- An operation of a backend with state `σ`. -/
abbrev Call (σ : Type) := Routine (Site σ)

/-- An operation of the bridge over a backend with state `σ`. -/
abbrev Act (σ : Type) := Routine (World σ)

namespace Place

variable {σ τ : Type}

/-- A part of the state, together with the log. -/
def site (p : Place σ τ) : Place (Site σ) (Site τ) :=
  ⟨fun s => ⟨p.get s.backend, s.log⟩, fun t s => ⟨p.set t.backend s.backend, t.log⟩⟩

/-- A part of the state, together with the log and the counts. -/
def world (p : Place σ τ) : Place (World σ) (World τ) :=
  ⟨fun w => ⟨p.site.get w.toSite, w.events⟩, fun v w => ⟨p.site.set v.toSite w.toSite, v.events⟩⟩

/-- A world without its counts. -/
def uncounted : Place (World σ) (Site σ) := ⟨World.toSite, fun s w => { w with toSite := s }⟩

theorem Lawful.site {p : Place σ τ} (hp : p.Lawful) : p.site.Lawful where
  get_set a s := by simp [Place.site, hp.get_set]
  set_get s := by simp [Place.site, hp.set_get]
  set_set a b s := by simp [Place.site, hp.set_set]

theorem Lawful.world {p : Place σ τ} (hp : p.Lawful) : p.world.Lawful where
  get_set a s := by simp [Place.world, hp.site.get_set]
  set_get s := by simp [Place.world, hp.site.set_get]
  set_set a b s := by simp [Place.world, hp.site.set_set]

theorem lawful_uncounted : (uncounted : Place (World σ) (Site σ)).Lawful :=
  ⟨fun _ _ => rfl, fun _ => rfl, fun _ _ _ => rfl⟩

end Place

namespace Call

variable {σ τ α ε : Type}

/-- Writes a log line. -/
def note (line : LogLine) : Call σ Unit :=
  Routine.single fun s => ((), { s with log := line :: s.log })

/-- Ends the computation with a panic. -/
def panic (message : String) : Call σ α := throw (.raised message)

/-- A change of the backend's state that returns a value, made at once. -/
def step (f : σ → α × σ) : Call σ α :=
  Routine.single fun s => ((f s.backend).1, { s with backend := (f s.backend).2 })

def read (p : Place σ α) : Call σ α := step fun s => (p.get s, s)

def write (p : Place σ α) (a : α) : Call σ Unit := step fun s => ((), p.set a s)

/-- Changes a place, unless the change is refused. No one else comes between the two. -/
def tryModify (p : Place σ α) (f : α → Except ε α) : Call σ (Except ε Unit) :=
  step fun s =>
    match f (p.get s) with
    | .ok a => (.ok (), p.set a s)
    | .error e => (.error e, s)

/-- An operation on a part of the state. -/
def zoom (p : Place σ τ) (call : Call τ α) : Call σ α := Routine.zoom p.site call

/-- A backend's operation as seen by the bridge: the counts stay as they are. -/
def inWorld (call : Call σ α) : Act σ α := Routine.zoom .uncounted call

instance : MonadLift (Call σ) (Act σ) := ⟨inWorld⟩

@[simp] theorem run_note (line : LogLine) (s : Site σ) :
    (note line).run s = (.ok (), { s with log := line :: s.log }) := rfl

@[simp] theorem run_step (f : σ → α × σ) (s : Site σ) :
    (step f).run s = (.ok (f s.backend).1, { s with backend := (f s.backend).2 }) := rfl

@[simp] theorem run_read (p : Place σ α) (s : Site σ) :
    (read p).run s = (.ok (p.get s.backend), s) := rfl

@[simp] theorem run_write (p : Place σ α) (a : α) (s : Site σ) :
    (write p a).run s = (.ok (), { s with backend := p.set a s.backend }) := rfl

theorem run_tryModify (p : Place σ α) (f : α → Except ε α) (s : Site σ) :
    (tryModify p f).run s =
      match f (p.get s.backend) with
      | .ok a => (.ok (.ok ()), { s with backend := p.set a s.backend })
      | .error e => (.ok (.error e), s) := by
  rw [tryModify, run_step]
  cases f (p.get s.backend) <;> rfl

/-- On a lawful place a call does to the part what it does alone. -/
theorem run_zoom {p : Place σ τ} (hp : p.Lawful) (call : Call τ α) (s : Site σ) :
    (zoom p call).run s =
      ((call.run (p.site.get s)).1, p.site.set (call.run (p.site.get s)).2 s) :=
  Routine.run_zoom hp.site call s

/-- A call does to a world what it does to the site. -/
theorem run_inWorld (call : Call σ α) (w : World σ) :
    call.inWorld.run w =
      ((call.run w.toSite).1, { w with toSite := (call.run w.toSite).2 }) :=
  Routine.run_zoom Place.lawful_uncounted call w

@[simp] theorem run_monadLift (call : Call σ α) (w : World σ) :
    (liftM call : Act σ α).run w =
      ((call.run w.toSite).1, { w with toSite := (call.run w.toSite).2 }) :=
  run_inWorld call w

end Call

namespace Act

variable {σ τ α : Type}

/-- A change of the counts. -/
def tally (f : Counter → Counter) : Act σ Unit :=
  Routine.single fun w => ((), { w with events := f w.events })

/-- Counts one event. -/
def count (e : BridgeEvent) : Act σ Unit := tally (·.increment e)

/-- Sets all counts to zero, one after the other. -/
def resetEvents : Act σ Unit := BridgeEvent.all.forM fun e => tally (·.resetOne e)

/-- Writes a log line. -/
def note (line : LogLine) : Act σ Unit := (Call.note line).inWorld

/-- An operation on a part of the state, with the same log and the same counts. -/
def zoom (p : Place σ τ) (act : Act τ α) : Act σ α := Routine.zoom p.world act

@[simp] theorem run_count (e : BridgeEvent) (w : World σ) :
    (count e : Act σ Unit).run w = (.ok (), { w with events := w.events.increment e }) := rfl

@[simp] theorem run_note (line : LogLine) (w : World σ) :
    (note line : Act σ Unit).run w = (.ok (), { w with log := line :: w.log }) := rfl

end Act

end ManagedBridge
