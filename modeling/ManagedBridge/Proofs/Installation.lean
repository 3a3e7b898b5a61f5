import ManagedBridge.Bridge
import ManagedBridge.Proofs.Ledger
import ManagedBridge.Proofs.Scope

/-!
# Installations

Any number of in-process runtimes and of bridges over them. An operation on one runtime leaves the
others alone. Seen from the ledgers, a scope either attaches its thread and detaches it again or
does nothing at all, and what is done with a context does nothing.
-/

namespace ManagedBridge

open InProcess

/-- Runtimes, with names from `ρ`, and bridges over them, with names from `ι`. -/
structure Installation (ρ ι : Type) where
  runtimes : ρ → State
  bridges : ι → Bridge ρ Capabilities

/-- What is done with a context, and the type of what it gives. -/
inductive ContextUse (ι : Type) : Type → Type
  | toNative (caps : Capabilities) (string? : Option String) :
    ContextUse ι (Except BridgeError (Option ByteBuffer))
  | toManaged (caps : Capabilities) (bytes? : Option (List UInt8)) :
    ContextUse ι (Except BridgeError (Option String))
  | nativeFromManaged (bridge : ι) (string? : Option String) :
    ContextUse ι (Except BridgeError (Option ByteBuffer))
  | managedFromNative (bridge : ι) (bytes? : Option (List UInt8)) :
    ContextUse ι (Except BridgeError (Option String))
  | stringFromManaged (bridge : ι) (string? : Option String) :
    ContextUse ι (Except BridgeError (Option String))
  | throwException (message : String) : ContextUse ι Unit
  | drain : ContextUse ι Bool

namespace Installation

variable {ρ ι α : Type} [DecidableEq ρ]

def runtimeAt (r : ρ) : Place (Installation ρ ι) State :=
  ⟨fun s => s.runtimes r, fun x s => { s with runtimes := Function.update s.runtimes r x }⟩

def bridgeAt [DecidableEq ι] (b : ι) : Place (Installation ρ ι) (Bridge ρ Capabilities) :=
  ⟨fun s => s.bridges b, fun x s => { s with bridges := Function.update s.bridges b x }⟩

/-- A call on one runtime, past all bridges. -/
def direct (r : ρ) (call : Call State α) : Act (Installation ρ ι) α :=
  (call.zoom (runtimeAt r)).inWorld

/-- The context of a thread with a runtime. -/
def context (ref : ρ × ThreadId) :
    CallContext (Installation ρ ι) Capabilities String ArrayId :=
  (InProcess.context ref.2).zoom (runtimeAt ref.1)

/-- A runtime as a thread sees it. -/
def managedRuntime (t : ThreadId) (r : ρ) : ManagedRuntime (Installation ρ ι) (ρ × ThreadId) where
  currentContext := do
    return (← (InProcess.managedRuntime t).currentContext.zoom (runtimeAt r)).map fun u => (r, u)
  attachCurrentThread := do
    return (← (InProcess.managedRuntime t).attachCurrentThread.zoom (runtimeAt r)).map
      fun u => (r, u)
  detachCurrentThread := (InProcess.managedRuntime t).detachCurrentThread.zoom (runtimeAt r)

/-- Uses a context, with any bridge that the use names. -/
def use [Memory] [DecidableEq ι] (ref : ρ × ThreadId) : ContextUse ι α → Act (Installation ρ ι) α
  | .toNative caps string? => Marshal.toNative (context ref) caps string?
  | .toManaged caps bytes? => Marshal.toManaged (context ref) caps bytes?
  | .nativeFromManaged b string? => Bridge.nativeFromManaged (bridgeAt b) (context ref) string?
  | .managedFromNative b bytes? => Bridge.managedFromNative (bridgeAt b) (context ref) bytes?
  | .stringFromManaged b string? => Bridge.stringFromManaged (bridgeAt b) (context ref) string?
  | .throwException message => direct ref.1 (Context.throwException ref.2 message)
  | .drain => ManagedBridge.drain (context ref)

theorem lawful_runtimeAt (r : ρ) : (runtimeAt r : Place (Installation ρ ι) State).Lawful where
  get_set a s := by simp [runtimeAt]
  set_get s := by simp [runtimeAt]
  set_set a b s := by simp [runtimeAt]

/-- The ledgers of the runtimes. -/
def ledger (s : Installation ρ ι) (r : ρ) : Ledger := (s.runtimes r).runtime.ledger

/-- The installation after a change of one runtime. -/
def onRuntime (r : ρ) (f : Runtime → Runtime) (s : Installation ρ ι) : Installation ρ ι :=
  (runtimeAt r).modify (InProcess.onRuntime f) s

theorem runtimes_set (r : ρ) (x : State) (s : Installation ρ ι) :
    ((runtimeAt r).set x s).runtimes r = x :=
  Function.update_self ..

theorem runtimes_onRuntime (r : ρ) (f : Runtime → Runtime) (s : Installation ρ ι) :
    (s.onRuntime r f).runtimes r = InProcess.onRuntime f (s.runtimes r) :=
  Function.update_self ..

theorem onRuntime_onRuntime (r : ρ) (f g : Runtime → Runtime) (s : Installation ρ ι) :
    (s.onRuntime r f).onRuntime r g = s.onRuntime r fun q => g (f q) := by
  have hplace := lawful_runtimeAt (ι := ι) r
  simp only [onRuntime, Place.modify, hplace.get_set, hplace.set_set]
  rfl

theorem onRuntime_congr {r : ρ} {s : Installation ρ ι} {f g : Runtime → Runtime}
    (h : f (s.runtimes r).runtime = g (s.runtimes r).runtime) :
    s.onRuntime r f = s.onRuntime r g := by
  show (runtimeAt r).set _ s = (runtimeAt r).set _ s
  exact congrArg (fun q => (runtimeAt r).set { s.runtimes r with runtime := q } s) h

theorem ledger_onRuntime (r : ρ) (f : Runtime → Runtime) (s : Installation ρ ι) :
    (s.onRuntime r f).ledger = Function.update s.ledger r (f (s.runtimes r).runtime).ledger := by
  funext q
  show (Function.update s.runtimes r _ q).runtime.ledger = _
  rw [Function.update_apply, Function.update_apply]
  split <;> rfl

/-- A call on one runtime does there what it does alone. -/
theorem run_zoom {s : Installation ρ ι} {log : List LogLine} {r : ρ} {call : Call State α}
    {ended : Except Panic α} {f : Runtime → Runtime}
    (h : call.run ⟨s.runtimes r, log⟩ = (ended, ⟨InProcess.onRuntime f (s.runtimes r), log⟩)) :
    (call.zoom (runtimeAt r)).run ⟨s, log⟩ = (ended, ⟨s.onRuntime r f, log⟩) := by
  rw [Call.run_zoom (lawful_runtimeAt r)]
  show ((call.run ⟨s.runtimes r, log⟩).1, _) = _
  rw [show (runtimeAt r).site.get ⟨s, log⟩ = ⟨s.runtimes r, log⟩ from rfl, h]
  rfl

/-- A call that leaves its runtime alone leaves everything alone. -/
theorem run_zoom_same {s : Installation ρ ι} {log : List LogLine} {r : ρ} {call : Call State α}
    {ended : Except Panic α}
    (h : call.run ⟨s.runtimes r, log⟩ = (ended, ⟨s.runtimes r, log⟩)) :
    (call.zoom (runtimeAt r)).run ⟨s, log⟩ = (ended, ⟨s, log⟩) := by
  rw [Call.run_zoom (lawful_runtimeAt r)]
  rw [show (runtimeAt r).site.get ⟨s, log⟩ = ⟨s.runtimes r, log⟩ from rfl, h]
  exact congrArg (ended, ·) ((lawful_runtimeAt r).site.set_get ⟨s, log⟩)

section Entering

variable {s : Installation ρ ι} {w : World (Installation ρ ι)} {r : ρ} {t : ThreadId}

theorem run_currentContext (t : ThreadId) (log : List LogLine)
    (hopen : (s.ledger r).poisoned = false) :
    (managedRuntime t r).currentContext.run ⟨s, log⟩ =
      (.ok (if (s.ledger r).standing t = .detached then none else some (r, t)), ⟨s, log⟩) := by
  have hattached : (InProcess.managedRuntime t).currentContext.run ⟨s.runtimes r, log⟩ =
      (.ok (if (s.ledger r).standing t = .detached then none else some t),
        ⟨s.runtimes r, log⟩) := by
    refine (Routine.run_bind_ok (Context.run_isAttached hopen) _).trans ?_
    show Routine.run (if decide ((s.ledger r).standing t ≠ .detached) = true then _ else _) _ = _
    by_cases h : (s.ledger r).standing t = .detached
    · simp [h]
    · simp [h]
  refine (Routine.run_bind_ok (run_zoom_same hattached) _).trans ?_
  rw [Routine.run_pure]
  split <;> rfl

theorem run_currentContext_poisoned {log : List LogLine} (h : (s.ledger r).poisoned = true) :
    (managedRuntime t r).currentContext.run ⟨s, log⟩ =
      (.error (.raised poisonedLock), ⟨s, log⟩) := by
  have hattached : (InProcess.managedRuntime t).currentContext.run ⟨s.runtimes r, log⟩ =
      (.error (.raised poisonedLock), ⟨s.runtimes r, log⟩) :=
    Routine.run_bind_error (Context.run_isAttached_poisoned h) _
  exact Routine.run_bind_error (run_zoom_same hattached) _

theorem run_attachCurrentThread {log : List LogLine} (hopen : (s.ledger r).poisoned = false)
    (h : (s.runtimes r).runtime.rejectAttach = false) :
    (managedRuntime t r).attachCurrentThread.run ⟨s, log⟩ =
      (.ok (.ok (r, t)), ⟨s.onRuntime r (·.attached t), log⟩) := by
  have hattach : (InProcess.managedRuntime t).attachCurrentThread.run ⟨s.runtimes r, log⟩ =
      (.ok (.ok t), ⟨InProcess.onRuntime (·.attached t) (s.runtimes r), log⟩) :=
    Routine.run_bind_ok (Context.run_attach hopen h) _
  exact Routine.run_bind_ok (run_zoom hattach) _

theorem run_attachCurrentThread_rejected {log : List LogLine}
    (h : (s.runtimes r).runtime.rejectAttach = true) :
    (managedRuntime t r).attachCurrentThread.run ⟨s, log⟩ =
      (.ok (.error (.other "attach rejected")), ⟨s, log⟩) := by
  have hattach : (InProcess.managedRuntime t).attachCurrentThread.run ⟨s.runtimes r, log⟩ =
      (.ok (.error (.other "attach rejected")), ⟨s.runtimes r, log⟩) :=
    Routine.run_bind_ok (Context.run_attach_rejected h) _
  exact Routine.run_bind_ok (run_zoom_same hattach) _

theorem run_detachCurrentThread {log : List LogLine} (hopen : (s.ledger r).poisoned = false)
    (h : (s.ledger r).standing t = .scoped) :
    (managedRuntime t r).detachCurrentThread.run ⟨s, log⟩ =
      (.ok (), ⟨s.onRuntime r (·.detached t), log⟩) :=
  run_zoom (Context.run_detach hopen h)

/-- On an attached thread a scope changes no ledger. -/
theorem run_enter_reuse (hopen : (w.backend.ledger r).poisoned = false)
    (h : (w.backend.ledger r).standing t ≠ .detached) :
    (Attachment.enter (managedRuntime t r)).run w =
      (.ok (.ok ((r, t), ⟨false⟩)),
        ⟨⟨w.backend, Attachment.reusedLine :: w.log⟩, w.events.increment .reuse⟩) := by
  have hcurrent := run_currentContext t w.log hopen
  rw [if_neg h] at hcurrent
  exact Attachment.run_enter_reuse hcurrent

/-- A detached thread is attached by a scope. -/
theorem run_enter_attach (hopen : (w.backend.ledger r).poisoned = false)
    (h : (w.backend.ledger r).standing t = .detached)
    (haccepts : (w.backend.runtimes r).runtime.rejectAttach = false) :
    (Attachment.enter (managedRuntime t r)).run w =
      (.ok (.ok ((r, t), ⟨true⟩)),
        ⟨⟨w.backend.onRuntime r (·.attached t), Attachment.attachedLine :: w.log⟩,
          w.events.increment .attach⟩) := by
  have hcurrent := run_currentContext t w.log hopen
  rw [if_pos h] at hcurrent
  exact Attachment.run_enter_attach hcurrent (run_attachCurrentThread hopen haccepts)

/-- Where the runtime refuses, nothing but the log changes. -/
theorem run_enter_refused (hopen : (w.backend.ledger r).poisoned = false)
    (h : (w.backend.ledger r).standing t = .detached)
    (hrejects : (w.backend.runtimes r).runtime.rejectAttach = true) :
    (Attachment.enter (managedRuntime t r)).run w =
      (.ok (.error (.attachFailed (.other "attach rejected"))),
        { w with log := Attachment.refusedLine (.other "attach rejected") :: w.log }) := by
  have hcurrent := run_currentContext t w.log hopen
  rw [if_pos h] at hcurrent
  exact Attachment.run_enter_refused hcurrent (run_attachCurrentThread_rejected hrejects)

theorem run_enter_poisoned (h : (w.backend.ledger r).poisoned = true) :
    (Attachment.enter (managedRuntime t r)).run w = (.error (.raised poisonedLock), w) :=
  Attachment.run_enter_panicked (run_currentContext_poisoned h)

theorem run_exit_created (hopen : (w.backend.ledger r).poisoned = false)
    (h : (w.backend.ledger r).standing t = .scoped) :
    (Attachment.exit (managedRuntime t r) ⟨true⟩).run w =
      (.ok (), ⟨⟨w.backend.onRuntime r (·.detached t), Attachment.detachedLine :: w.log⟩,
        w.events.increment .detach⟩) :=
  Attachment.run_exit_created (run_detachCurrentThread hopen h)

theorem ledger_attached (h : (s.ledger r).standing t = .detached) :
    (s.onRuntime r (·.attached t)).ledger =
      Function.update s.ledger r ((s.ledger r).attach t) := by
  rw [ledger_onRuntime, Runtime.ledger_attached h]
  rfl

theorem ledger_detached (s : Installation ρ ι) (r : ρ) (t : ThreadId) :
    (s.onRuntime r (·.detached t)).ledger =
      Function.update s.ledger r ((s.ledger r).detach t) := by
  rw [ledger_onRuntime, Runtime.ledger_detached]
  rfl

end Entering

/-- The thread can use a context with the runtime, and `n` of its arrays are out. The ledger of that
runtime is as it is in `whole`, and so is everything else. -/
def Usable (whole : Installation ρ ι) (r : ρ) (t : ThreadId) (n : Nat) (s : Installation ρ ι) :
    Prop :=
  InProcess.Usable t (whole.ledger r) n (s.runtimes r) ∧ ∃ part, s = (runtimeAt r).set part whole

theorem Usable.of_standing {s : Installation ρ ι} {r : ρ} {t : ThreadId}
    (hopen : (s.ledger r).poisoned = false) (h : (s.ledger r).standing t ≠ .detached) :
    ∃ n, Usable s r t n s := by
  obtain ⟨n, husable⟩ := InProcess.Usable.of_standing hopen h
  exact ⟨n, husable, _, ((lawful_runtimeAt r).set_get s).symm⟩

theorem Usable.ledger_eq {whole s : Installation ρ ι} {r : ρ} {t : ThreadId} {n : Nat}
    (h : Usable whole r t n s) : s.ledger = whole.ledger := by
  obtain ⟨husable, part, rfl⟩ := h
  funext q
  by_cases hq : q = r
  · subst hq
    exact husable.ledger
  · show (Function.update whole.runtimes r part q).runtime.ledger = _
    rw [Function.update_of_ne hq]
    rfl

theorem Usable.bridges_eq {whole s : Installation ρ ι} {r : ρ} {t : ThreadId} {n : Nat}
    (h : Usable whole r t n s) : s.bridges = whole.bridges := by
  obtain ⟨-, part, rfl⟩ := h
  rfl

theorem context_reliable (whole : Installation ρ ι) (r : ρ) (t : ThreadId) :
    (context (r, t)).Reliable (Usable whole r t) :=
  (InProcess.context_reliable t (whole.ledger r)).zoom (lawful_runtimeAt r) whole

theorem returns_use [Memory] [DecidableEq ι] (whole : Installation ρ ι) (r : ρ) (t : ThreadId)
    (n : Nat) (what : ContextUse ι α) :
    (use (r, t) what).Returns (Usable whole r t n) fun _ => Usable whole r t n := by
  have hctx := context_reliable whole r t
  cases what with
  | toNative caps string? => exact hctx.toNative n caps string?
  | toManaged caps bytes? => exact hctx.toManaged n caps bytes?
  | nativeFromManaged b string? => exact hctx.nativeFromManaged (bridgeAt b) n string?
  | managedFromNative b bytes? => exact hctx.managedFromNative (bridgeAt b) n bytes?
  | stringFromManaged b string? => exact hctx.stringFromManaged (bridgeAt b) n string?
  | throwException message =>
    exact ((Context.returns_throwException message).zoom (lawful_runtimeAt r) whole).monadLift
  | drain => exact hctx.drain n

/-- Using a context of an attached thread returns, and changes neither ledgers nor bridges. -/
theorem run_use [Memory] [DecidableEq ι] {w : World (Installation ρ ι)} {r : ρ} {t : ThreadId}
    (hopen : (w.backend.ledger r).poisoned = false)
    (h : (w.backend.ledger r).standing t ≠ .detached) (what : ContextUse ι α) :
    ∃ a v, (use (r, t) what).run w = (.ok a, v) ∧ v.backend.ledger = w.backend.ledger ∧
      v.backend.bridges = w.backend.bridges := by
  obtain ⟨n, husable⟩ := Usable.of_standing hopen h
  obtain ⟨a, v, hrun, hleft⟩ := returns_use w.backend r t n what w husable
  exact ⟨a, v, hrun, hleft.ledger_eq, hleft.bridges_eq⟩

end Installation

end ManagedBridge
