import ManagedBridge.Proofs.Books

/-!
# What threads do

A thread takes one step at a time: it enters or leaves a scope, uses a context, calls it directly,
starts a bridge, or sees a runtime changed by others. A run is any sequence of such deeds, by any
threads and on any number of runtimes, that a rule allows. It keeps track of the scopes that are
live, and of those that were left in vain, since their runtime panicked instead of detaching the
thread.
-/

namespace ManagedBridge

open InProcess

/-- A call on a context, and the type of what it answers. A report of an exception is no such
call. -/
inductive DirectCall : Type → Type
  | resolveCapabilities : DirectCall (Except RuntimeError Capabilities)
  | stringBytes (string : String) : DirectCall (Except RuntimeError ArrayId)
  | byteArrayLen (array : ArrayId) : DirectCall (Except RuntimeError Nat)
  | readByteArray (array : ArrayId) (len : Nat) : DirectCall (Except RuntimeError (List UInt8))
  | newByteArray (len : Nat) : DirectCall (Except RuntimeError ArrayId)
  | writeByteArray (array : ArrayId) (bytes : List UInt8) : DirectCall (Except RuntimeError Unit)
  | newString (array : ArrayId) : DirectCall (Except RuntimeError String)
  | releaseBytes (array : ArrayId) : DirectCall Unit
  | exceptionPending : DirectCall Bool
  | clearException : DirectCall Unit

def DirectCall.on {σ α : Type} (ctx : CallContext σ Capabilities String ArrayId) :
    DirectCall α → Call σ α
  | resolveCapabilities => ctx.resolveCapabilities
  | stringBytes string => ctx.stringBytes stringCapabilities string
  | byteArrayLen array => ctx.byteArrayLen array
  | readByteArray array len => ctx.readByteArray array len
  | newByteArray len => ctx.newByteArray len
  | writeByteArray array bytes => ctx.writeByteArray array bytes
  | newString array => ctx.newString stringCapabilities array
  | releaseBytes array => ctx.releaseBytes array
  | exceptionPending => ctx.exceptionPending
  | clearException => ctx.clearException

/-- A call on a context meets what all calls of the context meet. -/
theorem DirectCall.on_meets {σ α : Type} {C : (α : Type) → Call σ α → Prop}
    {ctx : CallContext σ Capabilities String ArrayId} (h : ctx.Meets C) (what : DirectCall α) :
    C α (what.on ctx) := by
  cases what with
  | resolveCapabilities => exact h.resolveCapabilities
  | stringBytes string => exact h.stringBytes _ string
  | byteArrayLen array => exact h.byteArrayLen array
  | readByteArray array len => exact h.readByteArray array len
  | newByteArray len => exact h.newByteArray len
  | writeByteArray array bytes => exact h.writeByteArray array bytes
  | newString array => exact h.newString _ array
  | releaseBytes array => exact h.releaseBytes array
  | exceptionPending => exact h.exceptionPending
  | clearException => exact h.clearException

/-- The event that a use of a context is, if it gives `a`. -/
def ContextUse.event? {ι α : Type} : ContextUse ι α → α → Option BridgeEvent
  | toNative .., result => converted? .toNative result
  | toManaged .., result => converted? .toManaged result
  | nativeFromManaged .., result => converted? .toNative result
  | managedFromNative .., result => converted? .toManaged result
  | stringFromManaged .., result => converted? .toNative result
  | throwException _, () => none
  | drain, drained => if drained then some .exceptionDrained else none

namespace Installation

variable {ρ ι α : Type}

/-- A scope that a thread entered. -/
structure EnteredScope (ρ : Type) where
  runtime : ρ
  thread : ThreadId
  attachment : Attachment
  deriving DecidableEq, Repr

/-- The scopes of a run. -/
structure Scopes (ρ : Type) where
  /-- Those that were entered and have not been left. -/
  live : List (EnteredScope ρ) := []
  /-- Those that were left in vain. -/
  lost : List (EnteredScope ρ) := []

def Scopes.enter (scopes : Scopes ρ) (scope : EnteredScope ρ) : Scopes ρ :=
  { scopes with live := scope :: scopes.live }

def Scopes.leave [DecidableEq ρ] (scopes : Scopes ρ) (scope : EnteredScope ρ) : Scopes ρ :=
  { scopes with live := scopes.live.erase scope }

def Scopes.lose [DecidableEq ρ] (scopes : Scopes ρ) (scope : EnteredScope ρ) : Scopes ρ :=
  ⟨scopes.live.erase scope, scope :: scopes.lost⟩

/-- What a thread can do in one step, and the type of what that gives. -/
inductive Deed (ρ ι : Type) : Type → Type 1
  | enter (r : ρ) : Deed ρ ι (Except BridgeError Attachment)
  /-- Enters a scope of the bridge's runtime. -/
  | attach (bridge : ι) : Deed ρ ι (Except BridgeError (ρ × Attachment))
  /-- Leaves a live scope, with `raw` by way of its flag alone. -/
  | exit (scope : EnteredScope ρ) (raw : Bool) : Deed ρ ι Unit
  | use {α : Type} (r : ρ) (what : ContextUse ι α) : Deed ρ ι α
  | call {α : Type} (r : ρ) (what : DirectCall α) : Deed ρ ι α
  /-- Starts a bridge over a runtime, by way of a context with it. -/
  | start (bridge : ι) (r : ρ) : Deed ρ ι (Except BridgeError Unit)
  | setFlag (r : ρ) (flag : Flag) (value : Bool) : Deed ρ ι Unit
  | attachExternally (r : ρ) : Deed ρ ι Unit
  | detachExternally (r : ρ) : Deed ρ ι Unit

namespace Deed

/-- The event that a deed is, if it gives `a`. -/
def event? : Deed ρ ι α → α → Option BridgeEvent
  | enter _, .ok attachment => some (entered? attachment)
  | attach _, .ok (_, attachment) => some (entered? attachment)
  | exit scope _, () => if scope.attachment.created then some .detach else none
  | use _ what, a => what.event? a
  | _, _ => none

variable [DecidableEq ρ]

def act [Memory] [DecidableEq ι] (t : ThreadId) : Deed ρ ι α → Act (Installation ρ ι) α
  | enter r => do return (← Attachment.enter (managedRuntime t r)).map Prod.snd
  | attach b => do
    return (← Bridge.attach (bridgeAt b) (managedRuntime t)).map fun (r, _, attachment) =>
      (r, attachment)
  | exit scope raw =>
    Attachment.exit (managedRuntime t scope.runtime)
      (if raw then .ofRaw scope.attachment.toRaw else scope.attachment)
  | use r what => Installation.use (r, t) what
  | call r what => (what.on (context (r, t)) : Call (Installation ρ ι) α)
  | start b r => Bridge.start (bridgeAt b) r (context (r, t))
  | setFlag r flag value => direct r (Context.modifyRuntime (·.setFlag flag value))
  | attachExternally r => direct r (Context.attachExternally t)
  | detachExternally r => direct r (Context.detachExternally t)

/-- Entering a scope gives what it has to undo. -/
theorem run_enter [Memory] [DecidableEq ι] {r : ρ} {t : ThreadId} {w v : World (Installation ρ ι)}
    {entered : Except Panic (Except BridgeError Attachment)}
    (h : (Attachment.enter (managedRuntime t r)).run w =
      (entered.map (Except.map fun attachment => ((r, t), attachment)), v)) :
    ((enter r : Deed ρ ι _).act t).run w = (entered, v) := by
  rw [act, Routine.run_bind, h]
  rcases entered with _ | _ | _ <;> rfl

/-- The scopes after a deed that ended so. A scope is left however that ends, and lost if it ends in
a panic. -/
def left (t : ThreadId) (scopes : Scopes ρ) : Deed ρ ι α → Except Panic α → Scopes ρ
  | enter r, .ok (.ok attachment) => scopes.enter ⟨r, t, attachment⟩
  | attach _, .ok (.ok (r, attachment)) => scopes.enter ⟨r, t, attachment⟩
  | exit scope _, .ok () => scopes.leave scope
  | exit scope _, .error _ => scopes.lose scope
  | _, _ => scopes

/-- A deed that returns loses no scope. -/
theorem lost_left (deed : Deed ρ ι α) (t : ThreadId) (scopes : Scopes ρ) (a : α) :
    (deed.left t scopes (.ok a)).lost = scopes.lost := by
  cases deed with
  | enter r => cases a <;> rfl
  | attach b => cases a <;> rfl
  | _ => rfl

/-- What a deed asks of the thread that does it: a live scope is left where it was entered, and
others attach and detach what is theirs. -/
def Allowed : Deed ρ ι α → Installation ρ ι → Scopes ρ → ThreadId → Prop
  | exit scope _, _, scopes, t => scope ∈ scopes.live ∧ scope.thread = t
  | attachExternally r, s, _, t => (s.ledger r).standing t = .detached
  | detachExternally r, s, _, t => (s.ledger r).standing t = .external
  | _, _, _, _ => True

/-- What is asked of a thread that also uses a context only while it is attached, and leaves the
calls of a context and the starting of bridges to others. -/
def Orderly : Deed ρ ι α → Installation ρ ι → Scopes ρ → ThreadId → Prop
  | use r _, s, _, t => (s.ledger r).standing t ≠ .detached
  | call .., _, _, _ => False
  | start .., _, _, _ => False
  | deed, s, scopes, t => deed.Allowed s scopes t

omit [DecidableEq ρ] in
theorem Orderly.allowed {deed : Deed ρ ι α} {s : Installation ρ ι} {scopes : Scopes ρ}
    {t : ThreadId} (h : deed.Orderly s scopes t) : deed.Allowed s scopes t := by
  cases deed <;> first | exact h | trivial

end Deed

/-- A deed with the thread that did it and what it ended in. -/
structure Done (ρ ι : Type) where
  {α : Type}
  thread : ThreadId
  deed : Deed ρ ι α
  ended : Except Panic α

/-- The event that a deed was. -/
def Done.event? (done : Done ρ ι) : Option BridgeEvent := done.ended.toOption.bind done.deed.event?

/-- What a thread may do, with the scopes that are live. -/
abbrev Rule (ρ ι : Type) :=
  (α : Type) → Deed ρ ι α → Installation ρ ι → Scopes ρ → ThreadId → Prop

variable [Memory] [DecidableEq ρ] [DecidableEq ι]

/-- The runs by a rule from a world in which all runtimes are new: the world that a run has come to,
its scopes and what has been done, the last deed first. -/
inductive Run (rule : Rule ρ ι) (start : World (Installation ρ ι)) :
    World (Installation ρ ι) → Scopes ρ → List (Done ρ ι) → Prop
  | start (fresh : ∀ r, (start.backend.runtimes r).runtime = {}) : Run rule start start {} []
  | step {w v scopes history} {α : Type} (t : ThreadId) (deed : Deed ρ ι α) {ended : Except Panic α}
    (before : Run rule start w scopes history) (allowed : rule α deed w.backend scopes t)
    (performed : (deed.act t).run w = (ended, v)) :
    Run rule start v (deed.left t scopes ended) (⟨t, deed, ended⟩ :: history)

/-- What a stricter rule allows is allowed. -/
theorem Run.mono {rule rule' : Rule ρ ι} {start w : World (Installation ρ ι)} {scopes : Scopes ρ}
    {history : List (Done ρ ι)} (h : Run rule start w scopes history)
    (hrule : ∀ α deed s scopes t, rule α deed s scopes t → rule' α deed s scopes t) :
    Run rule' start w scopes history := by
  induction h with
  | start fresh => exact .start fresh
  | step t deed before allowed performed ih =>
    exact ih.step t deed (hrule _ _ _ _ _ allowed) performed

end Installation

end ManagedBridge
