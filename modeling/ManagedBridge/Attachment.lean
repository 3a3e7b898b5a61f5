import ManagedBridge.CallContext

/-!
# Scoped attachment

Entering a scope on a detached thread attaches it, and the scope remembers that it did; on an
attached thread the scope reuses the context. Leaving a scope detaches only what that scope
attached.
-/

namespace ManagedBridge

/-- What a scope has to undo when it ends. -/
structure Attachment where
  /-- Whether the scope attached the thread. -/
  created : Bool
  deriving DecidableEq, Repr

namespace Attachment

variable {σ γ α : Type}

def ofRaw (created : Bool) : Attachment := ⟨created⟩

def toRaw (a : Attachment) : Bool := a.created

/-- The attachment on one line, for diagnostics. -/
def diagnostic (a : Attachment) : String :=
  "AttachmentState \x7b created: " ++ toString a.created ++ " \x7d"

def reusedLine : LogLine := ⟨.trace, "thread already attached, reusing context", []⟩

def attachedLine : LogLine := ⟨.debug, "attached thread to runtime", []⟩

def refusedLine (source : RuntimeError) : LogLine :=
  ⟨.error, "runtime refused thread attachment", [("source", source.message)]⟩

def detachedLine : LogLine := ⟨.debug, "detached thread from runtime", []⟩

/-- Begins a scope on the current thread. -/
def enter (rt : ManagedRuntime σ γ) : Act σ (Except BridgeError (γ × Attachment)) := do
  match ← rt.currentContext with
  | some context =>
    Act.count .reuse
    Act.note reusedLine
    return .ok (context, ⟨false⟩)
  | none =>
    match ← rt.attachCurrentThread with
    | .ok context =>
      Act.count .attach
      Act.note attachedLine
      return .ok (context, ⟨true⟩)
    | .error source =>
      Act.note (refusedLine source)
      return .error (.attachFailed source)

/-- Ends a scope on the thread that began it. -/
def exit (rt : ManagedRuntime σ γ) (a : Attachment) : Act σ Unit := do
  if a.created then
    rt.detachCurrentThread
    Act.count .detach
    Act.note detachedLine

/-- Runs `body` inside a scope, which ends also when `body` panics. -/
def within (rt : ManagedRuntime σ γ) (body : γ → Act σ α) : Act σ (Except BridgeError α) := do
  match ← enter rt with
  | .error e => return .error e
  | .ok (context, attachment) =>
    let a ← (body context).andFinally (exit rt attachment)
    return .ok a

end Attachment

end ManagedBridge
