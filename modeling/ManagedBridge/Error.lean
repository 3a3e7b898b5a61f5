import ManagedBridge.Text.Quoted

/-!
# Errors

What a managed runtime can refuse (`RuntimeError`) and what the bridge reports to its callers
(`BridgeError`). Each has a message for people and a diagnostic form that names its constructor.
-/

namespace ManagedBridge

open ManagedBridge.Text

inductive RuntimeError
  | exceptionPending
  | outOfMemory
  /-- The operation named `what` answered with a null reference. -/
  | nullResult (what : String)
  | detached
  | other (message : String)
  deriving DecidableEq, Repr

namespace RuntimeError

def message : RuntimeError → String
  | exceptionPending => "a managed exception is pending"
  | outOfMemory => "the runtime is out of memory"
  | nullResult what => what ++ " returned null"
  | detached => "the current thread is not attached to the runtime"
  | other message => message

def name : RuntimeError → String
  | exceptionPending => "ExceptionPending"
  | outOfMemory => "OutOfMemory"
  | nullResult _ => "NullResult"
  | detached => "Detached"
  | other _ => "Other"

/-- The constructor with its text, for diagnostics. -/
def diagnostic (e : RuntimeError) : String :=
  match e with
  | nullResult what => e.name ++ "(" ++ quoted what ++ ")"
  | other message => e.name ++ "(" ++ quoted message ++ ")"
  | _ => e.name

end RuntimeError

inductive BridgeError
  | notInitialized (what : String)
  | alreadyInitialized (what : String)
  | attachFailed (source : RuntimeError)
  /-- Memory for `len` bytes was refused during the operation `op`. -/
  | allocation (op : String) (len : Nat)
  | pendingException (op : String)
  | runtime (op : String) (source : RuntimeError)
  deriving DecidableEq, Repr

namespace BridgeError

/-- Classifies what a backend refused during the operation `op`, which concerned `len` bytes. -/
def ofRuntime (op : String) (len : Nat) : RuntimeError → BridgeError
  | .outOfMemory => allocation op len
  | .exceptionPending => pendingException op
  | source => runtime op source

def message : BridgeError → String
  | notInitialized what => "bridge used before initialization (" ++ what ++ " is not set)"
  | alreadyInitialized what => what ++ " is already initialized"
  | attachFailed source => "runtime refused to attach the current thread: " ++ source.message
  | allocation op len =>
    "allocation of " ++ toString len ++ " bytes failed during " ++ op
  | pendingException op => "managed exception raised during " ++ op
  | runtime op source => op ++ " failed: " ++ source.message

def name : BridgeError → String
  | notInitialized _ => "NotInitialized"
  | alreadyInitialized _ => "AlreadyInitialized"
  | attachFailed _ => "AttachFailed"
  | allocation _ _ => "Allocation"
  | pendingException _ => "PendingException"
  | runtime _ _ => "Runtime"

/-- The runtime error underneath, where there is one. -/
def source? : BridgeError → Option RuntimeError
  | attachFailed source => some source
  | runtime _ source => some source
  | _ => none

/-- Whether the error leaves the bridge unusable for the caller. -/
def isFatal : BridgeError → Bool
  | notInitialized _ => true
  | alreadyInitialized _ => true
  | attachFailed _ => true
  | _ => false

/-- The named fields of an error, each with its diagnostic form. -/
def fields : BridgeError → List (String × String)
  | notInitialized what => [("what", quoted what)]
  | alreadyInitialized what => [("what", quoted what)]
  | attachFailed source => [("source", source.diagnostic)]
  | allocation op len => [("op", quoted op), ("len", toString len)]
  | pendingException op => [("op", quoted op)]
  | runtime op source => [("op", quoted op), ("source", source.diagnostic)]

/-- The constructor with its fields, for diagnostics. -/
def diagnostic (e : BridgeError) : String :=
  e.name ++ " \x7b " ++
    String.intercalate ", " (e.fields.map fun (field, text) => field ++ ": " ++ text) ++ " \x7d"

/-- A backend's failure is never fatal once it is classified. -/
@[simp] theorem isFatal_ofRuntime (op : String) (len : Nat) (e : RuntimeError) :
    (ofRuntime op len e).isFatal = false := by
  cases e <;> rfl

end BridgeError

end ManagedBridge
