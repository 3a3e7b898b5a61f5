import ManagedBridge.InProcess.Runtime
import ManagedBridge.OneShot

/-!
# Faults

A fault is armed for one operation of a runtime or of its contexts. It strikes one call of that
operation and decides what the call does.
-/

namespace ManagedBridge.InProcess

inductive Operation
  | resolveCapabilities
  | stringBytes
  | byteArrayLen
  | readByteArray
  | newByteArray
  | writeByteArray
  | newString
  | attachCurrentThread
  | currentContext
  deriving DecidableEq, Repr

inductive FaultEffect
  /-- The call is refused with the error. -/
  | refuse (error : RuntimeError)
  /-- The call reports this length. -/
  | length (len : Nat)
  /-- The call makes an array with this content. -/
  | content (bytes : List UInt8)
  /-- In the middle of the call, the cache is filled and then the bridge is started, as far as they
  are named, through the same context. -/
  | reenter (cache bridge : Option String)
  /-- The call goes on as usual. -/
  | proceed
  deriving Repr

structure Fault where
  /-- The exception that is raised first. -/
  throws : Option String := none
  effect : FaultEffect := .proceed
  deriving Repr

/-- A fault that waits for a call. One without an operation waits in vain. -/
abbrev ArmedFault := OneShot (Option Operation) Fault

/-- A runtime with its armed faults. -/
structure Host where
  runtime : Runtime := {}
  faults : List ArmedFault := []

end ManagedBridge.InProcess
