import ManagedBridge.Jvm.Heap
import ManagedBridge.Jvm.Process

/-!
# The C interface

What C code can ask of the bridge. Environments, strings and scopes come as pointers that may be
null, and failure shows as a null pointer or a status. A scope is a structure of the caller: it is
filled when the thread is attached and emptied when the scope ends, and only a filled scope that
attached the thread detaches it.
-/

namespace ManagedBridge.Jvm

/-- A scope as C code keeps it. -/
structure Scope (ε : Type) where
  env : Option ε := none
  /-- Not zero if the scope attached the thread. -/
  requireRelease : Int32 := 0
  deriving DecidableEq, Repr

/-- What a reader of C strings sees of a block: the bytes before the first zero. -/
def cStringView (block : List UInt8) : List UInt8 := block.takeWhile (· ≠ 0)

namespace CInterface

open Process

variable {μ ε : Type}

def successCode : Int := 0

/-- The context of a caller's environment, with the settings of the bridge. -/
def callerContext (env : Option ε) : Call (Process μ) (Option (Context ε)) := do
  match (← Call.read bridgePlace).runtime with
  | .error e => refused "C caller used the bridge before initialization" e.message none
  | .ok rt =>
    match env with
    | some env => return some ⟨env, rt.config⟩
    | none => refused "invalid JNIEnv from C caller" CallError.nullArgument.toRuntime.message none

/-- Starts the bridge with the settings of the environment. -/
def start (vm : InvocationInterface μ ε) (t : ThreadId) (pointer : Option VmPointer)
    (env : Option ε) : Call (Process μ) Int := do
  match ← readSettings with
  | .error e => refused "bridge config rejected" e.message failureCode
  | .ok config =>
    match pointer, env with
    | none, _ => refused "invalid JavaVM pointer" CallError.nullArgument.message failureCode
    | _, none => refused "invalid JNIEnv pointer" CallError.nullArgument.message failureCode
    | some pointer, some env => startLogged vm t pointer env config successCode

/-- The address of the machine that the bridge was started with. -/
def globalVm : Call (Process μ) (Option VmPointer) := do
  match (← Call.read bridgePlace).runtime with
  | .ok rt => return some rt.vm
  | .error _ => return none

/-- A block with the bytes of a string and a zero byte after them. -/
def getString (vm : InvocationInterface μ ε) (t : ThreadId) (env : Option ε) (string : Ref) :
    Act (Process μ) (Option (List UInt8)) := do
  if string.isNone then return none
  match ← (callerContext env).inWorld with
  | none => return none
  | some c =>
    match ← nativeFromManaged vm t c string with
    | .ok buffer? => return buffer?.map ByteBuffer.block
    | .error e =>
      Act.note ⟨.warn, "tether_get_string failed", [("err", e.message)]⟩
      return none

/-- The string of a block, which is read up to its first zero byte. -/
def newString (vm : InvocationInterface μ ε) (t : ThreadId) (env : Option ε)
    (block? : Option (List UInt8)) : Act (Process μ) Ref := do
  let some block := block? | return none
  match ← (callerContext env).inWorld with
  | none => return none
  | some c =>
    match ← managedFromNative vm t c (some (cStringView block)) with
    | .ok string => return string
    | .error e =>
      Act.note ⟨.warn, "tether_new_string failed", [("err", e.message)]⟩
      return none

/-- Whether an exception was pending; it no longer is. -/
def catchException (vm : InvocationInterface μ ε) (t : ThreadId) (env : Option ε) :
    Act (Process μ) Bool := do
  match ← (callerContext env).inWorld with
  | none => return false
  | some c => drain (context vm t c)

/-- Fills a scope for the current thread; without a structure to fill the call is refused. What the
structure held before is lost. -/
def attachThread (vm : InvocationInterface μ ε) (t : ThreadId) (scope? : Option (Scope ε)) :
    Act (Process μ) (Int × Option (Scope ε)) := do
  if scope?.isNone then return (failureCode, none)
  match (← (Call.read bridgePlace).inWorld).runtime with
  | .error e =>
    let code ←
      (refused "tether_attach_thread before initialization" e.message failureCode).inWorld
    return (code, some {})
  | .ok rt =>
    match ← Attachment.enter (runtime vm t rt) with
    | .error _ => return (failureCode, some {})
    | .ok (c, attachment) =>
      return (successCode, some ⟨some c.env, if attachment.toRaw then 1 else 0⟩)

/-- Ends a scope and empties it. An empty scope ends nothing. -/
def detachThread (vm : InvocationInterface μ ε) (t : ThreadId) (scope? : Option (Scope ε)) :
    Act (Process μ) (Option (Scope ε)) := do
  let some scope := scope? | return none
  if scope.requireRelease ≠ 0 then
    match (← (Call.read bridgePlace).inWorld).runtime with
    | .ok rt => Attachment.exit (runtime vm t rt) (.ofRaw true)
    | .error e => (refused "tether_detach_thread without a runtime" e.message ()).inWorld
  return some {}

/-- Frees what the caller's slot points to, and leaves null in it; without a slot nothing is done.
To release what is not in use has no meaning. -/
def releaseString (heap : Heap) : (slot? : Option Pointer) → Option (Option Pointer × Heap)
  | none => some (none, heap)
  | some slot => (heap.free slot).map fun left => (some none, left)

end CInterface

end ManagedBridge.Jvm
