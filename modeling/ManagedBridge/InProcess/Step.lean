import ManagedBridge.Bridge
import ManagedBridge.InProcess.Fault

/-!
# Steps and answers

What a session over the in-process runtime can do, and what each step answers with. Scopes nest: a
scope's body is a list of steps, and its answer holds the body's answers, which a panic may have cut
short.
-/

namespace ManagedBridge.InProcess

inductive Flag
  | rejectAttach
  | failResolution
  | throwOnConstruct
  | failNextAllocation
  deriving DecidableEq, Repr

def Runtime.setFlag (r : Runtime) (flag : Flag) (value : Bool) : Runtime :=
  match flag with
  | .rejectAttach => { r with rejectAttach := value }
  | .failResolution => { r with failResolution := value }
  | .throwOnConstruct => { r with throwOnConstruct := value }
  | .failNextAllocation => { r with failNextAllocation := true }

/-- What is done with a call context. Strings and arrays go by their names. -/
inductive ContextStep
  | managedFromNative (bridge : String) (bytes : Option (List UInt8)) (keepAs : Option String)
  | toManaged (bytes : Option (List UInt8)) (keepAs : Option String)
  | nativeFromManaged (bridge : String) (string : Option String)
  | toNative (string : Option String)
  | stringFromManaged (bridge : String) (string : Option String)
  | roundTrip (bridge : String) (bytes : Option (List UInt8))
  | drain
  | throwException (message : String)
  | describe
  | clear
  | pending
  | liveArrays
  | resolve
  | fillCache (cache : String)
  | startBridge (bridge : String)
  | arrayNew (array : String) (len : Nat)
  | arrayWrite (array : String) (bytes : List UInt8)
  | arrayLen (array : String)
  | arrayRead (array : String) (len : Nat)
  | arrayRelease (array : String)
  | newString (array : String) (keepAs : Option String)
  | stringBytes (string : Option String) (array : String)
  deriving Repr

mutual

/-- A step, with the runtime that it names. -/
inductive Step
  | on (host : String) (action : Action)

inductive Action
  | set (flag : Flag) (value : Bool)
  | arm (fault : ArmedFault)
  | attachExternally
  | detachExternally
  | stats
  | resetEvents
  | isInitialized (bridge : String)
  | capabilities (bridge : String)
  | runtime (bridge : String)
  | cacheGet (cache : String)
  | cacheIsInitialized (cache : String)
  | string (keepAs : String) (text : String)
  | guard (slot : String)
  | guardBridge (slot : String) (bridge : String)
  | enter (slot : String)
  | context (slot : String) (attach : Bool)
  | created (slot : String)
  | drop (slot : String)
  | detach
  /-- Runs `body` in a scope of the bridge. After the body the panic is raised, if there is one;
  with `stopOnError` the body ends, without panic, after the first answer that is an error. -/
  | withAttachment (bridge : String) (body : List Step) (panic : Option String)
      (stopOnError : Bool)
  /-- As many threads, each attached through the bridge until all are, convert a text of their own
  there and back. -/
  | concurrent (bridge : String) (threads : Nat) (stem : String)
  | inContext (slot : String) (step : ContextStep)

end

structure Stats where
  attachCalls : Nat
  detachCalls : Nat
  resolveCalls : Nat
  runtimeCalls : Nat
  attachedThreads : Nat
  described : List String
  deriving DecidableEq, Repr

def Runtime.stats (r : Runtime) : Stats :=
  { attachCalls := r.attachCalls
    detachCalls := r.detachCalls
    resolveCalls := r.resolveCalls
    runtimeCalls := r.runtimeCalls
    attachedThreads := r.threads.size
    described := r.described }

inductive Answer
  | none
  | ok
  | flag (value : Bool)
  | count (n : Nat)
  | text (s : String)
  /-- A scope was begun. -/
  | created (value : Bool)
  /-- A scope was begun, with its diagnostic form. -/
  | entered (attachment : Attachment)
  | obtained (value : Bool)
  | string (s : String)
  | buffer (b : ByteBuffer)
  | roundTrip (buffer : Option ByteBuffer) (same : Bool)
  | className (s : String)
  | runtime (name : String)
  | bytes (bytes : List UInt8)
  | stats (stats : Stats) (currentAttached : Bool)
  | bridgeError (e : BridgeError)
  | runtimeError (e : RuntimeError)
  | body (answers : List Answer) (panic : Option String)
  | threads (answers : List Answer)
  | worker (created : Bool) (text : Option String)
  | panicked (message : String)

/-- Whether an answer reports an error of its own step. -/
def Answer.isError : Answer → Bool
  | bridgeError _ => true
  | runtimeError _ => true
  | _ => false

end ManagedBridge.InProcess
