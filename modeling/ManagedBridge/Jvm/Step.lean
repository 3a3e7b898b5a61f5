import ManagedBridge.Jvm.CInterface
import ManagedBridge.Jvm.Machine

/-!
# Steps and answers

What a session over the simulated machine can do, and what each step answers with. There are steps
of the machine itself, of the C interface and of the bridge. A scope's body is a list of steps, and
its answer holds, for each step, the answer and a view of the machine.
-/

namespace ManagedBridge.Jvm

/-- The environment that a caller passes on. -/
inductive EnvChoice
  /-- That of the thread, or null if the thread is not attached. -/
  | own
  | null
  /-- That of a scope. -/
  | scope (slot : String)
  deriving DecidableEq, Repr

/-- What is done with a call context. Strings and capability sets go by their names. -/
inductive ContextStep
  | managedFromNative (bytes : Option (List UInt8)) (keepAs : Option String)
  | nativeFromManaged (string : Option String)
  | stringFromManaged (string : Option String)
  | roundTrip (bytes : Option (List UInt8))
  | resolve (keepAs : Option String)
  | toManaged (caps : String) (bytes : Option (List UInt8)) (keepAs : Option String)
  | toNative (caps : String) (string : Option String)
  | drain
  | pending
  | describe
  | clear
  | findClass (name : String)
  | delete (string : Option String)
  /-- An array is made, written, measured, read and released. -/
  | byteArray (len : Nat) (written : List UInt8) (read : Nat)
  deriving Repr

inductive Step
  | machineAttach
  | machineDetach
  | machineThrow (e : Throwable)
  | machineString (className : String) (units : List UInt16) (keepAs : Option String)
  | arm (fault : OneShot String Fault)
  /-- The bridge is started from C. -/
  | startFromC (vm : Option VmPointer) (env : EnvChoice)
  | globalVm
  | setScope (slot : String) (requireRelease : Int32)
  | attachThread (slot : Option String)
  | detachThread (slot : Option String)
  | newCString (env : EnvChoice) (bytes : Option (List UInt8)) (keepAs : Option String)
  | getCString (env : EnvChoice) (string : Option String) (keepAs : Option String)
  | releaseCString (name : Option String)
  | catchException (env : EnvChoice)
  | load
  | start (config : BridgeConfig) (env : EnvChoice)
  | newRuntime
  | isInitialized
  | runtime
  | capabilities
  /-- Runs `body` in a scope of the bridge, and then panics if there is something to say. -/
  | withAttachment (body : List Step) (panic : Option String)
  | guard (slot : String)
  | drop (slot : String)
  /-- A step of the context of a guard, else of the scope around, else of an environment alone. With
  settings, the step runs on a context of its own over the same environment. -/
  | inContext (slot : String) (env : EnvChoice) (config : Option BridgeConfig) (step : ContextStep)

/-- How the environment of a scope compares with that of the thread. -/
inductive EnvView
  | null
  | current
  | other
  deriving DecidableEq, Repr

structure ScopeView where
  env : EnvView
  requireRelease : Int32
  deriving DecidableEq, Repr

inductive Answer
  | none
  | ok
  | flag (value : Bool)
  | code (status : Int)
  | text (s : String)
  | vm (present : Bool)
  | scope (scope : ScopeView)
  | detached (scope : ScopeView)
  | attached (status : Int) (scope : Option ScopeView)
  | string (className : String) (units : List UInt16)
  /-- What a reader of C strings sees. -/
  | cString (bytes : List UInt8)
  | released (isNull : Bool)
  | config (config : BridgeConfig)
  | newRuntime (config : BridgeConfig)
  | capabilities (className charset : Option String)
  | buffer (b : ByteBuffer)
  | roundTrip (buffer : Option ByteBuffer) (same : Bool)
  | byteArray (written : Except RuntimeError Unit) (len : Except RuntimeError Nat)
      (read : Except RuntimeError (List UInt8))
  | created (value : Bool)
  | bridgeError (e : BridgeError)
  | runtimeError (e : RuntimeError)
  | body (answers : List (Answer × Machine.View)) (panic : Option String)
  /-- A panic that reached the top of its step. -/
  | panicked (message : String)

end ManagedBridge.Jvm
