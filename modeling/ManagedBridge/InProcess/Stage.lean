import ManagedBridge.InProcess.Step

/-!
# The stage

Any number of runtimes, bridges and caches under their names, with the strings and arrays that a
run has made. A context on the stage belongs to one runtime and one thread; its operations are those
of the in-process runtime, except where a fault strikes.
-/

namespace ManagedBridge.InProcess

/-- A context: the runtime's name and the thread. -/
structure ContextRef where
  host : String
  thread : ThreadId
  deriving DecidableEq, Repr

/-- What keeps a context at hand on a thread. -/
inductive Slot
  /-- A scope; ending it undoes the attachment. -/
  | scope (context : ContextRef) (attachment : Attachment)
  /-- A context alone; dropping it does nothing. -/
  | bare (context : ContextRef)
  deriving Repr

def Slot.context : Slot → ContextRef
  | scope context _ => context
  | bare context => context

/-- What a thread holds, the newest slot first. -/
structure Holdings where
  slots : List (String × Slot) := []
  arrays : Table String ArrayId := {}

structure Stage where
  hosts : Table String Host := {}
  bridges : Table String (Bridge String Capabilities) := {}
  caches : Table String (CapabilityCache Capabilities) := {}
  strings : Table String String := {}
  arrays : List (ZeroFilled UInt8) := []
  holdings : Table ThreadId Holdings := {}
  /-- The answers of the scope that is running, the last one first. -/
  answers : List Answer := []

namespace Stage

def hostAt (name : String) : Place Stage Host :=
  ⟨fun s => s.hosts.getD name {}, fun h s => { s with hosts := s.hosts.set name h }⟩

/-- A runtime of the stage with the arrays that all runtimes share. -/
def stateAt (name : String) : Place Stage State :=
  ⟨fun s => ⟨(s.hosts.getD name {}).runtime, s.arrays⟩,
   fun t s =>
    { s with
      hosts := s.hosts.set name { s.hosts.getD name {} with runtime := t.runtime }
      arrays := t.arrays }⟩

def bridgeAt (name : String) : Place Stage (Bridge String Capabilities) :=
  ⟨fun s => s.bridges.getD name {}, fun b s => { s with bridges := s.bridges.set name b }⟩

def cacheAt (name : String) : Place Stage (CapabilityCache Capabilities) :=
  ⟨fun s => s.caches.getD name {}, fun c s => { s with caches := s.caches.set name c }⟩

def stringsAt : Place Stage (Table String String) :=
  ⟨strings, fun t s => { s with strings := t }⟩

def answersAt : Place Stage (List Answer) := ⟨answers, fun a s => { s with answers := a }⟩

def holdingsAt (t : ThreadId) : Place Stage Holdings :=
  ⟨fun s => s.holdings.getD t {}, fun h s => { s with holdings := s.holdings.set t h }⟩

end Stage

namespace Host

open Stage

variable {α : Type}

/-- An operation of the named runtime. -/
def onRuntime (name : String) (call : Call State α) : Call Stage α := call.zoom (stateAt name)

/-- The fault that strikes a call of `operation` on the named runtime, which is used up. -/
def strike (name : String) (operation : Operation) : Call Stage (Option Fault) := do
  let host ← Call.read (hostAt name)
  let (struck, faults) := OneShot.take (some operation) host.faults
  Call.write (hostAt name) { host with faults }
  return struck

/-- A context's operation, unless a fault strikes: the fault's exception is raised, and then
`struck` decides on its effect. -/
def faulty (ref : ContextRef) (operation : Operation)
    (usual : Call State (Except RuntimeError α))
    (struck : FaultEffect → Call Stage (Except RuntimeError α)) :
    Call Stage (Except RuntimeError α) := do
  match ← strike ref.host operation with
  | none => onRuntime ref.host usual
  | some fault =>
    if let some message := fault.throws then
      onRuntime ref.host (Context.throwException ref.thread message)
    match fault.effect with
    | .refuse e => return .error e
    | effect => struck effect

/-- The context with faults. Faults may start bridges and fill caches in the middle of a resolution
and so resolve again; `depth` bounds how often, and each time a fault is used up. -/
def contextWithin : (depth : Nat) → ContextRef → CallContext Stage Capabilities String ArrayId
  | depth, ref =>
    let usual := InProcess.context ref.thread
    let plain {α : Type} (operation : Operation) (call : Call State (Except RuntimeError α)) :=
      faulty ref operation call fun _ => onRuntime ref.host call
    { resolveCapabilities :=
        faulty ref .resolveCapabilities usual.resolveCapabilities fun effect => do
          match depth, effect with
          | depth + 1, .reenter cache bridge =>
            if let some name := cache then
              let _ ← CapabilityCache.fill (cacheAt name) (contextWithin depth ref)
            if let some name := bridge then
              let _ ← Bridge.start (bridgeAt name) ref.host (contextWithin depth ref)
          | _, _ => pure ()
          onRuntime ref.host usual.resolveCapabilities
      stringBytes := fun caps string =>
        faulty ref .stringBytes (usual.stringBytes caps string) fun effect => do
          match effect with
          | .content bytes =>
            match ← onRuntime ref.host (usual.newByteArray bytes.length) with
            | .error e => return .error e
            | .ok array =>
              match ← onRuntime ref.host (usual.writeByteArray array bytes) with
              | .error e => return .error e
              | .ok () => return .ok array
          | _ => onRuntime ref.host (usual.stringBytes caps string)
      byteArrayLen := fun array =>
        faulty ref .byteArrayLen (usual.byteArrayLen array) fun effect => do
          match effect with
          | .length len => return .ok len
          | _ => onRuntime ref.host (usual.byteArrayLen array)
      readByteArray := fun array len => plain .readByteArray (usual.readByteArray array len)
      newByteArray := fun len => plain .newByteArray (usual.newByteArray len)
      writeByteArray := fun array bytes => plain .writeByteArray (usual.writeByteArray array bytes)
      newString := fun caps array => plain .newString (usual.newString caps array)
      releaseBytes := fun array => onRuntime ref.host (usual.releaseBytes array)
      exceptionPending := onRuntime ref.host usual.exceptionPending
      describeException := onRuntime ref.host usual.describeException
      clearException := onRuntime ref.host usual.clearException }

/-- The context with faults, as deep as faults are armed. -/
def context (ref : ContextRef) : CallContext Stage Capabilities String ArrayId :=
  { contextWithin 0 ref with
    resolveCapabilities := do
      let depth := (← Call.read (hostAt ref.host)).faults.length
      (contextWithin depth ref).resolveCapabilities }

/-- The named runtime as a thread sees it, with faults. -/
def managedRuntime (t : ThreadId) (name : String) : ManagedRuntime Stage ContextRef :=
  let usual := InProcess.managedRuntime t
  { currentContext := do
      match ← strike name .currentContext with
      | some _ => return none
      | none =>
        let context ← onRuntime name usual.currentContext
        return context.map fun thread => ⟨name, thread⟩
    attachCurrentThread := do
      let attach := do
        let context ← onRuntime name usual.attachCurrentThread
        return context.map fun thread => (⟨name, thread⟩ : ContextRef)
      match ← strike name .attachCurrentThread with
      | some { effect := .refuse e, .. } => return .error e
      | _ => attach
    detachCurrentThread := onRuntime name usual.detachCurrentThread }

end Host

end ManagedBridge.InProcess
