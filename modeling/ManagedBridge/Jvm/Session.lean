import ManagedBridge.Jvm.Step

/-!
# Sessions

A session is a list of steps, each on a thread, run in order over one process and one simulated
machine. After each step the machine is viewed from the thread of the step.
-/

namespace ManagedBridge.Jvm

/-- A scope that is kept at hand on a thread. -/
structure Guard where
  runtime : Runtime
  context : Context ThreadId
  attachment : Attachment

/-- What a thread holds, the newest guard first. -/
structure Holdings where
  guards : List (String × Guard) := []
  scopes : Table String (Scope ThreadId) := {}
  slots : Table String Pointer := {}

structure Stage where
  process : Process Machine
  strings : Table String Handle := {}
  capabilities : Table String Capabilities := {}
  holdings : Table ThreadId Holdings := {}
  /-- The memory that C code is given, and an address from which on nothing was given out. -/
  memory : Heap × Nat := (.empty, 1)
  /-- The answers of the scope that is running, the last one first. -/
  answers : List (Answer × Machine.View) := []

namespace Stage

def processAt : Place Stage (Process Machine) := ⟨process, fun p s => { s with process := p }⟩

def machineAt : Place Stage Machine :=
  ⟨fun s => s.process.link.machine,
   fun m s => { s with process := { s.process with link := { s.process.link with machine := m } } }⟩

def stringsAt : Place Stage (Table String Handle) := ⟨strings, fun t s => { s with strings := t }⟩

def capabilitiesAt : Place Stage (Table String Capabilities) :=
  ⟨capabilities, fun t s => { s with capabilities := t }⟩

def memoryAt : Place Stage (Heap × Nat) := ⟨memory, fun m s => { s with memory := m }⟩

def answersAt : Place Stage (List (Answer × Machine.View)) :=
  ⟨answers, fun a s => { s with answers := a }⟩

def holdingsAt (t : ThreadId) : Place Stage Holdings :=
  ⟨fun s => s.holdings.getD t {}, fun h s => { s with holdings := s.holdings.set t h }⟩

end Stage

namespace Session

open Stage

abbrev Run := Act Stage

/-- An operation of the process. -/
def onProcess {α : Type} (act : Act (Process Machine) α) : Run α := act.zoom processAt

/-- An operation of the process that counts no event. -/
def onLink {α : Type} (call : Call (Process Machine) α) : Call Stage α := call.zoom processAt

/-- Something done in the machine itself. -/
def inMachine {α : Type} (f : StateM Machine α) : Call Stage α :=
  Call.zoom machineAt (Call.step f)

def readMachine : Call Stage Machine := Call.read machineAt

def view (t : ThreadId) : Call Stage Machine.View := do return (← readMachine).view t

/-- Keeps a reference that is not null. -/
def keep (keepAs : Option String) (string : Ref) : Call Stage Unit := do
  if let (some name, some handle) := (keepAs, string) then
    Call.write stringsAt ((← Call.read stringsAt).set name handle)

def kept (name : Option String) : Call Stage Ref := do
  let strings ← Call.read stringsAt
  return name.bind strings.get?

def scopeOf (t : ThreadId) (slot : String) : Call Stage (Scope ThreadId) := do
  return (← Call.read (holdingsAt t)).scopes.getD slot {}

def setScope (t : ThreadId) (slot : String) (scope : Scope ThreadId) : Call Stage Unit := do
  let h ← Call.read (holdingsAt t)
  Call.write (holdingsAt t) { h with scopes := h.scopes.set slot scope }

def setSlot (t : ThreadId) (name : String) (slot : Pointer) : Call Stage Unit := do
  let h ← Call.read (holdingsAt t)
  Call.write (holdingsAt t) { h with slots := h.slots.set name slot }

/-- Hands a string over to C code, at an address that was not given out before. -/
def handOver (answer : Option (List UInt8)) : Call Stage Pointer := do
  let (heap, next) ← Call.read memoryAt
  let (pointer, heap) := Heap.hand heap next answer
  Call.write memoryAt (heap, next + 1)
  return pointer

/-- Releases what a slot points to. Nothing goes on after a release of what is not in use. -/
def releaseSlot (slot? : Option Pointer) : Call Stage (Option Pointer) := do
  let (heap, next) ← Call.read memoryAt
  let some (slot?, heap) := CInterface.releaseString heap slot? | throw .abort
  Call.write memoryAt (heap, next)
  return slot?

/-- The environment that a thread has, if it is attached. -/
def ownEnv (t : ThreadId) : Call Stage (Option ThreadId) := do
  return if (← readMachine).isAttached t then some t else none

def envOf (t : ThreadId) : EnvChoice → Call Stage (Option ThreadId)
  | .own => ownEnv t
  | .null => return none
  | .scope slot => do return (← scopeOf t slot).env

/-- Keeps a capability set. One that was kept under the same name is not given back: its references
stay with the machine. -/
def keepCapabilities (name : String) (caps : Capabilities) : Call Stage Unit := do
  Call.write capabilitiesAt ((← Call.read capabilitiesAt).set name caps)

/-- The string that a reference leads to. -/
def stringAnswer (m : Machine) (string : Ref) : Answer :=
  match m.object? string with
  | some (.text className units) => .string className units
  | _ => .none

def capabilitiesAnswer (m : Machine) (caps : Capabilities) : Answer :=
  .capabilities (m.classNameOf? caps.stringClass)
    (match m.object? caps.charset with
    | some (.charset cs) => some cs.name
    | _ => none)

def scopeView (t : ThreadId) (scope : Scope ThreadId) : Call Stage ScopeView := do
  let own ← ownEnv t
  let env : EnvView :=
    if scope.env.isNone then .null else if scope.env = own then .current else .other
  return ⟨env, scope.requireRelease⟩

/-- The answer to a conversion into a string, which is kept. -/
def answerString (keepAs : Option String) : Except BridgeError Ref → Call Stage Answer
  | .error e => return .bridgeError e
  | .ok string => do
    keep keepAs string
    return stringAnswer (← readMachine) string

/-- The answer to a conversion into a buffer, which is given back. -/
def answerBuffer : Except BridgeError (Option ByteBuffer) → Call Stage Answer
  | .error e => return .bridgeError e
  | .ok none => return .none
  | .ok (some buffer) => do
    buffer.release
    return .buffer buffer

variable (vm : InvocationInterface Machine ThreadId) (t : ThreadId)

/-- A capability set by its name, which has to be there. -/
def withCapabilities (name : String) (run : Capabilities → Run Answer) : Run Answer := do
  match (← Call.read capabilitiesAt).get? name with
  | some caps => run caps
  | none => return .none

/-- Converts bytes into a string and back. -/
def roundTrip (c : Context ThreadId) (bytes? : Option (List UInt8)) : Run Answer := do
  match ← onProcess (Process.managedFromNative vm t c bytes?) with
  | .error e => return .bridgeError e
  | .ok string =>
    match ← onProcess (Process.nativeFromManaged vm t c string) with
    | .error e => return .bridgeError e
    | .ok buffer? =>
      if let some buffer := buffer? then buffer.release (σ := Stage)
      return .roundTrip buffer? (buffer?.map ByteBuffer.content == bytes?)

/-- Makes an array and does everything with it that a context can do. -/
def byteArray (ctx : CallContext Stage Capabilities Ref Handle) (len : Nat)
    (bytes : List UInt8) (read : Nat) : Call Stage Answer := do
  match ← ctx.newByteArray len with
  | .error e => return .runtimeError e
  | .ok array =>
    let written ← ctx.writeByteArray array bytes
    let len ← ctx.byteArrayLen array
    if read > ByteBuffer.maxRequest then Call.panic ByteBuffer.requestExceeded
    let content ← ctx.readByteArray array read
    ctx.releaseBytes array
    return .byteArray written len (content.map fun bytes => (ByteBuffer.filled read bytes).content)

def contextStep (c : Context ThreadId) : ContextStep → Run Answer
  | .managedFromNative bytes? keepAs => do
    answerString keepAs (← onProcess (Process.managedFromNative vm t c bytes?))
  | .nativeFromManaged name => do
    answerBuffer (← onProcess (Process.nativeFromManaged vm t c (← kept name)))
  | .stringFromManaged name => do
    match ← onProcess (Process.stringFromManaged vm t c (← kept name)) with
    | .error e => return .bridgeError e
    | .ok none => return .none
    | .ok (some text) => return .text text
  | .roundTrip bytes? => roundTrip vm t c bytes?
  | .resolve keepAs => do
    match ← ctx.resolveCapabilities with
    | .error e => return .runtimeError e
    | .ok caps =>
      let answer := capabilitiesAnswer (← readMachine) caps
      match keepAs with
      | some name => keepCapabilities name caps
      | none => onLink (.zoom Process.linkPlace (caps.drop vm t))
      return answer
  | .toManaged name bytes? keepAs => withCapabilities name fun caps => do
    answerString keepAs ((← Marshal.toManaged ctx caps bytes?).map Option.join)
  | .toNative name string => withCapabilities name fun caps => do
    answerBuffer (← Marshal.toNative ctx caps (some (← kept string)))
  | .drain => return .flag (← ManagedBridge.drain ctx)
  | .pending => return .flag (← ctx.exceptionPending)
  | .describe => do
    ctx.describeException
    return .none
  | .clear => do
    ctx.clearException
    return .none
  | .findClass name => do
    return .flag (← onLink (.zoom Process.linkPlace (Checked.findClass jni name).run)).isOk
  | .delete name => do
    let string ← kept name
    return .flag (← onLink (.zoom Process.linkPlace (Checked.deleteLocalRef jni string).run)).isOk
  | .byteArray len bytes read => byteArray ctx len bytes read
where
  ctx := (Process.context vm t c).zoom processAt
  jni := vm.functions c.env

/-- The context of a step, or why there is none. -/
def contextFor (around : Option (Context ThreadId)) (slot : String) (env : EnvChoice) :
    Call Stage (Except RuntimeError (Context ThreadId)) := do
  match (← Call.read (holdingsAt t)).guards.lookup slot, around with
  | some guard, _ => return .ok guard.context
  | none, some c => return .ok c
  | none, none =>
    match ← envOf t env with
    | some env => return .ok ⟨env, {}⟩
    | none => return .error CallError.nullArgument.toRuntime

def pushAnswer (answer : Answer) : Call Stage Unit := do
  let view ← view t
  Call.write answersAt ((answer, view) :: (← Call.read answersAt))

/-- Runs `body` with no answers yet, and gives back its answers and how it ended. The answers of the
scope outside are put back. -/
def collected {α : Type} (body : Run α) :
    Run (List (Answer × Machine.View) × Except String α) := do
  let outer ← Call.read answersAt
  Call.write answersAt []
  let ended ← body.caught
  let answers ← Call.read answersAt
  Call.write answersAt outer
  return (answers.reverse, ended)

mutual

/-- Runs a step, inside the scope `around` if there is one. -/
def runStep (around : Option (Context ThreadId)) : Step → Run Answer
  | .machineAttach => do
    inMachine (modify (·.attach t))
    return .none
  | .machineDetach => do
    inMachine (modify (·.detach t))
    return .none
  | .machineThrow e => do
    inMachine (modify (·.throwOn t e))
    return .none
  | .machineString className units keepAs => do
    let string ← inMachine (Machine.newLocal t (.text className units))
    keep keepAs string
    return stringAnswer (← readMachine) string
  | .arm fault => do
    inMachine (modify fun m => { m with faults := m.faults ++ [fault] })
    return .none
  | .startFromC pointer env => do
    let env ← envOf t env
    return .code (← onLink (CInterface.start vm t pointer env))
  | .globalVm => do return .vm (← onLink CInterface.globalVm).isSome
  | .setScope slot requireRelease => do
    let scope : Scope ThreadId := ⟨none, requireRelease⟩
    setScope t slot scope
    return .scope (← scopeView t scope)
  | .attachThread none => do
    let (status, _) ← onProcess (CInterface.attachThread vm t none)
    return .attached status none
  | .attachThread (some slot) => do
    let (status, scope) ← onProcess (CInterface.attachThread vm t (some (← scopeOf t slot)))
    setScope t slot (scope.getD {})
    return .attached status (some (← scopeView t (scope.getD {})))
  | .detachThread none => do
    let _ ← onProcess (CInterface.detachThread vm t none)
    return .none
  | .detachThread (some slot) => do
    let scope ← onProcess (CInterface.detachThread vm t (some (← scopeOf t slot)))
    setScope t slot (scope.getD {})
    return .detached (← scopeView t (scope.getD {}))
  | .newCString env bytes? keepAs => do
    let env ← envOf t env
    let string ← onProcess (CInterface.newString vm t env bytes?)
    keep keepAs string
    return stringAnswer (← readMachine) string
  | .getCString env name keepAs => do
    let env ← envOf t env
    let slot ← handOver (← onProcess (CInterface.getString vm t env (← kept name)))
    let block? := (← Call.read memoryAt).1.block? slot
    match keepAs with
    | some name => setSlot t name slot
    | none => let _ ← releaseSlot (some slot)
    return block?.elim .none fun block => .cString (cStringView block)
  | .releaseCString none => do
    let _ ← releaseSlot none
    return .none
  | .releaseCString (some name) => do
    let slot := (← Call.read (holdingsAt t)).slots.getD name none
    let left := (← releaseSlot (some slot)).getD none
    setSlot t name left
    return .released left.isNone
  | .catchException env => do
    let env ← envOf t env
    return .code (if ← onProcess (CInterface.catchException vm t env) then 1 else 0)
  | .load => do return .code (← onLink (Process.load vm t Machine.address))
  | .start config env => do
    match ← envOf t env with
    | none => return .runtimeError CallError.nullArgument.toRuntime
    | some env =>
      match ← onLink (Process.start vm t Machine.address env config) with
      | .error e => return .bridgeError e
      | .ok () => return .ok
  | .newRuntime => return .newRuntime ({ vm := Machine.address } : Runtime).config
  | .isInitialized => return .flag (← bridge).isInitialized
  | .runtime => do
    match (← bridge).runtime with
    | .error e => return .bridgeError e
    | .ok rt => return .config rt.config
  | .capabilities => do
    match (← bridge).capabilities with
    | .error e => return .bridgeError e
    | .ok caps => return capabilitiesAnswer (← readMachine) caps
  | .withAttachment body panic => do
    let (answers, ended) ← collected do
      Bridge.withAttachment bridgeAt operations fun c => do
        runBody c body
        if let some message := panic then throw (.raised message)
    match ended with
    | .error message => return .body answers (some message)
    | .ok (.error e) => return .bridgeError e
    | .ok (.ok ()) => return .body answers none
  | .guard slot => do
    match ← Bridge.attach bridgeAt operations with
    | .error e => return .bridgeError e
    | .ok (runtime, context, attachment) =>
      let h ← Call.read (holdingsAt t)
      let guard : Guard := { runtime, context, attachment }
      Call.write (holdingsAt t) { h with guards := (slot, guard) :: h.guards }
      return .created attachment.created
  | .drop slot => do
    let h ← Call.read (holdingsAt t)
    Call.write (holdingsAt t) { h with guards := h.guards.eraseP (·.1 == slot) }
    if let some guard := h.guards.lookup slot then
      Attachment.exit (operations guard.runtime) guard.attachment
    return .none
  | .inContext slot env config step => do
    match ← contextFor t around slot env with
    | .error e => return .runtimeError e
    | .ok c => contextStep vm t { c with config := config.getD c.config } step
where
  bridgeAt : Place Stage (Bridge Runtime Capabilities) := processAt.inside Process.bridgePlace
  bridge : Call Stage (Bridge Runtime Capabilities) := Call.read bridgeAt
  operations (rt : Runtime) : ManagedRuntime Stage (Context ThreadId) :=
    (Process.runtime vm t rt).zoom processAt

/-- Runs the steps of a body. -/
def runBody (around : Context ThreadId) : List Step → Run Unit
  | [] => return ()
  | step :: steps => do
    pushAnswer t (← runStep (some around) step)
    runBody around steps

end

/-- What is observed of one step of a session. -/
structure Observation where
  answer : Answer
  view : Machine.View
  events : Counter
  log : List LogLine

/-- Runs the steps one after the other, and gives back the stage that is left over. A panic is the
answer of its step, and the session goes on. -/
def run : List (ThreadId × Step) → World Stage → List Observation × Stage
  | [], w => ([], w.backend)
  | (t, step) :: steps, w =>
    let (answer, v) := match (runStep vm t none step).run { w with log := [] } with
      | (.ok answer, v) => (answer, v)
      | (.error (.raised message), v) => (.panicked message, v)
      | (.error .abort, v) => (.none, v)
    let (observations, stage) := run steps v
    (⟨answer, v.backend.process.link.machine.view t, v.events, v.log.reverse⟩ :: observations,
      stage)

/-- What a session starts from. -/
structure Setup where
  classes : List (String × ClassInfo) := []
  missing : List Entry := []
  settings : Option (List UInt8) := none

/-- Runs a session on a new machine and in a new process. -/
def start (setup : Setup) (steps : List (ThreadId × Step)) : List Observation × Stage :=
  let machine : Machine := { classes := ⟨setup.classes⟩ }
  run (Machine.invocation setup.missing) steps
    { backend := { process := { link := { machine }, settings := setup.settings } } }

/-- The machine after the ends of all threads, which detach those that this side attached. -/
def afterExit (l : Link Machine) : Machine := l.guarded.foldl Machine.detach l.machine

end Session

end ManagedBridge.Jvm
