import ManagedBridge.InProcess.Stage

/-!
# Sessions

A session is a list of steps, each on a thread, run in order over one stage. A panic inside a
scope's body unwinds through the scope and is part of the scope's answer; a panic outside of all
scopes ends the session.
-/

namespace ManagedBridge.InProcess.Session

open Stage

abbrev Run := Act Stage

def keep (keepAs : Option String) (text : String) : Call Stage Unit := do
  if let some name := keepAs then
    Call.write stringsAt ((← Call.read stringsAt).set name text)

def kept (name : Option String) : Call Stage (Option String) := do
  let strings ← Call.read stringsAt
  return name.bind strings.get?

/-- The newest slot of a name. -/
def slot? (t : ThreadId) (name : String) : Call Stage (Option Slot) := do
  return (← Call.read (holdingsAt t)).slots.lookup name

def pushSlot (t : ThreadId) (name : String) (slot : Slot) : Call Stage Unit := do
  let h ← Call.read (holdingsAt t)
  Call.write (holdingsAt t) { h with slots := (name, slot) :: h.slots }

/-- Takes the newest slot of a name away from its thread. -/
def takeSlot (t : ThreadId) (name : String) : Call Stage (Option Slot) := do
  let h ← Call.read (holdingsAt t)
  Call.write (holdingsAt t) { h with slots := h.slots.eraseP (·.1 == name) }
  return h.slots.lookup name

def array? (t : ThreadId) (name : String) : Call Stage (Option ArrayId) := do
  return (← Call.read (holdingsAt t)).arrays.get? name

def setArray (t : ThreadId) (name : String) (array : ArrayId) : Call Stage Unit := do
  let h ← Call.read (holdingsAt t)
  Call.write (holdingsAt t) { h with arrays := h.arrays.set name array }

def dropArray (t : ThreadId) (name : String) : Call Stage Unit := do
  let h ← Call.read (holdingsAt t)
  Call.write (holdingsAt t) { h with arrays := h.arrays.erase name }

/-- The answer to a conversion into a managed string; a string that was built is kept. -/
def answerString (keepAs : Option String) :
    Except BridgeError (Option String) → Call Stage Answer
  | .error e => return .bridgeError e
  | .ok none => return .none
  | .ok (some text) => do
    keep keepAs text
    return .string text

/-- The answer to a conversion into a buffer, which is given back. -/
def answerBuffer : Except BridgeError (Option ByteBuffer) → Call Stage Answer
  | .error e => return .bridgeError e
  | .ok none => return .none
  | .ok (some buffer) => do
    buffer.release
    return .buffer buffer

def answerUnit : Except RuntimeError Unit → Answer
  | .error e => .runtimeError e
  | .ok () => .ok

/-- Runs an operation on a named array, which has to be there. -/
def onArray (t : ThreadId) (name : String) (run : ArrayId → Run Answer) : Run Answer := do
  match ← array? t name with
  | some array => run array
  | none => return .none

/-- Keeps a new array under its name. -/
def answerArray (t : ThreadId) (name : String) :
    Except RuntimeError ArrayId → Call Stage Answer
  | .error e => return .runtimeError e
  | .ok array => do
    setArray t name array
    return .ok

/-- Converts bytes into a managed string and back. -/
def roundTrip (ref : ContextRef) (bridge : String) (bytes? : Option (List UInt8)) :
    Run Answer := do
  match ← Bridge.managedFromNative (bridgeAt bridge) (Host.context ref) bytes? with
  | .error e => return .bridgeError e
  | .ok string? =>
    match ← Bridge.nativeFromManaged (bridgeAt bridge) (Host.context ref) string? with
    | .error e => return .bridgeError e
    | .ok buffer? =>
      if let some buffer := buffer? then buffer.release (σ := Stage)
      return .roundTrip buffer? (buffer?.map ByteBuffer.content == bytes?)

def contextStep (t : ThreadId) (host : String) (ref : ContextRef) : ContextStep → Run Answer
  | .managedFromNative bridge bytes? keepAs => do
    answerString keepAs (← Bridge.managedFromNative (bridgeAt bridge) (Host.context ref) bytes?)
  | .toManaged bytes? keepAs => do
    answerString keepAs (← Marshal.toManaged (Host.context ref) stringCapabilities bytes?)
  | .nativeFromManaged bridge name => do
    answerBuffer (← Bridge.nativeFromManaged (bridgeAt bridge) (Host.context ref) (← kept name))
  | .toNative name => do
    answerBuffer (← Marshal.toNative (Host.context ref) stringCapabilities (← kept name))
  | .stringFromManaged bridge name => do
    match ← Bridge.stringFromManaged (bridgeAt bridge) (Host.context ref) (← kept name) with
    | .error e => return .bridgeError e
    | .ok none => return .none
    | .ok (some text) => return .text text
  | .roundTrip bridge bytes? => roundTrip ref bridge bytes?
  | .drain => return .flag (← drain (Host.context ref))
  | .throwException message => do
    Host.onRuntime ref.host (Context.throwException ref.thread message)
    return .none
  | .describe => do
    (Host.context ref).describeException
    return .none
  | .clear => do
    (Host.context ref).clearException
    return .none
  | .pending => return .flag (← (Host.context ref).exceptionPending)
  | .liveArrays => do
    return .count (← Host.onRuntime ref.host (Context.liveArrays ref.thread))
  | .resolve => do
    match ← (Host.context ref).resolveCapabilities with
    | .error e => return .runtimeError e
    | .ok caps => return .className caps.className
  | .fillCache cache => do
    match ← CapabilityCache.fill (cacheAt cache) (Host.context ref) with
    | .error e => return .bridgeError e
    | .ok () => return .ok
  | .startBridge bridge => do
    match ← Bridge.start (bridgeAt bridge) host (Host.context ref) with
    | .error e => return .bridgeError e
    | .ok () => return .ok
  | .arrayNew name len => do
    if len ≤ ByteBuffer.maxRequest then answerArray t name (← (Host.context ref).newByteArray len)
    else
      match ← (Host.context ref).newByteArray 0 with
      | .error e => return .runtimeError e
      | .ok _ => throw (.raised ByteBuffer.requestExceeded)
  | .arrayWrite name bytes => onArray t name fun array => do
    return answerUnit (← (Host.context ref).writeByteArray array bytes)
  | .arrayLen name => onArray t name fun array => do
    match ← (Host.context ref).byteArrayLen array with
    | .error e => return .runtimeError e
    | .ok len => return .count len
  | .arrayRead name len => onArray t name fun array => do
    if len > ByteBuffer.maxRequest then throw (.raised ByteBuffer.requestExceeded)
    match ← (Host.context ref).readByteArray array len with
    | .error e => return .runtimeError e
    | .ok bytes => return .bytes bytes
  | .arrayRelease name => onArray t name fun array => do
    dropArray t name
    (Host.context ref).releaseBytes array
    return .none
  | .newString name keepAs => onArray t name fun array => do
    match ← (Host.context ref).newString stringCapabilities array with
    | .error e => return .runtimeError e
    | .ok text => do
      keep keepAs text
      return .string text
  | .stringBytes string name => do
    match ← kept string with
    | none => return .none
    | some text =>
      answerArray t name (← (Host.context ref).stringBytes stringCapabilities text)

/-- Begins a scope and keeps it in a slot. -/
def beginScope (t : ThreadId) (slot : String)
    (entered : Except BridgeError (ContextRef × Attachment)) (answer : Attachment → Answer) :
    Call Stage Answer :=
  match entered with
  | .error e => return .bridgeError e
  | .ok (context, attachment) => do
    pushSlot t slot (.scope context attachment)
    return answer attachment

/-- What one of the threads of a concurrent run answers with, from its context on. -/
def convertOwnText (bridge : String) (ref : ContextRef) (attachment : Attachment)
    (text : String) : Run Answer := do
  match ← Bridge.managedFromNative (bridgeAt bridge) (Host.context ref)
      (some (Text.Utf8.encode text)) with
  | .error e => return .bridgeError e
  | .ok string? =>
    match ← Bridge.stringFromManaged (bridgeAt bridge) (Host.context ref) string? with
    | .error e => return .bridgeError e
    | .ok text? => return .worker attachment.created text?

/-- Attaches every thread, then converts on every thread, then ends every scope. -/
def concurrent (bridge : String) (threads : Nat) (stem : String) : Run Answer := do
  let entered ← (List.range threads).mapM fun i =>
    Bridge.attach (bridgeAt bridge) (Host.managedRuntime (.worker i))
  let answers ← entered.zipIdx.mapM fun (scope, i) =>
    match scope with
    | .error e => return .bridgeError e
    | .ok (_, ref, attachment) => convertOwnText bridge ref attachment (stem ++ toString i)
  entered.zipIdx.forM fun (scope, i) =>
    match scope with
    | .error _ => return ()
    | .ok (host, _, attachment) =>
      Attachment.exit (Host.managedRuntime (.worker i) host) attachment
  return .threads answers

/-- Takes the answers of the scope that is running. -/
def takeAnswers : Call Stage (List Answer) := do
  let answers ← Call.read answersAt
  Call.write answersAt []
  return answers.reverse

def pushAnswer (answer : Answer) : Call Stage Unit := do
  Call.write answersAt (answer :: (← Call.read answersAt))

/-- Runs `body` with no answers yet, and gives back its answers and how it ended. The answers of the
scope outside are put back. -/
def collected {α : Type} (body : Run α) : Run (List Answer × Except String α) := do
  let outer ← Call.read answersAt
  Call.write answersAt []
  let ended ← body.caught
  let answers ← takeAnswers
  Call.write answersAt outer
  return (answers, ended)

/-- The context of a step: that of the newest slot of a name, else that of the scope around. -/
def contextFor (t : ThreadId) (around : Option ContextRef) (slot : String) :
    Call Stage (Option ContextRef) := do
  match ← slot? t slot with
  | some slot => return some slot.context
  | none => return around

mutual

/-- Runs a step on a thread, inside the scope `around` if there is one. -/
def runStep (t : ThreadId) (around : Option ContextRef) : Step → Run Answer
  | .on host action => do
    Call.write (hostAt host) (← Call.read (hostAt host))
    runAction t around host action

def runAction (t : ThreadId) (around : Option ContextRef) (host : String) : Action → Run Answer
  | .set flag value => do
    let h ← Call.read (hostAt host)
    Call.write (hostAt host) { h with runtime := h.runtime.setFlag flag value }
    return .none
  | .arm fault => do
    let h ← Call.read (hostAt host)
    Call.write (hostAt host) { h with faults := h.faults ++ [fault] }
    return .none
  | .attachExternally => do
    Host.onRuntime host (Context.attachExternally t)
    return .none
  | .detachExternally => do
    Host.onRuntime host (Context.detachExternally t)
    return .none
  | .stats => do
    let attached ← Host.onRuntime host (Context.isAttached t)
    return .stats (← Host.onRuntime host Context.getRuntime).stats attached
  | .resetEvents => do
    Act.resetEvents
    return .none
  | .isInitialized bridge => return .flag (← Call.read (bridgeAt bridge)).isInitialized
  | .capabilities bridge => do
    match (← Call.read (bridgeAt bridge)).capabilities with
    | .error e => return .bridgeError e
    | .ok caps => return .className caps.className
  | .runtime bridge => do
    match (← Call.read (bridgeAt bridge)).runtime with
    | .error e => return .bridgeError e
    | .ok name => return .runtime name
  | .cacheGet cache => do
    match (← Call.read (cacheAt cache)).get with
    | .error e => return .bridgeError e
    | .ok caps => return .className caps.className
  | .cacheIsInitialized cache => return .flag (← Call.read (cacheAt cache)).isInitialized
  | .string keepAs text => do
    keep (some keepAs) text
    return .string text
  | .guard slot => do
    beginScope t slot (← Attachment.enter (Host.managedRuntime t host)) (.created ·.created)
  | .guardBridge slot bridge => do
    match ← Bridge.attach (bridgeAt bridge) (Host.managedRuntime t) with
    | .error e => return .bridgeError e
    | .ok (_, scope) => beginScope t slot (.ok scope) (.created ·.created)
  | .enter slot => do
    beginScope t slot (← Attachment.enter (Host.managedRuntime t host)) .entered
  | .context slot attach => do
    let rt := Host.managedRuntime t host
    if attach then
      match ← rt.attachCurrentThread with
      | .error e => return .runtimeError e
      | .ok ref =>
        pushSlot t slot (.bare ref)
        return .obtained true
    else
      match ← rt.currentContext with
      | none => return .obtained false
      | some ref =>
        pushSlot t slot (.bare ref)
        return .obtained true
  | .created slot => do
    match ← slot? t slot with
    | some (.scope _ attachment) => return .flag attachment.created
    | _ => return .none
  | .drop slot => do
    match ← takeSlot t slot with
    | some (.scope ref attachment) =>
      Attachment.exit (Host.managedRuntime t ref.host) (.ofRaw attachment.toRaw)
    | _ => pure ()
    return .none
  | .detach => do
    (Host.managedRuntime t host).detachCurrentThread
    return .none
  | .withAttachment bridge body panic stopOnError => do
    let (answers, ended) ← collected do
      Bridge.withAttachment (bridgeAt bridge) (Host.managedRuntime t) fun ref => do
        if ← runBody t ref stopOnError body then
          if let some message := panic then throw (.raised message)
    match ended with
    | .error message => return .body answers (some message)
    | .ok (.error e) => return .bridgeError e
    | .ok (.ok ()) => return .body answers none
  | .concurrent bridge threads stem => concurrent bridge threads stem
  | .inContext slot step => do
    match ← contextFor t around slot with
    | some ref => contextStep t host ref step
    | none => return .none

/-- Runs the steps of a body, and says whether all of them have been run. -/
def runBody (t : ThreadId) (ref : ContextRef) (stopOnError : Bool) : List Step → Run Bool
  | [] => return true
  | step :: steps => do
    let answer ← runStep t (some ref) step
    pushAnswer answer
    if stopOnError && answer.isError then return false else runBody t ref stopOnError steps

end

/-- What is observed of one step of a session. -/
structure Observation where
  answer : Answer
  events : Counter
  log : List LogLine

/-- The lines in the order of their text. -/
def sortLines (lines : List LogLine) : List LogLine :=
  lines.mergeSort fun a b => a.render ≤ b.render

/-- The log lines of a step, in the order of writing; those of threads that ran at once are
sorted. -/
def linesOf (step : Step) (log : List LogLine) : List LogLine :=
  match step with
  | .on _ (.concurrent ..) => sortLines log.reverse
  | _ => log.reverse

/-- Runs the steps one after the other. A panic is the last observation; without one, the stage is
left over. -/
def run : List (ThreadId × Step) → World Stage → List Observation × Option Stage
  | [], w => ([], some w.backend)
  | (t, step) :: steps, w =>
    match (runStep t none step).run { w with log := [] } with
    | (.ok answer, v) =>
      let (observations, stage) := run steps v
      (⟨answer, v.events, linesOf step v.log⟩ :: observations, stage)
    | (.error (.raised message), v) => ([⟨.panicked message, v.events, linesOf step v.log⟩], none)
    | (.error .abort, v) => ([⟨.none, v.events, linesOf step v.log⟩], none)

/-- Runs a session over an empty stage. -/
def start (steps : List (ThreadId × Step)) : List Observation × Option Stage :=
  run steps { backend := {} }

/-- The statistics of every runtime at the end, with the number of faults still armed. There are
none if a runtime can no longer be asked, its table of threads being locked for good. -/
def final (stage : Stage) : Option (List (String × Stats × Nat)) :=
  stage.hosts.entries.mapM fun (name, host) =>
    if host.runtime.poisoned then none
    else some (name, host.runtime.stats, host.faults.length)

end ManagedBridge.InProcess.Session
