import ManagedBridge.CallContext
import ManagedBridge.Table
import ManagedBridge.Thread
import ManagedBridge.ZeroFilled
import ManagedBridge.Text.Utf8

/-!
# The in-process runtime

A managed runtime without a virtual machine behind it. It keeps, for each attached thread, the
pending exception and the number of live arrays, and it panics on misuse: a context used on a
thread that is no longer attached, an array released on a thread that has none, or a detach that the
runtime was not asked for. The first two of these happen while the table of threads is locked and
leave the lock poisoned: whatever needs the table after that panics. Strings are texts; building one
decodes UTF-8 with replacement.
-/

namespace ManagedBridge.InProcess

/-- What the runtime keeps of an attached thread. -/
structure ThreadRecord where
  pending : Option String := none
  /-- How many arrays were handed out and not yet released. -/
  liveArrays : Nat := 0
  /-- Whether the thread was attached by someone else than the bridge. -/
  external : Bool := false
  deriving DecidableEq, Repr

structure Runtime where
  threads : Table ThreadId ThreadRecord := {}
  /-- Whether a panic has left the table of threads locked. -/
  poisoned : Bool := false
  /-- The exceptions that have been reported, the oldest first. -/
  described : List String := []
  attachCalls : Nat := 0
  detachCalls : Nat := 0
  resolveCalls : Nat := 0
  runtimeCalls : Nat := 0
  rejectAttach : Bool := false
  failResolution : Bool := false
  failNextAllocation : Bool := false
  throwOnConstruct : Bool := false

/-- The handles of the in-process runtime: the name of its string class. -/
structure Capabilities where
  className : String
  deriving DecidableEq, Repr

def stringCapabilities : Capabilities := ⟨"java/lang/String"⟩

/-- A byte array, by its number among all that were made. -/
abbrev ArrayId := Nat

/-- A runtime with all arrays that were made. -/
structure State where
  runtime : Runtime := {}
  arrays : List (ZeroFilled UInt8) := []

def usedAfterDetach : String := "call context used after detach"

def releasedTooOften : String := "attempt to subtract with overflow"

def detachedUnattached : String := "detached a thread that is not attached"

def detachedForeign : String := "detached a thread owned by someone else"

/-- What every use of a poisoned lock says. -/
def poisonedLock : String :=
  "called `Result::unwrap()` on an `Err` value: PoisonError \x7b .. \x7d"

/-- The record with one live array less, if it has one. -/
def ThreadRecord.releaseArray (record : ThreadRecord) : Except String ThreadRecord :=
  match record.liveArrays with
  | 0 => .error releasedTooOften
  | left + 1 => .ok { record with liveArrays := left }

/-- A change of the table of threads that returns a value, or the panic that it ends in. -/
def Runtime.lockThreads {α : Type} (r : Runtime)
    (f : Table ThreadId ThreadRecord → Except String (α × Table ThreadId ThreadRecord)) :
    Except String α × Runtime :=
  if r.poisoned then (.error poisonedLock, r)
  else
    match f r.threads with
    | .ok (a, threads) => (.ok a, { r with threads })
    | .error message => (.error message, { r with poisoned := true })

namespace Context

variable {α : Type}

def modifyRuntime (f : Runtime → Runtime) : Call State Unit :=
  Call.step fun s => ((), { s with runtime := f s.runtime })

def getRuntime : Call State Runtime := Call.step fun s => (s.runtime, s)

/-- Locks the table of threads for one change. A change that ends in a panic poisons the lock. -/
def onThreads
    (f : Table ThreadId ThreadRecord → Except String (α × Table ThreadId ThreadRecord)) :
    Call State α := do
  match ← Call.step fun s =>
    ((s.runtime.lockThreads f).1, { s with runtime := (s.runtime.lockThreads f).2 }) with
  | .ok a => return a
  | .error message => Call.panic message

def readThreads (f : Table ThreadId ThreadRecord → α) : Call State α :=
  onThreads fun threads => .ok (f threads, threads)

def modifyThreads (f : Table ThreadId ThreadRecord → Table ThreadId ThreadRecord) :
    Call State Unit :=
  onThreads fun threads => .ok ((), f threads)

def isAttached (t : ThreadId) : Call State Bool := readThreads (·.contains t)

/-- Attaches a thread the way its owner would, past the counts. -/
def attachExternally (t : ThreadId) : Call State Unit :=
  modifyThreads (·.set t { external := true })

def detachExternally (t : ThreadId) : Call State Unit := modifyThreads (·.erase t)

/-- Attaches a thread, unless attachments are refused; a thread that is attached keeps its
record. -/
def attach (t : ThreadId) : Call State (Except RuntimeError Unit) := do
  if (← getRuntime).rejectAttach then return .error (.other "attach rejected")
  else
    modifyRuntime fun r => { r with attachCalls := r.attachCalls + 1 }
    modifyThreads fun threads => threads.set t (threads.getD t {})
    return .ok ()

/-- Detaches a thread, which has to be attached and not by someone else. -/
def detach (t : ThreadId) : Call State Unit := do
  modifyRuntime fun r => { r with detachCalls := r.detachCalls + 1 }
  match ← onThreads fun threads => .ok (threads.get? t, threads.erase t) with
  | none => Call.panic detachedUnattached
  | some record => if record.external then Call.panic detachedForeign else return ()

/-- Reads and changes at once the record of a thread, which has to be attached, or ends in the panic
of the change. -/
def onRecord (t : ThreadId) (f : ThreadRecord → Except String (α × ThreadRecord)) :
    Call State α :=
  onThreads fun threads =>
    match threads.get? t with
    | some record => (f record).map fun (a, record) => (a, threads.set t record)
    | none => .error usedAfterDetach

def readRecord (t : ThreadId) (f : ThreadRecord → α) : Call State α :=
  onRecord t fun record => .ok (f record, record)

def modifyRecord (t : ThreadId) (f : ThreadRecord → ThreadRecord) : Call State Unit :=
  onRecord t fun record => .ok ((), f record)

/-- Raises an exception on the thread, in place of one that is pending. -/
def throwException (t : ThreadId) (message : String) : Call State Unit :=
  modifyRecord t fun record => { record with pending := some message }

/-- Whether an allocation is to fail; the next one is not. -/
def takeAllocationFailure : Call State Bool :=
  Call.step fun s =>
    (s.runtime.failNextAllocation,
      { s with runtime := { s.runtime with failNextAllocation := false } })

/-- Counts a runtime call, which an exception that is pending refuses. -/
def call (t : ThreadId) : Call State (Except RuntimeError Unit) := do
  modifyRuntime fun r => { r with runtimeCalls := r.runtimeCalls + 1 }
  if ← readRecord t (·.pending.isSome) then return .error .exceptionPending else return .ok ()

/-- Makes an array, unless an allocation is to fail. -/
def allocate (t : ThreadId) (array : ZeroFilled UInt8) :
    Call State (Except RuntimeError ArrayId) := do
  if ← takeAllocationFailure then
    throwException t "java/lang/OutOfMemoryError"
    return .error .outOfMemory
  else
    modifyRecord t fun record => { record with liveArrays := record.liveArrays + 1 }
    Call.step fun s => (.ok s.arrays.length, { s with arrays := s.arrays ++ [array] })

def content (array : ArrayId) : Call State (ZeroFilled UInt8) :=
  Call.step fun s => (s.arrays.getD array (.zeros 0), s)

def outOfBounds : RuntimeError := .other "array index out of bounds"

def resolve (t : ThreadId) : Call State (Except RuntimeError Capabilities) := do
  modifyRuntime fun r => { r with resolveCalls := r.resolveCalls + 1 }
  match ← call t with
  | .error e => return .error e
  | .ok () =>
    if (← getRuntime).failResolution then return .error (.other "class not found")
    else return .ok stringCapabilities

def stringBytes (t : ThreadId) (string : String) : Call State (Except RuntimeError ArrayId) := do
  match ← call t with
  | .error e => return .error e
  | .ok () => allocate t (.ofList (Text.Utf8.encode string))

def newByteArray (t : ThreadId) (len : Nat) : Call State (Except RuntimeError ArrayId) := do
  match ← call t with
  | .error e => return .error e
  | .ok () => allocate t (.zeros len)

def byteArrayLen (t : ThreadId) (array : ArrayId) : Call State (Except RuntimeError Nat) := do
  match ← call t with
  | .error e => return .error e
  | .ok () => return .ok (← content array).length

def readByteArray (t : ThreadId) (array : ArrayId) (len : Nat) :
    Call State (Except RuntimeError (List UInt8)) := do
  match ← call t with
  | .error e => return .error e
  | .ok () =>
    let bytes ← content array
    if len ≤ bytes.length then return .ok (bytes.slice 0 len)
    else return .error outOfBounds

def writeByteArray (t : ThreadId) (array : ArrayId) (bytes : List UInt8) :
    Call State (Except RuntimeError Unit) := do
  match ← call t with
  | .error e => return .error e
  | .ok () =>
    let old ← content array
    if bytes.length ≤ old.length then
      Call.step fun s => (.ok (), { s with arrays := s.arrays.set array (old.write 0 bytes) })
    else return .error outOfBounds

def newString (t : ThreadId) (array : ArrayId) : Call State (Except RuntimeError String) := do
  match ← call t with
  | .error e => return .error e
  | .ok () =>
    if (← getRuntime).throwOnConstruct then
      throwException t "java/lang/IllegalArgumentException"
      return .error .exceptionPending
    else return .ok (Text.Utf8.decodeLossy (← content array).toList)

/-- Releases an array; which one makes no difference, but the thread has to have one. -/
def releaseBytes (t : ThreadId) : Call State Unit :=
  onRecord t fun record => record.releaseArray.map fun record => ((), record)

def liveArrays (t : ThreadId) : Call State Nat := readRecord t (·.liveArrays)

def exceptionPending (t : ThreadId) : Call State Bool := readRecord t (·.pending.isSome)

/-- Reports the pending exception, which stays pending. -/
def describeException (t : ThreadId) : Call State Unit := do
  match ← readRecord t (·.pending) with
  | some message => modifyRuntime fun r => { r with described := r.described ++ [message] }
  | none => return ()

def clearException (t : ThreadId) : Call State Unit :=
  modifyRecord t fun record => { record with pending := none }

end Context

/-- The call context of a thread. -/
def context (t : ThreadId) : CallContext State Capabilities String ArrayId where
  resolveCapabilities := Context.resolve t
  stringBytes _ string := Context.stringBytes t string
  byteArrayLen := Context.byteArrayLen t
  readByteArray := Context.readByteArray t
  newByteArray := Context.newByteArray t
  writeByteArray := Context.writeByteArray t
  newString _ array := Context.newString t array
  releaseBytes _ := Context.releaseBytes t
  exceptionPending := Context.exceptionPending t
  describeException := Context.describeException t
  clearException := Context.clearException t

/-- The runtime as a thread sees it. Its contexts need nothing but the thread. -/
def managedRuntime (t : ThreadId) : ManagedRuntime State ThreadId where
  currentContext := do
    if ← Context.isAttached t then return some t else return none
  attachCurrentThread := do
    match ← Context.attach t with
    | .error e => return .error e
    | .ok () => return .ok t
  detachCurrentThread := Context.detach t

end ManagedBridge.InProcess
