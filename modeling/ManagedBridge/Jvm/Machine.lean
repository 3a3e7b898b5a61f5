import ManagedBridge.Jvm.Interface
import ManagedBridge.Jvm.Signature
import ManagedBridge.OneShot
import ManagedBridge.Table
import ManagedBridge.ZeroFilled
import ManagedBridge.Text.Charset

/-!
# A simulated virtual machine

A machine with just the classes, charsets and methods that string conversion needs. It keeps the
references of every thread and the pending exceptions, it notes which functions were called, and
faults can be armed for its functions.

A function that no thread may call while an exception is pending does nothing then. A reference
that leads to no object, because it was deleted or never handed out, is taken as it is. Only a
thread that is attached can be given a new local reference, and only that thread can delete it.
-/

namespace ManagedBridge.Jvm

structure Throwable where
  className : String
  message : Option String := none
  deriving DecidableEq, Repr

namespace Throwable

/-- A class and a message. -/
def withMessage (className : String) : Option String → String
  | some message => className ++ ": " ++ message
  | none => className

/-- The throwable as the machine reports it. -/
def report (e : Throwable) : String := withMessage e.className e.message

/-- The throwable as it describes itself, by the name that its class has in source text. -/
def text (e : Throwable) : String :=
  withMessage (e.className.map fun c => if c = '/' then '.' else c) e.message

end Throwable

inductive Object
  | text (className : String) (units : List UInt16)
  | bytes (content : ZeroFilled Int8)
  | classOf (name : String)
  | charset (charset : Text.Charset)
  | throwable (e : Throwable)

/-- The class of an object. -/
def Object.className : Object → String
  | text className _ => className
  | bytes _ => "[B"
  | classOf _ => "java/lang/Class"
  | charset _ => charsetClassName
  | throwable e => e.className

/-- A reference that is in use. -/
structure Reference where
  /-- The thread whose reference it is; a global reference is no thread's. -/
  owner : Option ThreadId
  /-- The number of the object. -/
  object : Nat
  deriving DecidableEq, Repr

/-- What the machine knows of a class: which of the two methods of strings it has. -/
structure ClassInfo where
  hasConstructor : Bool := false
  hasGetBytes : Bool := false
  deriving DecidableEq, Repr

structure ThreadState where
  pending : Option Throwable := none
  deriving DecidableEq, Repr

/-- What a fault makes a function do: it throws, and comes back with a code for its result. -/
structure Fault where
  throws : Option Throwable := none
  code : Int64 := 0
  deriving DecidableEq, Repr

namespace Fault

/-- The numbers from here on are no codes. The machine numbers its own references and methods with
them, so that a code in the place of one is never one of its own. -/
def codeBound : Nat := Nat.pow 2 64

/-- A code in the place of a reference or a method; zero is null. -/
def pointer (code : Int64) : Option Nat := if code = 0 then none else some code.toUInt64.toNat

/-- A code in the place of a truth value, which is a byte. -/
def truth (code : Int64) : Bool := code.toUInt64.toUInt8 == 1

/-- A code in the place of a status and of what comes with it; there is nothing with it. -/
def status {α : Type} (code : Int64) : Int32 × Option α := (code.toInt32, none)

end Fault

structure Machine where
  /-- Classes beside those that every machine has. -/
  classes : Table String ClassInfo := {}
  threads : Table ThreadId ThreadState := {}
  objects : List Object := []
  refs : Table Handle Reference := {}
  nextHandle : Handle := Fault.codeBound
  faults : List (OneShot String Fault) := []
  /-- The names of the functions that were called, the last one first. -/
  called : List String := []
  /-- The exceptions that were printed, the last one first. -/
  described : List String := []
  /-- How many texts of strings are lent out. -/
  lentTexts : Int := 0

namespace Machine

def isAttached (m : Machine) (t : ThreadId) : Bool := m.threads.contains t

def pending? (m : Machine) (t : ThreadId) : Option Throwable :=
  (m.threads.get? t).bind ThreadState.pending

def setPending (m : Machine) (t : ThreadId) (e : Option Throwable) : Machine :=
  { m with threads := m.threads.set t ⟨e⟩ }

/-- Throws on a thread, in place of what is pending; a thread that is not attached cannot throw. -/
def throwOn (m : Machine) (t : ThreadId) (e : Throwable) : Machine :=
  if m.isAttached t then m.setPending t (some e) else m

/-- The number of references that a thread has, or of the global ones. -/
def refCount (m : Machine) (owner : Option ThreadId) : Nat :=
  (m.refs.entries.filter fun entry => entry.2.owner = owner).length

def attach (m : Machine) (t : ThreadId) : Machine :=
  if m.isAttached t then m else { m with threads := m.threads.set t {} }

/-- Detaches a thread, whose references are gone with it. -/
def detach (m : Machine) (t : ThreadId) : Machine :=
  { m with
    threads := m.threads.erase t
    refs := ⟨m.refs.entries.filter fun entry => entry.2.owner ≠ some t⟩ }

def object? (m : Machine) (ref : Ref) : Option Object := do
  m.objects[(← m.refs.get? (← ref)).object]?

/-- A new reference to an object that the machine has. -/
def newRef (owner : Option ThreadId) (object : Nat) : StateM Machine Ref := fun m =>
  (some m.nextHandle,
    { m with refs := m.refs.set m.nextHandle ⟨owner, object⟩, nextHandle := m.nextHandle + 1 })

/-- A new object with a reference for the thread, which has to be attached to have one. -/
def newLocal (t : ThreadId) (object : Object) : StateM Machine Ref := do
  let m ← get
  if m.isAttached t then
    set { m with objects := m.objects ++ [object] }
    newRef (some t) m.objects.length
  else return none

/-- Deletes a reference of an owner; one of anybody else stays. -/
def deleteRef (owner : Option ThreadId) (ref : Ref) : StateM Machine Unit :=
  modify fun m =>
    match ref with
    | some handle =>
      if (m.refs.get? handle).any fun r => r.owner = owner then
        { m with refs := m.refs.erase handle }
      else m
    | none => m

/-- A text as a new string of the usual class. -/
def newText (t : ThreadId) (text : String) : StateM Machine Ref :=
  newLocal t (.text stringClassName (Text.Utf16.encode text))

/-- The text of a string object. -/
def text? (m : Machine) (ref : Ref) : Option String :=
  match m.object? ref with
  | some (.text _ units) => some (Text.Utf16.decodeLossy units)
  | _ => none

/-- A class by its exact name. -/
def class? (m : Machine) (name : String) : Option ClassInfo :=
  match m.classes.get? name with
  | some info => some info
  | none =>
    if name = stringClassName then some ⟨true, true⟩
    else if name = charsetClassName then some {}
    else none

def constructorId : MethodId := Fault.codeBound + 1

def getBytesId : MethodId := Fault.codeBound + 2

def toStringId : MethodId := Fault.codeBound + 3

def forNameId : MethodId := Fault.codeBound + 4

/-- The method of a class with a name and a signature. -/
def method? (m : Machine) (className name signature : String) : Option MethodId :=
  let info := (m.class? className).getD {}
  if info.hasConstructor ∧ name = "<init>" ∧ signature = constructorSignature then
    some constructorId
  else if info.hasGetBytes ∧ name = "getBytes" ∧ signature = getBytesSignature then
    some getBytesId
  else if name = "toString" ∧ signature = toStringSignature then some toStringId
  else none

def staticMethod? (className name signature : String) : Option MethodId :=
  if className = charsetClassName ∧ name = "forName" ∧
      signature = forNameSignature then some forNameId
  else none

def classNameOf? (m : Machine) (cls : Ref) : Option String :=
  match m.object? cls with
  | some (.classOf name) => some name
  | _ => none

def throwing (t : ThreadId) (e : Throwable) {α : Type} (result : α) : StateM Machine α := do
  modify (·.throwOn t e)
  return result

/-- The method that a lookup found, or an error that is thrown. -/
def orNoSuchMethod (t : ThreadId) (name : String) :
    Option MethodId → StateM Machine (Option MethodId)
  | some method => return some method
  | none => throwing t ⟨"java/lang/NoSuchMethodError", some name⟩ none

def encodeString (t : ThreadId) (string charset : Ref) : StateM Machine Ref := do
  match (← get).object? string, (← get).object? charset with
  | some (.text _ units), some (.charset cs) =>
    newLocal t (.bytes (.ofList ((cs.encode units).map UInt8.toInt8)))
  | _, _ => return none

def decodeString (t : ThreadId) (cls array charset : Ref) : StateM Machine Ref := do
  match (← get).object? cls, (← get).object? array, (← get).object? charset with
  | some (.classOf name), some (.bytes content), some (.charset cs) =>
    newLocal t (.text name (cs.decode (content.toList.map Int8.toUInt8)))
  | _, _, _ => return none

/-- The text by which an object describes itself. -/
def selfText (o : Object) : String :=
  match o with
  | .throwable e => e.text
  | o => Throwable.text ⟨o.className, none⟩

def charsetNamed (t : ThreadId) (name : Ref) : StateM Machine Ref := do
  match (← get).text? name with
  | none => return none
  | some name =>
    match Text.Charset.forName? name with
    | some cs => newLocal t (.charset cs)
    | none => throwing t ⟨"java/nio/charset/UnsupportedCharsetException", some name⟩ none

def outOfRange : Throwable := ⟨"java/lang/ArrayIndexOutOfBoundsException", none⟩

/-- A region of an array, if the array has it. -/
def region? (content : ZeroFilled Int8) (start len : Int32) : Option (Nat × Nat) :=
  let (s, n) := (start.toInt, len.toInt)
  if 0 ≤ s ∧ 0 ≤ n ∧ s + n ≤ content.length then some (s.toNat, n.toNat) else none

def bytes? (m : Machine) (array : Ref) : Option (ZeroFilled Int8) :=
  match m.object? array with
  | some (.bytes content) => some content
  | _ => none

/-- A region of an array; of what is no array nothing is read. -/
def readRegion (t : ThreadId) (array : Ref) (start len : Int32) : StateM Machine (List Int8) := do
  match (← get).bytes? array with
  | none => return []
  | some content =>
    match region? content start len with
    | some (s, n) => return content.slice s n
    | none => throwing t outOfRange []

/-- Writes a region of an array; into what is no array nothing is written. -/
def writeRegion (t : ThreadId) (array : Ref) (start len : Int32) (bytes : List Int8) :
    StateM Machine Unit := do
  let m ← get
  match m.bytes? array, array.bind m.refs.get? with
  | some content, some ref =>
    match region? content start len with
    | some (s, n) =>
      set { m with objects := m.objects.set ref.object (.bytes (content.write s (bytes.take n))) }
    | none => throwing t outOfRange ()
  | _, _ => return ()

def enter (name : String) : StateM Machine Unit :=
  modify fun m => { m with called := name :: m.called }

/-- The fault that strikes a call of a function, which is used up. What it throws is thrown. -/
def strike (t : ThreadId) (name : String) : StateM Machine (Option Fault) := do
  let m ← get
  let (struck, faults) := OneShot.take name m.faults
  set { m with faults }
  match struck with
  | some fault =>
    if let some e := fault.throws then modify (·.throwOn t e)
    return some fault
  | none => return none

variable {α : Type}

/-- A function for which faults can be armed; `result` is what it comes back with for a code. -/
def faulty (t : ThreadId) (name : String) (result : Int64 → α) (usual : StateM Machine α) :
    StateM Machine α := do
  enter name
  match ← strike t name with
  | some fault => return result fault.code
  | none => usual

/-- A function for which faults can be armed, and that does nothing while an exception is
pending. -/
def careful (t : ThreadId) (name : String) (result : Int64 → α) (usual : StateM Machine α) :
    StateM Machine α := do
  if ((← get).pending? t).isSome then
    enter name
    return result 0
  else faulty t name result usual

/-- A function that always does what it says. -/
def plain (name : String) (usual : StateM Machine α) : StateM Machine α := do
  enter name
  usual

/-- The class that everything belongs to; it is given for a reference that leads to no object. -/
def objectClassName : String := "java/lang/Object"

/-- The only machine there is. -/
def address : VmPointer := 1

/-- The native interface of a thread, without the entries that are missing. -/
def natives (missing : List Entry) (t : ThreadId) : NativeInterface Machine where
  provides entry := !missing.contains entry
  findClass name := careful t "FindClass" Fault.pointer do
    if ((← get).class? name).isSome then newLocal t (.classOf name)
    else throwing t ⟨"java/lang/NoClassDefFoundError", some name⟩ none
  getMethodId cls name signature := careful t "GetMethodID" Fault.pointer do
    let m ← get
    orNoSuchMethod t name ((m.classNameOf? cls).bind fun c => m.method? c name signature)
  getStaticMethodId cls name signature := careful t "GetStaticMethodID" Fault.pointer do
    orNoSuchMethod t name
      (((← get).classNameOf? cls).bind fun c => staticMethod? c name signature)
  newStringUtf text := careful t "NewStringUTF" Fault.pointer (newText t text)
  callStaticObjectMethod _ method args := careful t "CallStaticObjectMethod" Fault.pointer do
    if method = forNameId then charsetNamed t args.head?.join else return none
  callObjectMethod object method args := careful t "CallObjectMethod" Fault.pointer do
    if method = getBytesId then encodeString t object args.head?.join
    else if method = toStringId then
      match (← get).object? object with
      | some o => newText t (selfText o)
      | none => return none
    else return none
  newObject cls _ args := careful t "NewObject" Fault.pointer do
    match args with
    | [array, charset] => decodeString t cls array charset
    | _ => return none
  newByteArray len := careful t "NewByteArray" Fault.pointer
    (newLocal t (.bytes (.zeros len.toInt.toNat)))
  getArrayLength array := faulty t "GetArrayLength" Int64.toInt32 do
    return .ofNat (((← get).bytes? array).getD (.zeros 0)).length
  getByteArrayRegion array start len := careful t "GetByteArrayRegion" (fun _ => [])
    (readRegion t array start len)
  setByteArrayRegion array start len bytes := careful t "SetByteArrayRegion" (fun _ => ())
    (writeRegion t array start len bytes)
  newGlobalRef ref := faulty t "NewGlobalRef" Fault.pointer do
    match ref.bind (← get).refs.get? with
    | some r => newRef none r.object
    | none => return none
  deleteGlobalRef ref := plain "DeleteGlobalRef" (deleteRef none ref)
  deleteLocalRef ref := plain "DeleteLocalRef" (deleteRef (some t) ref)
  getObjectClass ref := plain "GetObjectClass" do
    newLocal t (.classOf ((((← get).object? ref).map Object.className).getD objectClassName))
  isAssignableFrom expected actual := faulty t "IsAssignableFrom" Fault.truth do
    let m ← get
    return m.classNameOf? expected == m.classNameOf? actual
  getStringUtfChars ref := careful t "GetStringUTFChars" (fun _ => none) do
    match (← get).text? ref with
    | some text =>
      modify fun m => { m with lentTexts := m.lentTexts + 1 }
      return some text
    | none => return none
  releaseStringUtfChars _ := plain "ReleaseStringUTFChars"
    (modify fun m => { m with lentTexts := m.lentTexts - 1 })
  exceptionCheck := plain "ExceptionCheck" do return ((← get).pending? t).isSome
  exceptionOccurred := faulty t "ExceptionOccurred" (fun _ => none) do
    match (← get).pending? t with
    | some e => newLocal t (.throwable e)
    | none => return none
  exceptionDescribe := plain "ExceptionDescribe" do
    if let some e := (← get).pending? t then
      modify fun m =>
        { m with described := e.report :: m.described, threads := m.threads.set t {} }
  exceptionClear := plain "ExceptionClear" do
    if ((← get).pending? t).isSome then modify (·.setPending t none)
  getJavaVm := faulty t "GetJavaVM" Fault.status do return (0, some address)

/-- The status of a thread that is not attached. -/
def detachedCode : Int32 := -2

/-- The invocation interface. The environment of a thread is known by the thread. -/
def invocation (missing : List Entry) : InvocationInterface Machine ThreadId where
  getEnv t := faulty t "GetEnv" Fault.status do
    if (← get).isAttached t then return (0, some t) else return (detachedCode, none)
  attachCurrentThread t := faulty t "AttachCurrentThread" Fault.status do
    modify (·.attach t)
    return (0, some t)
  detachCurrentThread t := plain "DetachCurrentThread" (modify (·.detach t))
  functions t := natives missing t

/-- What can be seen of the machine from a thread. -/
structure View where
  attached : Bool
  locals : Nat
  globals : Nat
  pending : Option String
  threads : Nat
  deriving DecidableEq, Repr

def view (m : Machine) (t : ThreadId) : View :=
  { attached := m.isAttached t
    locals := m.refCount (some t)
    globals := m.refCount none
    pending := (m.pending? t).map Throwable.report
    threads := m.threads.size }

/-- How often a function was called. -/
def callCount (m : Machine) (name : String) : Nat := m.called.count name

end Machine

end ManagedBridge.Jvm
