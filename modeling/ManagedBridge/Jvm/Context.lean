import ManagedBridge.CallContext
import ManagedBridge.Config
import ManagedBridge.Jvm.Checked
import ManagedBridge.Jvm.Signature

/-!
# Call contexts of a virtual machine

A thread's environment with the settings of the bridge makes a call context. Strings are made and
read by the constructor and the accessor of the configured string class that take a charset, and
the charset is resolved once, together with the class and its methods. Byte arrays hold signed
bytes; a byte crosses with its bits unchanged.
-/

namespace ManagedBridge.Jvm

/-- The string class, its two methods and the charset that both are called with. -/
structure Capabilities where
  /-- A global reference. -/
  stringClass : Ref
  /-- A global reference. -/
  charset : Ref
  constructor : MethodId
  getBytes : MethodId
  deriving DecidableEq, Repr

/-- A machine with the settings of the bridge. -/
structure Runtime where
  vm : VmPointer
  config : BridgeConfig := {}
  deriving DecidableEq, Repr

structure Context (ε : Type) where
  env : ε
  config : BridgeConfig := {}

/-- A call whose failure the bridge understands. -/
abbrev Mapped (μ : Type) := ExceptT RuntimeError (Call (Link μ))

namespace Mapped

variable {μ α : Type}

def lift (call : Call (Link μ) α) : Mapped μ α := ExceptT.lift call

def ofChecked (call : Checked μ α) : Mapped μ α := call.adapt CallError.toRuntime

end Mapped

namespace Context

variable {μ ε : Type}

/-- Deletes a local reference. A failure is logged and otherwise makes no difference. -/
def dropLocal (jni : NativeInterface μ) (ref : Ref) : Call (Link μ) Unit := do
  match ← (Checked.deleteLocalRef jni ref).run with
  | .ok () => return ()
  | .error e =>
    Call.note ⟨.debug, "failed to drop local reference", [("err", e.message)]⟩

/-- The charset of a name. -/
def charsetForName (jni : NativeInterface μ) (charset : String) : Mapped μ Handle := do
  let name ← .ofChecked (Checked.newStringUtf jni charset)
  let found ← .lift
    (Checked.callStaticMethod jni charsetClassName "forName" forNameSignature [some name]).run
  .lift (dropLocal jni (some name))
  match found with
  | .error e => throw e.toRuntime
  | .ok none => throw (.nullResult "Charset.forName")
  | .ok (some charset) => return charset

/-- The text by which a throwable describes itself. -/
def throwableText (jni : NativeInterface μ) (throwable : Ref) : Checked μ String := do
  match ← Checked.callMethod jni throwable "toString" toStringSignature [] with
  | none => return "null"
  | some text =>
    let summary ← Checked.getString jni (some text)
    ExceptT.lift (dropLocal jni (some text))
    return summary

/-- Clears the pending exception, if there is one, and describes it. -/
def takeSummary (jni : NativeInterface μ) : Checked μ (Option String) := do
  match ← Checked.exceptionOccurred jni with
  | none => return none
  | some throwable =>
    Checked.exceptionClear jni
    let summary ← Checked.attempt (throwableText jni (some throwable))
    ExceptT.lift (dropLocal jni (some throwable))
    match summary with
    | .ok text => return some text
    | .error e => throw e

/-- Reports the pending exception: the machine prints and clears it, or it is cleared here and its
summary logged. -/
def describe (jni : NativeInterface μ) (byMachine : Bool) : Call (Link μ) Unit := do
  if byMachine then
    match ← (Checked.exceptionDescribe jni).run with
    | .ok () => return ()
    | .error e => Call.note ⟨.debug, "ExceptionDescribe failed", [("err", e.message)]⟩
  else
    match ← (takeSummary jni).run with
    | .ok none => return ()
    | .ok (some summary) => Call.note ⟨.warn, "managed exception", [("exception", summary)]⟩
    | .error e =>
      Call.note ⟨.debug, "could not summarize pending exception", [("err", e.message)]⟩

def clear (jni : NativeInterface μ) : Call (Link μ) Unit := do
  match ← (Checked.exceptionClear jni).run with
  | .ok () => return ()
  | .error e => Call.note ⟨.debug, "ExceptionClear failed", [("err", e.message)]⟩

/-- Whether an exception is pending; one that cannot be asked for is not. -/
def pending (jni : NativeInterface μ) : Call (Link μ) Bool := do
  match ← (Checked.exceptionCheck jni).run with
  | .ok pending => return pending
  | .error _ => return false

/-- The bytes of a string in the charset of the capabilities. -/
def stringBytes (jni : NativeInterface μ) (caps : Capabilities) (string : Ref) :
    Mapped μ Handle := do
  match ← .ofChecked (Checked.callObjectMethod jni string caps.getBytes [caps.charset]) with
  | some array => return array
  | none => throw (.nullResult "getBytes")

/-- The length of an array, which may not be negative. -/
def byteArrayLen (jni : NativeInterface μ) (array : Handle) : Mapped μ Nat := do
  let len ← .ofChecked (Checked.getArrayLength jni (some array))
  if len < 0 then throw (.other ("negative array length " ++ toString len.toInt))
  return len.toInt.toNat

/-- The first `len` bytes of an array. -/
def readByteArray (jni : NativeInterface μ) (array : Handle) (len : Nat) :
    Mapped μ (List UInt8) := do
  let bytes ← .ofChecked (Checked.getByteArrayRegion jni (some array) 0 (.ofNat len))
  return bytes.map Int8.toUInt8

/-- The greatest length that an array can have. -/
def maxArrayLen : Nat := Nat.pow 2 31 - 1

def newByteArray (jni : NativeInterface μ) (len : Nat) : Mapped μ Handle :=
  if len ≤ maxArrayLen then .ofChecked (Checked.newByteArray jni (.ofNat len))
  else throw .outOfMemory

def writeByteArray (jni : NativeInterface μ) (array : Handle) (bytes : List UInt8) :
    Mapped μ Unit :=
  .ofChecked (Checked.setByteArrayRegion jni (some array) 0 (bytes.map UInt8.toInt8))

/-- The string that an array holds in the charset of the capabilities. -/
def newString (jni : NativeInterface μ) (caps : Capabilities) (array : Handle) :
    Mapped μ Ref := do
  let string ← .ofChecked
    (Checked.newObject jni caps.stringClass caps.constructor [some array, caps.charset])
  return some string

def resolvedLine (config : BridgeConfig) : LogLine :=
  ⟨.debug, "resolved string capabilities",
    [("class", config.stringClass), ("charset", config.charset)]⟩

/-- Resolves the configured class, its methods and the charset, and keeps class and charset by
global references. -/
def resolve (vm : InvocationInterface μ ε) (t : ThreadId) (c : Context ε) :
    Mapped μ Capabilities := do
  let jni := vm.functions c.env
  let cls ← .ofChecked (Checked.findClass jni c.config.stringClass)
  let constructor ← .ofChecked (Checked.getMethodId jni cls "<init>" constructorSignature)
  let getBytes ← .ofChecked (Checked.getMethodId jni cls "getBytes" getBytesSignature)
  let charset ← charsetForName jni c.config.charset
  let stringClass ← .ofChecked (Checked.newGlobalRef jni cls)
  match ← .lift (Checked.newGlobalRef jni charset).run with
  | .error e =>
    .lift (Link.dropGlobalRef vm t stringClass)
    throw e.toRuntime
  | .ok pinned =>
    .lift (dropLocal jni cls)
    .lift (dropLocal jni charset)
    .lift (Call.note (resolvedLine c.config))
    return { stringClass, charset := pinned, constructor, getBytes }

/-- The operations of a context. -/
def operations (vm : InvocationInterface μ ε) (t : ThreadId) (c : Context ε) :
    CallContext (Link μ) Capabilities Ref Handle :=
  let jni := vm.functions c.env
  { resolveCapabilities := c.resolve vm t
    stringBytes := stringBytes jni
    byteArrayLen := byteArrayLen jni
    readByteArray := readByteArray jni
    newByteArray := newByteArray jni
    writeByteArray := writeByteArray jni
    newString := newString jni
    releaseBytes := fun array => dropLocal jni (some array)
    exceptionPending := pending jni
    describeException := describe jni c.config.describeExceptions
    clearException := clear jni }

end Context

/-- Gives the global references of a capability set back. -/
def Capabilities.drop {μ ε : Type} (vm : InvocationInterface μ ε) (t : ThreadId)
    (caps : Capabilities) : Call (Link μ) Unit := do
  Link.dropGlobalRef vm t caps.stringClass
  Link.dropGlobalRef vm t caps.charset

/-- The machine as a thread sees it. -/
def Runtime.operations {μ ε : Type} (vm : InvocationInterface μ ε) (t : ThreadId) (rt : Runtime) :
    ManagedRuntime (Link μ) (Context ε) where
  currentContext := do
    match ← (Checked.getEnv vm t).run with
    | .ok env => return some ⟨env, rt.config⟩
    | .error _ => return none
  attachCurrentThread :=
    (do return ⟨← .ofChecked (Link.attach vm t), rt.config⟩ : Mapped μ (Context ε))
  detachCurrentThread := Link.release vm t

end ManagedBridge.Jvm
