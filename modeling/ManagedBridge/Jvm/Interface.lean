import ManagedBridge.Thread

/-!
# The interfaces of a virtual machine

A process talks to a virtual machine through two tables of functions: the invocation interface, by
which threads attach, and the native interface, which an attached thread has in its environment
`ε`. Both are records over an arbitrary state `μ` of the machine, so what is said of them holds of
every machine and of every outcome of its functions.
-/

namespace ManagedBridge.Jvm

/-- The number by which a machine knows an object that it has handed out. -/
abbrev Handle := Nat

/-- A reference; `none` is the null reference. -/
abbrev Ref := Option Handle

/-- The number by which a machine knows a method. -/
abbrev MethodId := Nat

/-- The address of a virtual machine. -/
abbrev VmPointer := Nat

/-- The functions of the native interface that the bridge uses. -/
inductive Entry
  | findClass
  | getMethodId
  | getStaticMethodId
  | newStringUtf
  | callStaticObjectMethod
  | callObjectMethod
  | newObject
  | newByteArray
  | getArrayLength
  | getByteArrayRegion
  | setByteArrayRegion
  | newGlobalRef
  | deleteGlobalRef
  | deleteLocalRef
  | getObjectClass
  | isAssignableFrom
  | getStringUtfChars
  | releaseStringUtfChars
  | exceptionCheck
  | exceptionOccurred
  | exceptionDescribe
  | exceptionClear
  | getJavaVm
  deriving DecidableEq, Repr

namespace Entry

/-- The name of a function in the table. -/
def name : Entry → String
  | findClass => "FindClass"
  | getMethodId => "GetMethodID"
  | getStaticMethodId => "GetStaticMethodID"
  | newStringUtf => "NewStringUTF"
  | callStaticObjectMethod => "CallStaticObjectMethodA"
  | callObjectMethod => "CallObjectMethodA"
  | newObject => "NewObjectA"
  | newByteArray => "NewByteArray"
  | getArrayLength => "GetArrayLength"
  | getByteArrayRegion => "GetByteArrayRegion"
  | setByteArrayRegion => "SetByteArrayRegion"
  | newGlobalRef => "NewGlobalRef"
  | deleteGlobalRef => "DeleteGlobalRef"
  | deleteLocalRef => "DeleteLocalRef"
  | getObjectClass => "GetObjectClass"
  | isAssignableFrom => "IsAssignableFrom"
  | getStringUtfChars => "GetStringUTFChars"
  | releaseStringUtfChars => "ReleaseStringUTFChars"
  | exceptionCheck => "ExceptionCheck"
  | exceptionOccurred => "ExceptionOccurred"
  | exceptionDescribe => "ExceptionDescribe"
  | exceptionClear => "ExceptionClear"
  | getJavaVm => "GetJavaVM"

def all : List Entry :=
  [findClass, getMethodId, getStaticMethodId, newStringUtf, callStaticObjectMethod,
    callObjectMethod, newObject, newByteArray, getArrayLength, getByteArrayRegion,
    setByteArrayRegion, newGlobalRef, deleteGlobalRef, deleteLocalRef, getObjectClass,
    isAssignableFrom, getStringUtfChars, releaseStringUtfChars, exceptionCheck,
    exceptionOccurred, exceptionDescribe, exceptionClear, getJavaVm]

def ofName? (name : String) : Option Entry := all.find? (·.name == name)

end Entry

/-- The native interface of one environment. -/
structure NativeInterface (μ : Type) where
  /-- Whether the table has the function at all. -/
  provides : Entry → Bool
  findClass : (name : String) → StateM μ Ref
  getMethodId : Ref → (name signature : String) → StateM μ (Option MethodId)
  getStaticMethodId : Ref → (name signature : String) → StateM μ (Option MethodId)
  newStringUtf : (text : String) → StateM μ Ref
  callStaticObjectMethod : Ref → MethodId → List Ref → StateM μ Ref
  callObjectMethod : Ref → MethodId → List Ref → StateM μ Ref
  newObject : Ref → MethodId → List Ref → StateM μ Ref
  newByteArray : (len : Int32) → StateM μ Ref
  getArrayLength : Ref → StateM μ Int32
  /-- The bytes that were copied out. -/
  getByteArrayRegion : Ref → (start len : Int32) → StateM μ (List Int8)
  setByteArrayRegion : Ref → (start len : Int32) → List Int8 → StateM μ Unit
  newGlobalRef : Ref → StateM μ Ref
  deleteGlobalRef : Ref → StateM μ Unit
  deleteLocalRef : Ref → StateM μ Unit
  getObjectClass : Ref → StateM μ Ref
  isAssignableFrom : Ref → Ref → StateM μ Bool
  /-- The text of a string, lent out until it is released. -/
  getStringUtfChars : Ref → StateM μ (Option String)
  releaseStringUtfChars : Ref → StateM μ Unit
  exceptionCheck : StateM μ Bool
  exceptionOccurred : StateM μ Ref
  /-- Prints the pending exception. -/
  exceptionDescribe : StateM μ Unit
  exceptionClear : StateM μ Unit
  getJavaVm : StateM μ (Int32 × Option VmPointer)

/-- The invocation interface, with the thread that calls. A status of zero is success. -/
structure InvocationInterface (μ ε : Type) where
  getEnv : ThreadId → StateM μ (Int32 × Option ε)
  attachCurrentThread : ThreadId → StateM μ (Int32 × Option ε)
  detachCurrentThread : ThreadId → StateM μ Unit
  /-- The native interface of an environment. -/
  functions : ε → NativeInterface μ

end ManagedBridge.Jvm
