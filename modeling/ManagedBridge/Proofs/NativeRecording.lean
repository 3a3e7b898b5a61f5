import ManagedBridge.Jvm.Interface

/-!
# Recorded machines

A recorded machine does what the machine does that it records, and keeps beside its state a note of
every function that is called, made of the call and of the state in which it is called. No program
over the two interfaces can tell a recorded machine from its original.
-/

namespace ManagedBridge.Jvm

/-- A call of a function of the native or of the invocation interface. -/
inductive NativeCall
  | findClass (name : String)
  | getMethodId (cls : Ref) (name signature : String)
  | getStaticMethodId (cls : Ref) (name signature : String)
  | newStringUtf (text : String)
  | callStaticObjectMethod (cls : Ref) (method : MethodId) (args : List Ref)
  | callObjectMethod (object : Ref) (method : MethodId) (args : List Ref)
  | newObject (cls : Ref) (constructor : MethodId) (args : List Ref)
  | newByteArray (len : Int32)
  | getArrayLength (array : Ref)
  | getByteArrayRegion (array : Ref) (start len : Int32)
  | setByteArrayRegion (array : Ref) (start len : Int32) (bytes : List Int8)
  | newGlobalRef (ref : Ref)
  | deleteGlobalRef (ref : Ref)
  | deleteLocalRef (ref : Ref)
  | getObjectClass (object : Ref)
  | isAssignableFrom (sub super : Ref)
  | getStringUtfChars (string : Ref)
  | releaseStringUtfChars (string : Ref)
  | exceptionCheck
  | exceptionOccurred
  | exceptionDescribe
  | exceptionClear
  | getJavaVm
  | getEnv (thread : ThreadId)
  | attachCurrentThread (thread : ThreadId)
  | detachCurrentThread (thread : ThreadId)
  deriving DecidableEq, Repr

namespace NativeCall

/-- Whether the call is one of those that deal with a pending exception. -/
def handlesException : NativeCall → Bool
  | exceptionCheck | exceptionOccurred | exceptionDescribe | exceptionClear => true
  | _ => false

/-- Whether the call gives a reference back. -/
def deletesReference : NativeCall → Bool
  | deleteLocalRef _ | deleteGlobalRef _ => true
  | _ => false

variable {μ ω α : Type}

/-- Does what `f` does, and notes the call down. -/
def recorded (note : μ → NativeCall → ω) (call : NativeCall) (f : StateM μ α) :
    StateM (μ × List ω) α :=
  fun s => ((f s.1).1, ((f s.1).2, s.2 ++ [note s.1 call]))

end NativeCall

variable {μ ε ω : Type}

def NativeInterface.recorded (note : μ → NativeCall → ω) (jni : NativeInterface μ) :
    NativeInterface (μ × List ω) where
  provides := jni.provides
  findClass name := (NativeCall.findClass name).recorded note (jni.findClass name)
  getMethodId cls name signature :=
    (NativeCall.getMethodId cls name signature).recorded note (jni.getMethodId cls name signature)
  getStaticMethodId cls name signature :=
    (NativeCall.getStaticMethodId cls name signature).recorded note
      (jni.getStaticMethodId cls name signature)
  newStringUtf text := (NativeCall.newStringUtf text).recorded note (jni.newStringUtf text)
  callStaticObjectMethod cls method args :=
    (NativeCall.callStaticObjectMethod cls method args).recorded note
      (jni.callStaticObjectMethod cls method args)
  callObjectMethod object method args :=
    (NativeCall.callObjectMethod object method args).recorded note
      (jni.callObjectMethod object method args)
  newObject cls constructor args :=
    (NativeCall.newObject cls constructor args).recorded note (jni.newObject cls constructor args)
  newByteArray len := (NativeCall.newByteArray len).recorded note (jni.newByteArray len)
  getArrayLength array :=
    (NativeCall.getArrayLength array).recorded note (jni.getArrayLength array)
  getByteArrayRegion array start len :=
    (NativeCall.getByteArrayRegion array start len).recorded note
      (jni.getByteArrayRegion array start len)
  setByteArrayRegion array start len bytes :=
    (NativeCall.setByteArrayRegion array start len bytes).recorded note
      (jni.setByteArrayRegion array start len bytes)
  newGlobalRef ref := (NativeCall.newGlobalRef ref).recorded note (jni.newGlobalRef ref)
  deleteGlobalRef ref := (NativeCall.deleteGlobalRef ref).recorded note (jni.deleteGlobalRef ref)
  deleteLocalRef ref := (NativeCall.deleteLocalRef ref).recorded note (jni.deleteLocalRef ref)
  getObjectClass object :=
    (NativeCall.getObjectClass object).recorded note (jni.getObjectClass object)
  isAssignableFrom sub super :=
    (NativeCall.isAssignableFrom sub super).recorded note (jni.isAssignableFrom sub super)
  getStringUtfChars string :=
    (NativeCall.getStringUtfChars string).recorded note (jni.getStringUtfChars string)
  releaseStringUtfChars string :=
    (NativeCall.releaseStringUtfChars string).recorded note (jni.releaseStringUtfChars string)
  exceptionCheck := NativeCall.exceptionCheck.recorded note jni.exceptionCheck
  exceptionOccurred := NativeCall.exceptionOccurred.recorded note jni.exceptionOccurred
  exceptionDescribe := NativeCall.exceptionDescribe.recorded note jni.exceptionDescribe
  exceptionClear := NativeCall.exceptionClear.recorded note jni.exceptionClear
  getJavaVm := NativeCall.getJavaVm.recorded note jni.getJavaVm

def InvocationInterface.recorded (note : μ → NativeCall → ω) (vm : InvocationInterface μ ε) :
    InvocationInterface (μ × List ω) ε where
  getEnv t := (NativeCall.getEnv t).recorded note (vm.getEnv t)
  attachCurrentThread t :=
    (NativeCall.attachCurrentThread t).recorded note (vm.attachCurrentThread t)
  detachCurrentThread t :=
    (NativeCall.detachCurrentThread t).recorded note (vm.detachCurrentThread t)
  functions env := (vm.functions env).recorded note

/-- The machine with a list of all calls beside its state. -/
abbrev InvocationInterface.traced (vm : InvocationInterface μ ε) :
    InvocationInterface (μ × List NativeCall) ε :=
  vm.recorded fun _ call => call

end ManagedBridge.Jvm
