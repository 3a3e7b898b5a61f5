import ManagedBridge.Effect
import ManagedBridge.Error
import ManagedBridge.Jvm.Interface
import ManagedBridge.Jvm.Signature

/-!
# Checked calls

The native interface reports failure in three ways: by a pending exception, by a null result and by
a status. A checked call turns each of them into an error, in this order, and also the case that the
table lacks the function.

A link is a machine together with the threads for whose attachment this side answers. Such a thread
is detached once, when it is released or when it ends.
-/

namespace ManagedBridge.Jvm

inductive Status
  | unknown
  | threadDetached
  | wrongVersion
  | noMemory
  | alreadyCreated
  | invalidArguments
  | other (code : Int32)
  deriving DecidableEq, Repr

/-- The failure that a status reports; zero is success. -/
def Status.ofCode? (code : Int32) : Option Status :=
  if code = 0 then none
  else if code = -1 then some .unknown
  else if code = -2 then some .threadDetached
  else if code = -3 then some .wrongVersion
  else if code = -4 then some .noMemory
  else if code = -5 then some .alreadyCreated
  else if code = -6 then some .invalidArguments
  else some (.other code)

inductive CallError
  | javaException
  | nullPointer (what : String)
  | methodNotFound (name signature : String)
  | missingEntry (entry : Entry)
  | failed (status : Status)
  deriving DecidableEq, Repr

namespace CallError

def message : CallError → String
  | javaException => "Java exception was thrown"
  | nullPointer what => "Null pointer in " ++ what
  | methodNotFound name signature => "Method not found: " ++ name ++ " " ++ signature
  | missingEntry entry => "JNIEnv null method pointer for " ++ entry.name
  | failed _ => "JNI call failed"

/-- What the error means to the bridge. -/
def toRuntime : CallError → RuntimeError
  | javaException => .exceptionPending
  | failed .noMemory => .outOfMemory
  | failed .threadDetached => .detached
  | nullPointer what => .nullResult what
  | e => .other e.message

/-- An environment or a machine that was to be there is null. -/
def nullArgument : CallError := nullPointer "from_raw ptr argument"

end CallError

structure Link (μ : Type) where
  machine : μ
  guarded : List ThreadId := []

/-- Calls a function of the machine. -/
def Link.call {μ α : Type} (f : StateM μ α) : Call (Link μ) α :=
  Call.step fun l => let (a, machine) := f l.machine; (a, { l with machine })

/-- A call whose failure is an error. -/
abbrev Checked (μ : Type) := ExceptT CallError (Call (Link μ))

namespace Checked

variable {μ ε α : Type}

/-- Calls a function of the machine that cannot fail. -/
def call (f : StateM μ α) : Checked μ α := ExceptT.lift (Link.call f)

/-- Makes the outcome of a call its result. -/
def attempt (body : Checked μ α) : Checked μ (Except CallError α) := ExceptT.lift body.run

/-- Calls a function of the table, which has to be there. -/
def enter (jni : NativeInterface μ) (entry : Entry) (f : StateM μ α) : Checked μ α :=
  if jni.provides entry then call f else throw (.missingEntry entry)

def exceptionCheck (jni : NativeInterface μ) : Checked μ Bool :=
  enter jni .exceptionCheck jni.exceptionCheck

/-- A function after which no exception may be pending. -/
def orException (jni : NativeInterface μ) (entry : Entry) (f : StateM μ α) : Checked μ α := do
  let a ← enter jni entry f
  if ← exceptionCheck jni then throw .javaException
  return a

/-- A function after which no exception may be pending and whose result may not be null. -/
def orNull (jni : NativeInterface μ) (entry : Entry) (f : StateM μ (Option α)) :
    Checked μ α := do
  match ← orException jni entry f with
  | some a => return a
  | none => throw (.nullPointer (entry.name ++ " result"))

def findClass (jni : NativeInterface μ) (name : String) : Checked μ Handle :=
  orNull jni .findClass (jni.findClass name)

/-- The method of a lookup that may come back null. -/
def orMethodNotFound (name signature : String) (found : Option MethodId) :
    Checked μ MethodId :=
  match found with
  | some method => return method
  | none => throw (.methodNotFound name signature)

def getMethodId (jni : NativeInterface μ) (cls : Ref) (name signature : String) :
    Checked μ MethodId := do
  orMethodNotFound name signature
    (← orException jni .getMethodId (jni.getMethodId cls name signature))

def getStaticMethodId (jni : NativeInterface μ) (cls : Ref) (name signature : String) :
    Checked μ MethodId := do
  orMethodNotFound name signature
    (← orException jni .getStaticMethodId (jni.getStaticMethodId cls name signature))

def newStringUtf (jni : NativeInterface μ) (text : String) : Checked μ Handle :=
  orNull jni .newStringUtf (jni.newStringUtf text)

def deleteLocalRef (jni : NativeInterface μ) (ref : Ref) : Checked μ Unit :=
  enter jni .deleteLocalRef (jni.deleteLocalRef ref)

/-- Deletes a local reference once `body` has ended, however it ended. Whether the deletion succeeds
makes no difference. -/
def thenDelete (jni : NativeInterface μ) (ref : Ref) (body : Checked μ α) : Checked μ α :=
  ExceptT.mk do
    let result ← body.run
    let _ ← (deleteLocalRef jni ref).run
    return result

/-- Calls a static method, looked up by the name of its class. -/
def callStaticMethod (jni : NativeInterface μ) (className name signature : String)
    (args : List Ref) : Checked μ Ref := do
  let cls ← findClass jni className
  thenDelete jni cls do
    let method ← getStaticMethodId jni cls name signature
    orException jni .callStaticObjectMethod (jni.callStaticObjectMethod cls method args)

/-- Calls a method of an object, looked up in the class of the object. -/
def callMethod (jni : NativeInterface μ) (object : Ref) (name signature : String)
    (args : List Ref) : Checked μ Ref := do
  let cls ← enter jni .getObjectClass (jni.getObjectClass object)
  thenDelete jni cls do
    let method ← getMethodId jni cls name signature
    orException jni .callObjectMethod (jni.callObjectMethod object method args)

def callObjectMethod (jni : NativeInterface μ) (object : Ref) (method : MethodId)
    (args : List Ref) : Checked μ Ref :=
  orException jni .callObjectMethod (jni.callObjectMethod object method args)

def newObject (jni : NativeInterface μ) (cls : Ref) (constructor : MethodId) (args : List Ref) :
    Checked μ Handle :=
  orNull jni .newObject (jni.newObject cls constructor args)

def newByteArray (jni : NativeInterface μ) (len : Int32) : Checked μ Handle :=
  orNull jni .newByteArray (jni.newByteArray len)

def getArrayLength (jni : NativeInterface μ) (array : Ref) : Checked μ Int32 :=
  enter jni .getArrayLength (jni.getArrayLength array)

def getByteArrayRegion (jni : NativeInterface μ) (array : Ref) (start len : Int32) :
    Checked μ (List Int8) :=
  orException jni .getByteArrayRegion (jni.getByteArrayRegion array start len)

/-- Writes bytes into an array; their number is passed on as a word. -/
def setByteArrayRegion (jni : NativeInterface μ) (array : Ref) (start : Int32)
    (bytes : List Int8) : Checked μ Unit :=
  orException jni .setByteArrayRegion
    (jni.setByteArrayRegion array start (.ofNat bytes.length) bytes)

/-- The text of a string. The two class references that the check of its class takes are left to
the thread. -/
def getString (jni : NativeInterface μ) (string : Ref) : Checked μ String := do
  let expected ← findClass jni stringClassName
  let actual ← enter jni .getObjectClass (jni.getObjectClass string)
  unless ← enter jni .isAssignableFrom (jni.isAssignableFrom expected actual) do
    throw (.failed .invalidArguments)
  let text ← orNull jni .getStringUtfChars (jni.getStringUtfChars string)
  let _ ← attempt (enter jni .releaseStringUtfChars (jni.releaseStringUtfChars string))
  return text

def exceptionOccurred (jni : NativeInterface μ) : Checked μ Ref :=
  enter jni .exceptionOccurred jni.exceptionOccurred

def exceptionDescribe (jni : NativeInterface μ) : Checked μ Unit :=
  enter jni .exceptionDescribe jni.exceptionDescribe

def exceptionClear (jni : NativeInterface μ) : Checked μ Unit :=
  enter jni .exceptionClear jni.exceptionClear

/-- What a function with a status put out, if the status is success. -/
def orStatus : Int32 × Option α → Checked μ α
  | (code, out) =>
    match Status.ofCode? code, out with
    | some status, _ => throw (.failed status)
    | none, some a => return a
    | none, none => throw .nullArgument

/-- A global reference, which may be null. The machine is asked for first. -/
def newGlobalRef (jni : NativeInterface μ) (ref : Ref) : Checked μ Ref := do
  let _ ← orStatus (← enter jni .getJavaVm jni.getJavaVm)
  enter jni .newGlobalRef (jni.newGlobalRef ref)

def deleteGlobalRef (jni : NativeInterface μ) (ref : Ref) : Checked μ Unit :=
  enter jni .deleteGlobalRef (jni.deleteGlobalRef ref)

def getEnv (vm : InvocationInterface μ ε) (t : ThreadId) : Checked μ ε := do
  orStatus (← call (vm.getEnv t))

end Checked

namespace Link

variable {μ ε : Type}

/-- Detaches a thread for whose attachment this side answers, and no other. -/
def release (vm : InvocationInterface μ ε) (t : ThreadId) : Call (Link μ) Unit := do
  let guarded ← Call.step fun l => (l.guarded, { l with guarded := l.guarded.erase t })
  if t ∈ guarded then Link.call (vm.detachCurrentThread t)

/-- Makes this side answer for the attachment of a thread. An attachment it answers for already is
released first. -/
def guard (vm : InvocationInterface μ ε) (t : ThreadId) : Call (Link μ) Unit := do
  release vm t
  Call.step fun l => ((), { l with guarded := t :: l.guarded })

/-- Attaches a thread and answers for it. A refusal is followed by a detach. -/
def attachGuarded (vm : InvocationInterface μ ε) (t : ThreadId) : Checked μ ε := do
  let out ← Checked.call (vm.attachCurrentThread t)
  match Status.ofCode? out.1 with
  | some _ => Checked.call (vm.detachCurrentThread t)
  | none => ExceptT.lift (guard vm t)
  Checked.orStatus out

/-- The environment of a thread, which is attached if it has none. -/
def attach (vm : InvocationInterface μ ε) (t : ThreadId) : Checked μ ε := do
  match ← Checked.attempt (Checked.getEnv vm t) with
  | .ok env => return env
  | .error _ => attachGuarded vm t

/-- Gives a global reference back, on a thread that is attached for that if need be. -/
def dropGlobalRef (vm : InvocationInterface μ ε) (t : ThreadId) (ref : Ref) :
    Call (Link μ) Unit := do
  let delete (env : ε) : Call (Link μ) Unit := do
    let _ ← (Checked.deleteGlobalRef (vm.functions env) ref).run
  match ← (Checked.getEnv vm t).run with
  | .ok env => delete env
  | .error _ =>
    match ← (Checked.getEnv vm t).run with
    | .ok env => delete env
    | .error _ =>
      match ← (attachGuarded vm t).run with
      | .ok env =>
        delete env
        release vm t
      | .error _ => return ()

end Link

end ManagedBridge.Jvm
