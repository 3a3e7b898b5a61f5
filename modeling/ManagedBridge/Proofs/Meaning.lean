import ManagedBridge.Jvm.Process
import ManagedBridge.Text.Utf16

/-!
# What a virtual machine means

The functions of a machine answer with references, which mean nothing in themselves. A reading of
the machine's state says what a reference leads to, and an interface is faithful to a reading if
each of its functions, unless it fails, does what it is for and leaves alone what it is not for. A
function may fail at any time, with an exception or with a null result; nothing is said of when.
-/

namespace ManagedBridge.Jvm

/-- What a reference leads to, as far as strings are concerned. -/
inductive Referent (χ : Type)
  | bytes (content : List Int8)
  | text (units : List UInt16)
  | classOf (name : String)
  | charset (charset : χ)

/-- By what a method is looked up. -/
structure MethodKey where
  className : String
  name : String
  signature : String
  deriving DecidableEq, Repr

/-- The charsets of a machine: their names, how a string is built from bytes, and which bytes it
gives back. -/
structure Charsets (χ : Type) where
  named : String → Option χ
  decode : χ → List UInt8 → List UInt16
  encode : χ → List UInt16 → List UInt8

/-- How the state of a machine is read. -/
structure Reading (μ ε χ : Type) where
  /-- Whether functions can be called through the environment. -/
  callable : μ → ε → Prop
  /-- The environment of a thread that is attached. -/
  environment : μ → ThreadId → Option ε
  pending : μ → ε → Bool
  referent : μ → ε → Ref → Option (Referent χ)
  /-- Whether a reference is a global one that is in use. -/
  global : μ → Ref → Prop
  method : μ → MethodId → MethodKey → Prop

namespace Reading

variable {μ ε χ α : Type}

/-- A global reference, by which every thread is led to the same. -/
structure Pinned (R : Reading μ ε χ) (m : μ) (ref : Ref) (o : Referent χ) : Prop where
  global : R.global m ref
  referent : ∀ env, R.referent m env ref = some o

/-- What is known in `m` is so in `m'` as well, but for the references that are `lost`. -/
structure Keeps (R : Reading μ ε χ) (env : ε) (lost : Ref → Referent χ → Prop) (m m' : μ) :
    Prop where
  callable : R.callable m' env
  environment : R.environment m' = R.environment m
  referent : ∀ {ref o}, R.referent m env ref = some o → ¬ lost ref o →
    R.referent m' env ref = some o
  pinned : ∀ {ref o}, R.Pinned m ref o → ¬ lost ref o → R.Pinned m' ref o
  method : ∀ {id key}, R.method m id key → R.method m' id key

/-- No reference. -/
abbrev nothing : Ref → Referent χ → Prop := fun _ _ => False

/-- One reference, which is deleted. -/
abbrev only (ref : Ref) : Ref → Referent χ → Prop := fun other _ => other = ref

/-- All that lead to arrays. -/
abbrev arrays : Ref → Referent χ → Prop := fun _ o => ∃ content, o = .bytes content

/-- A function that may throw, or lose what is `lost`. If it does not throw, then what it comes back
with is as `post` says. -/
def Throws (R : Reading μ ε χ) (env : ε) (lost : Ref → Referent χ → Prop) (f : StateM μ α)
    (post : μ → α → μ → Prop) : Prop :=
  ∀ m, R.callable m env → R.Keeps env lost m (f m).2 ∧
    (R.pending (f m).2 env = false → post m (f m).1 (f m).2)

/-- A function that leaves an exception pending, or none, as it was. -/
def Silent (R : Reading μ ε χ) (env : ε) (lost : Ref → Referent χ → Prop) (f : StateM μ α)
    (post : μ → α → μ → Prop) : Prop :=
  ∀ m, R.callable m env → R.Keeps env lost m (f m).2 ∧ R.pending (f m).2 env = R.pending m env ∧
    post m (f m).1 (f m).2

/-- A function that loses nothing. -/
def Adds (R : Reading μ ε χ) (env : ε) (f : StateM μ α) (post : μ → α → μ → Prop) : Prop :=
  ∀ m, R.callable m env → R.Keeps env nothing m (f m).2 ∧ post m (f m).1 (f m).2

/-- A reference that is handed out leads to `o`. -/
abbrev Leads (R : Reading μ ε χ) (env : ε) (o : Referent χ) (result : Ref) (m' : μ) : Prop :=
  ∀ handle, result = some handle → R.referent m' env (some handle) = some o

end Reading

variable {μ ε χ : Type}

/-- The functions of an environment do what they are for, as `R` reads the machine, or fail.
Strings are of the class `stringClass`. -/
structure NativeInterface.Faithful (jni : NativeInterface μ) (R : Reading μ ε χ) (C : Charsets χ)
    (stringClass : String) (env : ε) : Prop where
  provides : ∀ entry, jni.provides entry = true
  exceptionCheck : R.Silent env Reading.nothing jni.exceptionCheck
    fun m pending _ => pending = R.pending m env
  /-- The reference is a new one. -/
  findClass : ∀ name, R.Throws env Reading.nothing (jni.findClass name) fun m cls m' =>
    R.Leads env (.classOf name) cls m' ∧ (cls.isSome → R.referent m env cls = none)
  getMethodId : ∀ cls name signature,
    R.Throws env Reading.nothing (jni.getMethodId cls name signature) fun m id m' =>
      ∀ c method, R.referent m env cls = some (.classOf c) → id = some method →
        R.method m' method ⟨c, name, signature⟩
  getStaticMethodId : ∀ cls name signature,
    R.Throws env Reading.nothing (jni.getStaticMethodId cls name signature) fun m id m' =>
      ∀ c method, R.referent m env cls = some (.classOf c) → id = some method →
        R.method m' method ⟨c, name, signature⟩
  /-- The reference is a new one. -/
  newStringUtf : ∀ text, R.Throws env Reading.nothing (jni.newStringUtf text) fun m string m' =>
    R.Leads env (.text (Text.Utf16.encode text)) string m' ∧
      (string.isSome → R.referent m env string = none)
  /-- Charsets are found by name. -/
  callStaticObjectMethod : ∀ cls method args,
    R.Throws env Reading.nothing (jni.callStaticObjectMethod cls method args) fun m charset m' =>
      ∀ name text, args = [name] →
        R.method m method ⟨charsetClassName, "forName", forNameSignature⟩ →
        R.referent m env name = some (.text (Text.Utf16.encode text)) →
        charset.isSome → ∃ cs, C.named text = some cs ∧ R.Leads env (.charset cs) charset m'
  /-- Strings give bytes in a charset. An array is no longer than arrays can be. -/
  callObjectMethod : ∀ object method args,
    R.Throws env Reading.nothing (jni.callObjectMethod object method args) fun m array m' =>
      ∀ units charset cs, args = [charset] →
        R.method m method ⟨stringClass, "getBytes", getBytesSignature⟩ →
        R.referent m env object = some (.text units) →
        R.referent m env charset = some (.charset cs) →
        (C.encode cs units).length ≤ Context.maxArrayLen ∧ ∃ handle, array = some handle ∧
          R.referent m' env (some handle) = some (.bytes ((C.encode cs units).map UInt8.toInt8))
  /-- Strings are built from bytes in a charset. -/
  newObject : ∀ cls constructor args,
    R.Throws env Reading.nothing (jni.newObject cls constructor args) fun m string m' =>
      ∀ array content charset cs, args = [array, charset] →
        R.method m constructor ⟨stringClass, "<init>", constructorSignature⟩ →
        R.referent m env cls = some (.classOf stringClass) →
        R.referent m env array = some (.bytes content) →
        R.referent m env charset = some (.charset cs) →
        R.Leads env (.text (C.decode cs (content.map Int8.toUInt8))) string m'
  newByteArray : ∀ len, R.Throws env Reading.nothing (jni.newByteArray len) fun _ array m' =>
    0 ≤ len.toInt → R.Leads env (.bytes (List.replicate len.toInt.toNat 0)) array m'
  getArrayLength : ∀ array, R.Silent env Reading.nothing (jni.getArrayLength array)
    fun m len _ => ∀ content, R.referent m env array = some (.bytes content) →
      content.length ≤ Context.maxArrayLen → len.toInt = content.length
  getByteArrayRegion : ∀ array start len,
    R.Throws env Reading.nothing (jni.getByteArrayRegion array start len) fun m bytes _ =>
      ∀ content, R.referent m env array = some (.bytes content) → 0 ≤ start.toInt →
        0 ≤ len.toInt → bytes = (content.drop start.toInt.toNat).take len.toInt.toNat
  setByteArrayRegion : ∀ array start len bytes,
    R.Throws env Reading.arrays (jni.setByteArrayRegion array start len bytes) fun m _ m' =>
      ∀ content, R.referent m env array = some (.bytes content) → 0 ≤ start.toInt →
        len.toInt = bytes.length →
        R.referent m' env array = some (.bytes (content.take start.toInt.toNat ++ bytes ++
          content.drop (start.toInt.toNat + bytes.length)))
  /-- The reference is a new one, and leads to the same from every thread. -/
  newGlobalRef : ∀ ref, R.Adds env (jni.newGlobalRef ref) fun m copy m' =>
    ∀ o, R.referent m env ref = some o → copy.isSome →
      R.Pinned m' copy o ∧ R.referent m env copy = none
  deleteLocalRef : ∀ ref, R.Silent env (Reading.only ref) (jni.deleteLocalRef ref)
    fun _ _ _ => True
  getJavaVm : R.Silent env Reading.nothing jni.getJavaVm fun _ _ _ => True

end ManagedBridge.Jvm
