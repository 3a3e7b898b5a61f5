import ManagedBridge.Proofs.Books
import ManagedBridge.Proofs.Calls
import ManagedBridge.Proofs.Carrying
import ManagedBridge.Proofs.Parts

/-!
# What conversions come to

On an attached thread of an in-process runtime a conversion is refused by an exception that is
pending, fails with an exception that the runtime raises in it, or comes to what there is to be
converted. Which of these it is can be told from the thread's record and the runtime's flags, and
nothing but the exception is left of it.
-/

namespace ManagedBridge

open Text.Utf8

namespace InProcess

open Context

section Steps

variable {start : Runtime} {t : ThreadId} {record : ThreadRecord} {armed : Bool}
  {made : List (ZeroFilled UInt8)} {array : ArrayId} {stored : ZeroFilled UInt8}
  (hopen : start.poisoned = false) (hcalm : record.pending = none)

include hopen hcalm

theorem called_copyOut [Memory] (h : made[array]? = some stored) {bytes : List UInt8}
    (hbytes : stored.toList = bytes) :
    (Marshal.copyOut (context t) array).Returns (Called start t record armed made)
      fun r s => r = copied bytes ∧ ∃ made, Called start t record armed made s := by
  subst hbytes
  refine (called_byteArrayLen hopen hcalm h).bind_value ?_
  rw [copied, ZeroFilled.length_toList]
  dsimp only
  split
  · refine (called_readByteArray hopen hcalm h).bind_value ?_
    rw [← ByteBuffer.filled_eq_ofBytes, ZeroFilled.length_toList]
    exact .pure fun _ hs => ⟨rfl, made, hs⟩
  · exact .pure fun _ hs => ⟨rfl, made, hs⟩

theorem called_construct (constructs : start.throwOnConstruct = false) (caps : Capabilities)
    {bytes : List UInt8} (h : made[array]? = some (.zeros bytes.length)) :
    (Marshal.construct (context t) caps array bytes).Returns (Called start t record armed made)
      fun r s => r = .ok (decodeLossy bytes) ∧ ∃ made, Called start t record armed made s := by
  refine (called_writeByteArray hopen hcalm h rfl).bind_value ?_
  have hwritten : (made.set array (.write (.zeros bytes.length) 0 bytes))[array]? =
      some (.write (.zeros bytes.length) 0 bytes) :=
    List.getElem?_set_self (List.getElem?_eq_some_iff.mp h).1
  refine (called_newString hopen hcalm constructs hwritten caps).bind_value ?_
  have hbytes : (ZeroFilled.write (.zeros bytes.length) 0 bytes).toList = bytes := by
    simp [ZeroFilled.toList_write, overwrite]
  rw [hbytes]
  exact .pure fun _ hs => ⟨rfl, _, hs⟩

theorem called_construct_throws (throws : start.throwOnConstruct = true) (caps : Capabilities)
    {bytes : List UInt8} (h : made[array]? = some (.zeros bytes.length)) :
    (Marshal.construct (context t) caps array bytes).Returns (Called start t record armed made)
      fun r s => r = .error (.pendingException "new_string") ∧ ∃ made,
        Called start t (record.raise "java/lang/IllegalArgumentException") armed made s := by
  refine (called_writeByteArray hopen hcalm h rfl).bind_value ?_
  refine (called_newString_throws hopen hcalm throws caps).bind_value ?_
  exact .pure fun _ hs => ⟨rfl, _, hs⟩

end Steps

/-- What a call for an array does, on a thread with the record. -/
structure Obtains (start : Runtime) (t : ThreadId) (record : ThreadRecord)
    (obtain : Call State (Except RuntimeError ArrayId)) (array : ZeroFilled UInt8) : Prop where
  refused : record.pending.isSome → ∀ armed made,
    obtain.Returns (Called start t record armed made) fun r s =>
      r = .error .exceptionPending ∧ Called start t record armed made s
  exhausted : record.pending = none → ∀ made,
    obtain.Returns (Called start t record true made) fun r s =>
      r = .error .outOfMemory ∧
        Called start t (record.raise "java/lang/OutOfMemoryError") false made s
  handed : record.pending = none → ∀ made,
    obtain.Returns (Called start t record false made) fun r s =>
      r = .ok made.length ∧ Called start t record.handOut false (made ++ [array]) s

/-- What a conversion comes to: its result, and the exception that is then pending on its thread. -/
structure Outcome (α : Type) where
  result : Except BridgeError (Option α)
  pending : Option String

namespace Runtime

variable {α : Type}

/-- A conversion that asks for an array of `len` bytes in the operation `op`, and then comes to
`rest`. A pending exception refuses it, and so may the runtime, which then raises one. -/
def outcome (r : Runtime) (record : ThreadRecord) (op : String) (len : Nat) (rest : Outcome α) :
    Outcome α :=
  if record.pending.isSome then ⟨.error (.pendingException op), record.pending⟩
  else if r.failNextAllocation then
    ⟨.error (.allocation op len), some "java/lang/OutOfMemoryError"⟩
  else rest

/-- What copying a text out comes to. -/
def copying [Memory] (r : Runtime) (record : ThreadRecord) (string : String) : Outcome ByteBuffer :=
  r.outcome record "string_bytes" 0 ⟨(copied (encode string)).map some, none⟩

/-- What building a text from bytes comes to. -/
def building (r : Runtime) (record : ThreadRecord) (bytes : List UInt8) : Outcome String :=
  r.outcome record "new_byte_array" bytes.length
    (if r.throwOnConstruct then
      ⟨.error (.pendingException "new_string"), some "java/lang/IllegalArgumentException"⟩
    else ⟨.ok (some (decodeLossy bytes)), none⟩)

end Runtime

/-- The act comes to this from `start`, and leaves of itself no more than the exception that is
pending on the thread. -/
def Comes {α : Type} (start : Runtime) (t : ThreadId) (record : ThreadRecord)
    (act : Act State (Except BridgeError (Option α))) (outcome : Outcome α) : Prop :=
  ∀ made, act.Returns (Called start t record start.failNextAllocation made) fun r s =>
    r = outcome.result ∧ ∃ made, Called start t { record with pending := outcome.pending }
      (start.failNextAllocation && record.pending.isSome) made s

section Outcomes

variable {α : Type} {start : Runtime} {t : ThreadId} {record : ThreadRecord}

/-- What is pending is put down as it is. -/
theorem ThreadRecord.keep_pending {pending : Option String} (h : record.pending = pending) :
    { record with pending } = record := by
  rw [← h]

/-- A conversion that obtains its array goes on with it. -/
theorem Obtains.comes {obtain : Call State (Except RuntimeError ArrayId)}
    {array : ZeroFilled UInt8} (h : Obtains start t record obtain array) {op : String} {len : Nat}
    {rest : Outcome α} {next : Except RuntimeError ArrayId →
      Act State (Except BridgeError (Option α))}
    (fails : ∀ e, next (.error e) = pure (.error (.ofRuntime op len e)))
    (goes : record.pending = none → ∀ made,
      (next (.ok made.length)).Returns (Called start t record.handOut false (made ++ [array]))
        fun r s => r = rest.result ∧
          ∃ made, Called start t { record with pending := rest.pending } false made s) :
    Comes start t record (liftM obtain >>= next) (start.outcome record op len rest) := by
  intro made
  cases hpending : record.pending with
  | some message =>
    have hsome : record.pending.isSome := by simp [hpending]
    refine (h.refused hsome _ made).monadLift.bind_value ?_
    rw [fails, Runtime.outcome, if_pos hsome]
    refine .pure fun w hw => ⟨rfl, made, ?_⟩
    simpa [ThreadRecord.keep_pending] using hw
  | none =>
    cases harmed : start.failNextAllocation with
    | true =>
      refine (h.exhausted hpending made).monadLift.bind_value ?_
      rw [fails]
      refine .pure fun w hw => ?_
      simpa [Runtime.outcome, hpending, harmed] using ⟨rfl, made, hw⟩
    | false =>
      refine (h.handed hpending made).monadLift.bind_value ?_
      simpa [Runtime.outcome, hpending, harmed] using goes hpending made

variable (hopen : start.poisoned = false)

include hopen

theorem stringBytes_obtains (record : ThreadRecord) (caps : Capabilities) (string : String) :
    Obtains start t record ((context t).stringBytes caps string) (.ofList (encode string)) where
  refused hpending _ _ := called_call_refused hopen hpending fun _ => rfl
  exhausted hcalm _ := called_call_then hopen hcalm (called_allocate_refused hopen _)
  handed hcalm _ := called_stringBytes hopen hcalm caps string

theorem newByteArray_obtains (record : ThreadRecord) (len : Nat) :
    Obtains start t record ((context t).newByteArray len) (.zeros len) where
  refused hpending _ _ := called_call_refused hopen hpending fun _ => rfl
  exhausted hcalm _ := called_call_then hopen hcalm (called_allocate_refused hopen _)
  handed hcalm _ := called_newByteArray hopen hcalm len

/-- A text is copied out, unless an exception or want of memory stands in the way. -/
theorem toNative_comes [Memory] (record : ThreadRecord) (caps : Capabilities) (string : String) :
    Comes start t record (Marshal.toNative (context t) caps (some string))
      (start.copying record string) := by
  refine (stringBytes_obtains hopen record caps string).comes (fun _ => rfl) fun hcalm made => ?_
  have hcalm' : record.handOut.pending = none := hcalm
  refine (called_copyOut hopen hcalm' List.getElem?_concat_length
    (ZeroFilled.toList_ofList _)).monadLift.bind_value ?_
  refine (called_releaseBytes hopen record _).monadLift.bind fun _ => ?_
  rw [ThreadRecord.keep_pending hcalm]
  rcases copied (encode string) with e | buffer <;> exact fun w hw => ⟨_, _, rfl, rfl, hw⟩

/-- A text is built, unless an exception stands in the way. -/
theorem toManaged_comes (record : ThreadRecord) (caps : Capabilities) (bytes : List UInt8) :
    Comes start t record (Marshal.toManaged (context t) caps (some bytes))
      (start.building record bytes) := by
  refine (newByteArray_obtains hopen record bytes.length).comes (fun _ => rfl) fun hcalm made => ?_
  have hcalm' : record.handOut.pending = none := hcalm
  cases hthrows : start.throwOnConstruct with
  | true =>
    refine (called_construct_throws hopen hcalm' hthrows caps
      List.getElem?_concat_length).monadLift.bind_value ?_
    refine (called_releaseBytes hopen
      (record.raise "java/lang/IllegalArgumentException") _).monadLift.bind fun _ => ?_
    exact fun w hw => ⟨_, _, rfl, rfl, hw⟩
  | false =>
    refine (called_construct hopen hcalm' hthrows caps
      List.getElem?_concat_length).monadLift.bind_value ?_
    refine (called_releaseBytes hopen record _).monadLift.bind fun _ => ?_
    simp only [Bool.false_eq_true, if_false, ThreadRecord.keep_pending hcalm]
    exact fun w hw => ⟨_, _, rfl, rfl, hw⟩

end Outcomes

end InProcess

namespace Installation

open InProcess

variable {ρ ι α : Type} [DecidableEq ρ] {r : ρ} {t : ThreadId} {old : ThreadRecord}
  {w : World (Installation ρ ι)} {b : ι}

/-- From `s` to `v` nothing but the exception that is pending on the thread has changed, in any
runtime or bridge; apart from how many calls were made, which arrays there are, and whether the next
allocation is to fail. -/
def Aftermath (r : ρ) (t : ThreadId) (old : ThreadRecord) (pending : Option String)
    (s v : Installation ρ ι) : Prop :=
  ∃ calls made, v = (runtimeAt r).set
    ⟨(s.runtimes r).runtime.called t { old with pending }
      ((s.runtimes r).runtime.failNextAllocation && old.pending.isSome) calls, made⟩ s

/-- What comes to something on a runtime does so in an installation, and leaves the rest alone. -/
theorem exists_aftermath (h : Holds w.backend r t old)
    {act : Act State (Except BridgeError (Option α))} {outcome : Outcome α}
    (hact : Comes (w.backend.runtimes r).runtime t old act outcome) :
    ∃ v, (act.zoom (runtimeAt r)).run w = (.ok outcome.result, v) ∧
      Aftermath r t old outcome.pending w.backend v.backend := by
  obtain ⟨result, v, hrun, rfl, made, ⟨calls, hruntime⟩, harrays⟩ :=
    hact _ ((runtimeAt r).world.get w) (Called.refl h.found)
  refine ⟨(runtimeAt r).world.set v w, ?_, calls, made, ?_⟩
  · rw [Act.zoom, Routine.run_zoom (lawful_runtimeAt r).world, hrun]
  · rw [← hruntime, ← harrays]
    rfl

variable [DecidableEq ι]

/-- What `nativeFromManaged` comes to with a bridge that is initialized. -/
theorem run_nativeFromManaged [Memory] (h : Holds w.backend r t old)
    (initialized : (w.backend.bridges b).isInitialized = true) (string : String) :
    ∃ v, (use (r, t) (.nativeFromManaged b (some string))).run w =
        (.ok ((w.backend.runtimes r).runtime.copying old string).result, v) ∧
      Aftermath r t old ((w.backend.runtimes r).runtime.copying old string).pending w.backend
        v.backend := by
  obtain ⟨caps, hcaps⟩ := Bridge.exists_capabilities initialized
  rw [use, Bridge.run_nativeFromManaged hcaps, context, Marshal.toNative_zoom (lawful_runtimeAt r)]
  exact exists_aftermath h (toNative_comes h.unlocked old caps string)

/-- What `managedFromNative` comes to with a bridge that is initialized. -/
theorem run_managedFromNative [Memory] (h : Holds w.backend r t old)
    (initialized : (w.backend.bridges b).isInitialized = true) (bytes : List UInt8) :
    ∃ v, (use (r, t) (.managedFromNative b (some bytes))).run w =
        (.ok ((w.backend.runtimes r).runtime.building old bytes).result, v) ∧
      Aftermath r t old ((w.backend.runtimes r).runtime.building old bytes).pending w.backend
        v.backend := by
  obtain ⟨caps, hcaps⟩ := Bridge.exists_capabilities initialized
  rw [use, Bridge.run_managedFromNative hcaps, context, Marshal.toManaged_zoom (lawful_runtimeAt r)]
  exact exists_aftermath h (toManaged_comes h.unlocked old caps bytes)

end Installation

end ManagedBridge
