import ManagedBridge.Jvm.Process
import ManagedBridge.Proofs.Reliability

/-!
# Calls of a virtual machine return

No call by which the bridge talks to a virtual machine ever panics, whatever the machine does: it
ends with a result or with an error. So the contexts of a machine are reliable without a condition,
and in a process they touch nothing but the link to the machine.
-/

namespace ManagedBridge

variable {σ α β : Type}

/-- The routine returns from every state. -/
def Routine.Total (r : Routine σ α) : Prop := r.Returns (fun _ => True) fun _ _ => True

namespace Routine

@[grind ←] theorem total_pure (a : α) : (pure a : Routine σ α).Total := .pure fun _ => id

@[grind ←] theorem total_bind {r : Routine σ α} {f : α → Routine σ β} (hr : r.Total)
    (hf : ∀ a, (f a).Total) : (r >>= f).Total :=
  hr.bind hf

end Routine

@[grind ←] theorem Call.total_step (f : σ → α × σ) : (Call.step f).Total :=
  fun _ _ => ⟨_, _, rfl, trivial⟩

@[grind ←] theorem Call.total_note (line : LogLine) : (Call.note line : Call σ Unit).Total :=
  fun s _ => ⟨(), { s with log := line :: s.log }, rfl, trivial⟩

namespace Jvm

variable {μ ε : Type}

/-- The call ends from every state, with a result or with an error. -/
def Ends {e : Type} (x : ExceptT e (Call (Link μ)) α) : Prop := x.run.Total

namespace Ends

variable {e e' : Type}

@[grind ←] theorem pure (a : α) : Ends (Pure.pure a : ExceptT e (Call (Link μ)) α) :=
  Routine.total_pure _

@[grind ←] theorem throw (error : e) : Ends (throw error : ExceptT e (Call (Link μ)) α) :=
  Routine.total_pure _

@[grind ←] theorem bind {x : ExceptT e (Call (Link μ)) α} {f : α → ExceptT e (Call (Link μ)) β}
    (hx : Ends x) (hf : ∀ a, Ends (f a)) : Ends (x >>= f) := by
  refine Routine.total_bind hx ?_
  rintro (error | a)
  · exact Routine.total_pure _
  · exact hf a

@[grind ←] theorem lift {x : Call (Link μ) α} (hx : x.Total) :
    Ends (ExceptT.lift x : ExceptT e (Call (Link μ)) α) :=
  Routine.total_bind hx fun _ => Routine.total_pure _

@[grind ←] theorem adapt {f : e → e'} {x : ExceptT e (Call (Link μ)) α} (hx : Ends x) :
    Ends (x.adapt f) := by
  show Routine.Total (Except.mapError f <$> x.run)
  rw [map_eq_pure_bind]
  exact Routine.total_bind hx fun _ => Routine.total_pure _

@[grind ←] theorem mk {x : Call (Link μ) (Except e α)} (hx : x.Total) : Ends (ExceptT.mk x) := hx

@[grind ←] theorem run {x : ExceptT e (Call (Link μ)) α} (hx : Ends x) : x.run.Total := hx

end Ends

namespace Checked

@[grind ←] theorem call_ends (f : StateM μ α) : Ends (call f) := .lift (Call.total_step _)

@[grind ←] theorem attempt_ends {body : Checked μ α} (h : Ends body) : Ends (attempt body) :=
  .lift h

@[grind ←] theorem orStatus_ends (out : Int32 × Option α) : Ends (orStatus out : Checked μ α) := by
  unfold orStatus
  grind

@[grind ←] theorem orMethodNotFound_ends (name signature : String) (found : Option MethodId) :
    Ends (orMethodNotFound name signature found : Checked μ MethodId) := by
  unfold orMethodNotFound
  grind

@[grind ←] theorem getEnv_ends (vm : InvocationInterface μ ε) (t : ThreadId) :
    Ends (getEnv vm t) := by
  unfold getEnv
  grind

variable (jni : NativeInterface μ)

@[grind ←] theorem enter_ends (entry : Entry) (f : StateM μ α) : Ends (enter jni entry f) := by
  unfold enter
  grind

@[grind ←] theorem orException_ends (entry : Entry) (f : StateM μ α) :
    Ends (orException jni entry f) := by
  unfold orException exceptionCheck
  grind

@[grind ←] theorem orNull_ends (entry : Entry) (f : StateM μ (Option α)) :
    Ends (orNull jni entry f) := by
  unfold orNull
  grind

@[grind ←] theorem thenDelete_ends (ref : Ref) {body : Checked μ α} (h : Ends body) :
    Ends (thenDelete jni ref body) := by
  unfold thenDelete deleteLocalRef
  grind

@[grind ←] theorem getString_ends (string : Ref) : Ends (getString jni string) := by
  unfold getString findClass
  grind

@[grind ←] theorem callMethod_ends (object : Ref) (name signature : String) (args : List Ref) :
    Ends (callMethod jni object name signature args) := by
  unfold callMethod getMethodId
  grind

@[grind ←] theorem callStaticMethod_ends (className name signature : String) (args : List Ref) :
    Ends (callStaticMethod jni className name signature args) := by
  unfold callStaticMethod findClass getStaticMethodId
  grind

@[grind ←] theorem newGlobalRef_ends (ref : Ref) : Ends (newGlobalRef jni ref) := by
  unfold newGlobalRef
  grind

end Checked

namespace Link

variable (vm : InvocationInterface μ ε) (t : ThreadId)

@[grind ←] theorem release_total : (release vm t).Total := by
  unfold release call
  grind

@[grind ←] theorem guard_total : (guard vm t).Total := by
  unfold guard
  grind

@[grind ←] theorem attachGuarded_ends : Ends (attachGuarded vm t) := by
  unfold attachGuarded
  grind

@[grind ←] theorem attach_ends : Ends (attach vm t) := by
  unfold attach
  grind

@[grind ←] theorem dropGlobalRef_total (ref : Ref) : (dropGlobalRef vm t ref).Total := by
  have hdelete (env : ε) :
      (do let _ ← (Checked.deleteGlobalRef (vm.functions env) ref).run
        : Call (Link μ) Unit).Total :=
    Routine.total_bind (Checked.enter_ends _ _ _) fun _ => Routine.total_pure _
  refine Routine.total_bind (Checked.getEnv_ends vm t) ?_
  rintro (e | env)
  · refine Routine.total_bind (Checked.getEnv_ends vm t) ?_
    rintro (e | env)
    · refine Routine.total_bind (attachGuarded_ends vm t) ?_
      rintro (e | env)
      · exact Routine.total_pure _
      · exact Routine.total_bind (hdelete env) fun _ => release_total vm t
    · exact hdelete env
  · exact hdelete env

end Link

@[grind ←] theorem Mapped.ofChecked_ends {x : Checked μ α} (h : Ends x) :
    Ends (Mapped.ofChecked x) :=
  h.adapt

@[grind ←] theorem Mapped.lift_ends {x : Call (Link μ) α} (h : x.Total) : Ends (Mapped.lift x) :=
  Ends.lift h

namespace Context

variable (jni : NativeInterface μ)

@[grind ←] theorem dropLocal_total (ref : Ref) : (dropLocal jni ref).Total := by
  unfold dropLocal Checked.deleteLocalRef
  grind

theorem charsetForName_ends (charset : String) : Ends (charsetForName jni charset) := by
  unfold charsetForName Checked.newStringUtf
  grind

@[grind ←] theorem throwableText_ends (throwable : Ref) : Ends (throwableText jni throwable) := by
  unfold throwableText
  grind

@[grind ←] theorem takeSummary_ends : Ends (takeSummary jni) := by
  refine .bind (Checked.enter_ends jni _ _) ?_
  rintro (_ | throwable)
  · exact .pure _
  · refine .bind (Checked.enter_ends jni _ _) fun _ => ?_
    refine .bind (Checked.attempt_ends (throwableText_ends jni _)) fun summary => ?_
    refine .bind (.lift (dropLocal_total jni _)) fun _ => ?_
    cases summary with
    | ok text => exact .pure _
    | error e => exact .throw e

theorem describe_total (byMachine : Bool) : (describe jni byMachine).Total := by
  unfold describe Checked.exceptionDescribe
  grind

theorem clear_total : (clear jni).Total := by
  unfold clear Checked.exceptionClear
  grind

theorem pending_total : (pending jni).Total := by
  unfold pending Checked.exceptionCheck
  grind

theorem stringBytes_ends (caps : Capabilities) (string : Ref) :
    Ends (stringBytes jni caps string) := by
  unfold stringBytes Checked.callObjectMethod
  grind

theorem byteArrayLen_ends (array : Handle) : Ends (byteArrayLen jni array) := by
  unfold byteArrayLen Checked.getArrayLength
  grind

theorem readByteArray_ends (array : Handle) (len : Nat) : Ends (readByteArray jni array len) := by
  unfold readByteArray Checked.getByteArrayRegion
  grind

theorem newByteArray_ends (len : Nat) : Ends (newByteArray jni len) := by
  unfold newByteArray Checked.newByteArray
  grind

theorem writeByteArray_ends (array : Handle) (bytes : List UInt8) :
    Ends (writeByteArray jni array bytes) := by
  unfold writeByteArray Checked.setByteArrayRegion
  grind

theorem newString_ends (caps : Capabilities) (array : Handle) :
    Ends (newString jni caps array) := by
  unfold newString Checked.newObject
  grind

theorem resolve_ends (vm : InvocationInterface μ ε) (t : ThreadId) (c : Context ε) :
    Ends (c.resolve vm t) := by
  have hmethod (cls : Handle) (name signature : String) :
      Ends (Checked.getMethodId (vm.functions c.env) (some cls) name signature) :=
    .bind (Checked.orException_ends _ _ _) fun _ => Checked.orMethodNotFound_ends _ _ _
  refine .bind (Mapped.ofChecked_ends (Checked.orNull_ends _ _ _)) fun cls => ?_
  refine .bind (Mapped.ofChecked_ends (hmethod cls _ _)) fun constructor => ?_
  refine .bind (Mapped.ofChecked_ends (hmethod cls _ _)) fun getBytes => ?_
  refine .bind (charsetForName_ends _ _) fun charset => ?_
  refine .bind (Mapped.ofChecked_ends (Checked.newGlobalRef_ends _ _)) fun stringClass => ?_
  refine .bind (Mapped.lift_ends (Checked.newGlobalRef_ends _ _)) ?_
  rintro (e | pinned) <;> grind

/-- A context of a virtual machine can be used at any time. -/
theorem operations_reliable (vm : InvocationInterface μ ε) (t : ThreadId) (c : Context ε) :
    (c.operations vm t).Reliable fun _ _ => True where
  resolveCapabilities _ := resolve_ends vm t c
  stringBytes _ caps string :=
    (stringBytes_ends _ caps string).mono fun r _ _ => by cases r <;> trivial
  byteArrayLen _ array := byteArrayLen_ends _ array
  readByteArray _ array len := readByteArray_ends _ array len
  newByteArray _ len := (newByteArray_ends _ len).mono fun r _ _ => by cases r <;> trivial
  writeByteArray _ array bytes := writeByteArray_ends _ array bytes
  newString _ caps array := newString_ends _ caps array
  releaseBytes _ array := dropLocal_total _ (some array)
  exceptionPending _ := pending_total _
  describeException _ := describe_total _ _
  clearException _ := clear_total _

end Context

namespace Process

/-- All but the link to the machine is as in `whole`. -/
def Beside (whole p : Process μ) : Prop := ∃ link, p = linkPlace.set link whole

theorem Beside.refl (p : Process μ) : Beside p p := ⟨p.link, rfl⟩

theorem Beside.bridge_eq {whole p : Process μ} (h : Beside whole p) : p.bridge = whole.bridge := by
  obtain ⟨link, rfl⟩ := h
  rfl

/-- A call on the link returns and leaves the rest of the process. -/
theorem returns_zoom {call : Call (Link μ) α} (h : call.Total) (whole : Process μ) :
    (call.zoom linkPlace).Returns (Beside whole) fun _ => Beside whole := by
  have hcall : call.Returns (fun _ => True) fun _ _ => True := h
  rintro s hs
  obtain ⟨a, t, hrun, -, hrest⟩ := hcall.zoom lawful_linkPlace whole s ⟨trivial, hs⟩
  exact ⟨a, t, hrun, hrest⟩

theorem context_reliable (vm : InvocationInterface μ ε) (t : ThreadId) (c : Context ε)
    (whole : Process μ) :
    (context vm t c).Reliable fun _ => Beside whole := by
  have h := (c.operations_reliable vm t).zoom lawful_linkPlace whole
  simp only [true_and] at h
  exact h

/-- A scope is entered, or not, and the bridge stays as it is. -/
theorem enter_returns (vm : InvocationInterface μ ε) (t : ThreadId) (rt : Runtime)
    (whole : Process μ) :
    (Attachment.enter (runtime vm t rt)).Returns (Beside whole) fun _ => Beside whole := by
  have hcurrent : (rt.operations vm t).currentContext.Total := by
    unfold Runtime.operations
    grind
  have hattach : (rt.operations vm t).attachCurrentThread.Total :=
    Ends.bind (Mapped.ofChecked_ends (Link.attach_ends vm t)) fun _ => .pure _
  refine (returns_zoom hcurrent whole).monadLift.bind ?_
  rintro (_ | context)
  · refine (returns_zoom hattach whole).monadLift.bind ?_
    rintro (source | context)
    · exact (Act.returns_note _).bind fun _ => .pure fun _ => id
    · refine (Act.returns_count _).bind fun _ => (Act.returns_note _).bind fun _ => ?_
      exact .pure fun _ => id
  · refine (Act.returns_count _).bind fun _ => (Act.returns_note _).bind fun _ => ?_
    exact .pure fun _ => id

theorem exit_returns (vm : InvocationInterface μ ε) (t : ThreadId) (rt : Runtime)
    (a : Attachment) (whole : Process μ) :
    (Attachment.exit (runtime vm t rt) a).Returns (Beside whole) fun _ => Beside whole := by
  rcases a with ⟨_ | _⟩
  · exact .pure fun _ => id
  · refine (returns_zoom (Link.release_total vm t) whole).monadLift.bind fun _ => ?_
    exact (Act.returns_count _).bind fun _ => Act.returns_note _

end Process

end Jvm

end ManagedBridge
