import Mathlib.Data.Set.Insert
import ManagedBridge.Proofs.ExceptionRules
import ManagedBridge.Proofs.Presence

/-!
# References that calls leave

A function of the native interface that answers with an object leaves its caller a local reference,
which is in use until it is deleted or the thread is detached. The rules here tell which references
a checked call leaves: none, or the one that it answers with.
-/

namespace ManagedBridge.Jvm

variable {μ ε α β e e' : Type}

/-- How the references of a thread are read off the state of a machine. -/
structure References (μ : Type) where
  sound : μ → Prop
  pending : μ → Bool
  locals : μ → Set Handle
  globals : μ → Set Handle

namespace References

/-- The references with one more, unless that is null. -/
def added (held : Set Handle) (ref : Ref) : Set Handle := {h | h ∈ held ∨ ref = some h}

/-- The references without one. -/
def removed (held : Set Handle) (ref : Ref) : Set Handle := {h | h ∈ held ∧ ref ≠ some h}

/-- The reference is null, or not in use. -/
def Fresh (ref : Ref) (held : Set Handle) : Prop := ∀ h, ref = some h → h ∉ held

section Sets

variable {held : Set Handle} {ref other : Ref}

theorem mem_added {h : Handle} : h ∈ added held ref ↔ h ∈ held ∨ ref = some h := Iff.rfl

theorem mem_removed {h : Handle} : h ∈ removed held ref ↔ h ∈ held ∧ ref ≠ some h := Iff.rfl

@[simp] theorem added_none : added held none = held := by
  ext h
  simp [mem_added]

theorem added_some (h : Handle) : added held (some h) = held ∪ {h} := by
  ext handle
  simp [mem_added, eq_comm, or_comm]

theorem fresh_some {h : Handle} : Fresh (some h) held ↔ h ∉ held := by simp [Fresh]

@[simp] theorem fresh_none : Fresh none held := nofun

theorem Fresh.of_added (h : Fresh ref (added held other)) : Fresh ref held :=
  fun handle hnew hheld => h handle hnew (.inl hheld)

@[simp] theorem removed_none : removed held none = held := by
  ext h
  simp [mem_removed]

theorem removed_of_not_mem {h : Handle} (hn : h ∉ held) : removed held (some h) = held := by
  ext handle
  simp only [mem_removed, ne_eq, Option.some.injEq, and_iff_left_iff_imp]
  rintro hmem rfl
  exact hn hmem

/-- To delete what was new is to have what was there before. -/
theorem removed_added (h : Fresh ref held) : removed (added held ref) ref = held := by
  ext handle
  simp only [mem_removed, mem_added]
  have hnew := h handle
  grind

/-- What came after that stays. -/
theorem removed_added_added (h : Fresh ref held) (h' : Fresh other (added held ref)) :
    removed (added (added held ref) other) ref = added held other := by
  ext handle
  simp only [mem_removed, mem_added]
  have hnew := h handle
  have hother := h' handle
  simp only [mem_added] at hother
  grind

end Sets

variable (R : References μ)

/-- The machine is sound, and these references are in use. -/
structure At (locals globals : Set Handle) (m : μ) : Prop where
  sound : R.sound m
  locals_eq : R.locals m = locals
  globals_eq : R.globals m = globals

/-- A new local reference is in use beside those before, if it is not null. -/
structure Left (locals globals : Set Handle) (ref : Ref) (m : μ) : Prop where
  fresh : Fresh ref locals
  now : R.At (added locals ref) globals m

/-- A new global reference is in use beside those before, if it is not null. -/
structure Pinned (locals globals : Set Handle) (ref : Ref) (m : μ) : Prop where
  fresh : Fresh ref globals
  now : R.At locals (added globals ref) m

/-- The function takes no reference and deletes none. -/
def Keeps (f : StateM μ α) : Prop := ∀ L G m, R.At L G m → R.At L G (f m).2

/-- The function answers with a new local reference or with null. If it leaves an exception pending
it has taken no reference. -/
def Hands (f : StateM μ Ref) : Prop :=
  ∀ L G m, R.At L G m →
    (R.pending (f m).2 = true → R.At L G (f m).2) ∧
      (R.pending (f m).2 = false → R.Left L G (f m).1 (f m).2)

/-- The function answers with a new global reference or with null. -/
def Pins (f : StateM μ Ref) : Prop := ∀ L G m, R.At L G m → R.Pinned L G (f m).1 (f m).2

variable {R} {L G : Set Handle} {m : μ}

theorem At.left (h : R.At L G m) : R.Left L G none m := ⟨fresh_none, added_none.symm ▸ h⟩

theorem At.pinned (h : R.At L G m) : R.Pinned L G none m := ⟨fresh_none, added_none.symm ▸ h⟩

theorem Left.none_now (h : R.Left L G none m) : R.At L G m := by simpa using h.now

theorem Pinned.none_now (h : R.Pinned L G none m) : R.At L G m := by simpa using h.now

end References

/-- What a native interface does to the references of its thread. -/
structure NativeInterface.Tracks (jni : NativeInterface μ) (R : References μ) : Prop where
  checks : jni.provides .exceptionCheck = true
  deletes : jni.provides .deleteLocalRef = true
  deletesGlobal : jni.provides .deleteGlobalRef = true
  exceptionCheck : ∀ m, (jni.exceptionCheck m).1 = R.pending m
  exceptionCheck_keeps : R.Keeps jni.exceptionCheck
  findClass : ∀ name, R.Hands (jni.findClass name)
  newStringUtf : ∀ text, R.Hands (jni.newStringUtf text)
  callStaticObjectMethod : ∀ cls method args, R.Hands (jni.callStaticObjectMethod cls method args)
  getMethodId : ∀ cls name signature, R.Keeps (jni.getMethodId cls name signature)
  getStaticMethodId : ∀ cls name signature, R.Keeps (jni.getStaticMethodId cls name signature)
  getJavaVm : R.Keeps jni.getJavaVm
  deleteLocalRef : ∀ ref L G m, R.At L G m →
    R.At (References.removed L ref) G (jni.deleteLocalRef ref m).2
  deleteGlobalRef : ∀ ref L G m, R.At L G m →
    R.At L (References.removed G ref) (jni.deleteGlobalRef ref m).2
  newGlobalRef : ∀ ref, R.Pins (jni.newGlobalRef ref)

/-- The thread is attached, with this environment. -/
structure InvocationInterface.Tracks (vm : InvocationInterface μ ε) (t : ThreadId) (env : ε)
    (R : References μ) : Prop where
  getEnv : ∀ m, R.sound m → (vm.getEnv t m).1 = (0, some env)
  getEnv_keeps : R.Keeps (vm.getEnv t)
  functions : (vm.functions env).Tracks R

namespace References

variable {R : References μ} {L G : Set Handle}

/-- The reference that a result comes with. -/
def heldIn (held : α → Ref) : Except e α → Ref
  | .ok a => held a
  | .error _ => none

/-- The call ends, and leaves no reference but the one that its result comes with. -/
def Leaves (R : References μ) (x : ExceptT e (Call (Link μ)) α) (held : α → Ref) : Prop :=
  ∀ L G, Call.Returns (fun l => R.At L G l.machine) x.run
    fun r l => R.Left L G (heldIn held r) l.machine

/-- No reference comes with the result. -/
abbrev nothing : α → Ref := fun _ => none

/-- A call whose error is told in other words ends as it does. -/
theorem returns_adapt {x : ExceptT e (Call (Link μ)) α} {g : e → e'} {P : Link μ → Prop}
    {Q : Except e α → Link μ → Prop} (hx : Call.Returns P x.run Q) :
    Call.Returns P (x.adapt g).run fun r l => ∃ r', r = Except.mapError g r' ∧ Q r' l := by
  show Routine.Returns _ (Except.mapError g <$> x.run) _
  rw [map_eq_pure_bind]
  exact Routine.Returns.bind hx fun r => .pure fun s hs => ⟨r, rfl, hs⟩

namespace Leaves

variable {x : ExceptT e (Call (Link μ)) α} {f : α → ExceptT e (Call (Link μ)) β}
  {held : α → Ref} {held' : β → Ref}

theorem throw (error : e) : R.Leaves (throw error : ExceptT e (Call (Link μ)) α) held :=
  fun _ _ => .pure (a := Except.error error) fun _ hs => hs.left

theorem pure (a : α) (h : held a = none) :
    R.Leaves (Pure.pure a : ExceptT e (Call (Link μ)) α) held := by
  refine fun L G => .pure (a := Except.ok a) fun s hs => ?_
  show R.Left L G (held a) _
  rw [h]
  exact hs.left

/-- After a call that leaves nothing the next one begins where the first began. -/
theorem bind_returns (hx : R.Leaves x nothing) {Q : Except e β → Link μ → Prop}
    (herror : ∀ error l, R.At L G l.machine → Q (.error error) l)
    (hf : ∀ a, Call.Returns (fun l => R.At L G l.machine) (f a).run Q) :
    Call.Returns (fun l => R.At L G l.machine) (x >>= f).run Q := by
  refine (hx L G).bind fun r => ?_
  cases r with
  | error error => exact fun s hs => ⟨.error error, s, rfl, herror error _ hs.none_now⟩
  | ok a => exact fun s hs => hf a s hs.none_now

theorem bind (hx : R.Leaves x nothing) (hf : ∀ a, R.Leaves (f a) held') :
    R.Leaves (x >>= f) held' :=
  fun L G => hx.bind_returns (fun _ _ hs => hs.left) fun a => hf a L G

/-- The reference that a result comes with is passed on. -/
theorem pass (hx : R.Leaves x held)
    (hf : ∀ a, ∃ r, (f a).run = Pure.pure r ∧ heldIn held' r = held a) :
    R.Leaves (x >>= f) held' := by
  intro L G
  refine (hx L G).bind fun r => ?_
  cases r with
  | error error => exact fun s hs => ⟨.error error, s, rfl, hs⟩
  | ok a =>
    obtain ⟨r, hr, hheld⟩ := hf a
    intro s hs
    refine ⟨r, s, congrArg (Routine.run · s) hr, ?_⟩
    show R.Left L G (heldIn held' r) _
    rw [hheld]
    exact hs

theorem adapt {g : e → e'} (hx : R.Leaves x held) : R.Leaves (x.adapt g) held := by
  intro L G
  refine (returns_adapt (hx L G)).mono fun r s hs => ?_
  obtain ⟨r', rfl, hs⟩ := hs
  cases r' <;> exact hs

end Leaves

section Calls

variable {jni : NativeInterface μ}

theorem keeps_enter {f : StateM μ α} (hf : R.Keeps f) (entry : Entry) :
    R.Leaves (Checked.enter jni entry f) nothing := by
  rw [Checked.enter]
  split
  · intro L G s hs
    exact ⟨_, _, rfl, (hf L G _ hs).left⟩
  · exact .throw _

/-- The check tells whether an exception is pending, and takes nothing. -/
theorem exceptionCheck_run (h : jni.Tracks R) (s : Site (Link μ)) :
    (Checked.exceptionCheck jni).run.run s =
      (.ok (.ok (R.pending s.backend.machine)), Link.after jni.exceptionCheck s) := by
  rw [Checked.exceptionCheck, Checked.enter, if_pos h.checks, ← h.exceptionCheck]
  rfl

theorem orException_keeps (h : jni.Tracks R) {f : StateM μ α} (hf : R.Keeps f) (entry : Entry) :
    R.Leaves (Checked.orException jni entry f) nothing := by
  refine (keeps_enter hf entry).bind fun a => ?_
  refine (keeps_enter h.exceptionCheck_keeps .exceptionCheck).bind fun pending => ?_
  cases pending with
  | true => exact .throw _
  | false => exact .pure a rfl

/-- Whether a function has taken a reference is told by the check that follows it. -/
theorem orException_leaves (h : jni.Tracks R) {f : StateM μ Ref} (hf : R.Hands f) (entry : Entry) :
    R.Leaves (Checked.orException jni entry f) id := by
  by_cases hprovided : jni.provides entry = true
  · intro L G s hs
    obtain ⟨hthrown, hquiet⟩ := hf L G _ hs
    have hcheck := exceptionCheck_run h (Link.after f s)
    rw [Checked.orException, Checked.enter, if_pos hprovided]
    have hcall : (Checked.call f).run.run s =
        (.ok (.ok (f s.backend.machine).1), Link.after f s) := rfl
    cases hpending : R.pending (f s.backend.machine).2 with
    | true =>
      have hrun : (Checked.exceptionCheck jni).run.run (Link.after f s) = (.ok (.ok true), _) :=
        hpending ▸ hcheck
      refine ⟨_, _, (Routine.run_bind_ok hcall _).trans (Routine.run_bind_ok hrun _), ?_⟩
      exact (h.exceptionCheck_keeps L G _ (hthrown hpending)).left
    | false =>
      have hrun : (Checked.exceptionCheck jni).run.run (Link.after f s) = (.ok (.ok false), _) :=
        hpending ▸ hcheck
      obtain ⟨hfresh, hnow⟩ := hquiet hpending
      refine ⟨_, _, (Routine.run_bind_ok hcall _).trans (Routine.run_bind_ok hrun _), hfresh, ?_⟩
      exact h.exceptionCheck_keeps _ G _ hnow
  · rw [Checked.orException, Checked.enter, if_neg hprovided]
    exact .throw _

theorem orNull_leaves (h : jni.Tracks R) {f : StateM μ Ref} (hf : R.Hands f) (entry : Entry) :
    R.Leaves (Checked.orNull jni entry f) some := by
  refine (orException_leaves h hf entry).pass fun ref => ?_
  cases ref with
  | none => exact ⟨_, rfl, rfl⟩
  | some handle => exact ⟨.ok handle, rfl, rfl⟩

theorem findClass_leaves (h : jni.Tracks R) (name : String) :
    R.Leaves (Checked.findClass jni name) some :=
  orNull_leaves h (h.findClass name) .findClass

theorem orMethodNotFound_leaves (name signature : String) (found : Option MethodId) :
    R.Leaves (Checked.orMethodNotFound name signature found : Checked μ MethodId) nothing := by
  cases found with
  | none => exact .throw _
  | some method => exact .pure method rfl

theorem getMethodId_leaves (h : jni.Tracks R) (cls : Ref) (name signature : String) :
    R.Leaves (Checked.getMethodId jni cls name signature) nothing :=
  (orException_keeps h (h.getMethodId cls name signature) _).bind
    (orMethodNotFound_leaves name signature)

theorem deleteLocalRef_returns (h : jni.Tracks R) (ref : Ref) :
    (Checked.deleteLocalRef jni ref).run.Returns (fun l => R.At L G l.machine) fun r l =>
      r = .ok () ∧ R.At (removed L ref) G l.machine := by
  rw [Checked.deleteLocalRef, Checked.enter, if_pos h.deletes]
  exact fun s hs => ⟨_, _, rfl, rfl, h.deleteLocalRef ref L G _ hs⟩

theorem dropLocal_returns (h : jni.Tracks R) (ref : Ref) :
    (Context.dropLocal jni ref).Returns (fun l => R.At L G l.machine) fun _ l =>
      R.At (removed L ref) G l.machine :=
  (deleteLocalRef_returns h ref).bind_value (.pure fun _ => id)

/-- A reference that is deleted after a call leaves what the call leaves. -/
theorem Leaves.bind_thenDelete (h : jni.Tracks R) {x : Checked μ β} {body : β → Checked μ α}
    {ref : β → Ref} {held : α → Ref} (hx : R.Leaves x ref) (hbody : ∀ b, R.Leaves (body b) held) :
    R.Leaves (x >>= fun b => Checked.thenDelete jni (ref b) (body b)) held := by
  intro L G
  refine (hx L G).bind fun r => ?_
  cases r with
  | error error => exact fun s hs => ⟨.error error, s, rfl, hs⟩
  | ok b =>
    rintro s ⟨hfresh, hs⟩
    refine ((hbody b (added L (ref b)) G).bind fun result => ?_) s hs
    rintro s ⟨hnew, hs⟩
    refine ((deleteLocalRef_returns h (ref b)).bind fun _ => ?_) s hs
    refine .pure fun s hs => ⟨hnew.of_added, ?_⟩
    have hkept : removed (added (added L (ref b)) (heldIn held result)) (ref b) =
        added L (heldIn held result) := removed_added_added hfresh hnew
    rw [← hkept]
    exact hs.2

theorem callStaticMethod_leaves (h : jni.Tracks R) (className name signature : String)
    (args : List Ref) :
    R.Leaves (Checked.callStaticMethod jni className name signature args) id := by
  refine Leaves.bind_thenDelete h (findClass_leaves h className) fun cls => ?_
  refine Leaves.bind ?_ fun method => orException_leaves h (h.callStaticObjectMethod _ _ _) _
  exact (orException_keeps h (h.getStaticMethodId _ _ _) _).bind
    (orMethodNotFound_leaves name signature)

/-- The name of the charset is deleted, whether the charset was found or not. -/
theorem charsetForName_leaves (h : jni.Tracks R) (charset : String) :
    R.Leaves (Context.charsetForName jni charset) some := by
  intro L G
  refine ((orNull_leaves h (h.newStringUtf charset) _).adapt L G).bind fun r => ?_
  cases r with
  | error error => exact fun s hs => ⟨.error error, s, rfl, hs⟩
  | ok name =>
    rintro s ⟨hfresh, hs⟩
    have hfound := callStaticMethod_leaves h charsetClassName "forName" forNameSignature [some name]
    refine (returns_lift_bind (hfound (added L (some name)) G) fun found => ?_) s hs
    rintro s ⟨hnew, hs⟩
    refine (returns_lift_bind (dropLocal_returns h (some name)) fun _ => ?_) s hs
    have hkept : removed (added (added L (some name)) (heldIn id found)) (some name) =
        added L (heldIn id found) := removed_added_added hfresh hnew
    rw [hkept]
    rcases found with error | _ | charset
    · exact .pure fun _ hs => ⟨fresh_none, hs⟩
    · exact .pure fun _ hs => ⟨fresh_none, hs⟩
    · exact .pure fun _ hs => ⟨hnew.of_added, hs⟩

theorem orStatus_leaves (out : Int32 × Option α) :
    R.Leaves (Checked.orStatus out : Checked μ α) nothing := by
  obtain ⟨code, a⟩ := out
  unfold Checked.orStatus
  dsimp only
  rcases Status.ofCode? code with _ | status
  · cases a with
    | none => exact .throw _
    | some a => exact .pure a rfl
  · exact .throw _

/-- A new global reference is the only one that is taken. -/
theorem newGlobalRef_returns (h : jni.Tracks R) (ref : Ref) :
    (Checked.newGlobalRef jni ref).run.Returns (fun l => R.At L G l.machine)
      fun r l => R.Pinned L G (heldIn id r) l.machine := by
  refine (keeps_enter h.getJavaVm .getJavaVm).bind_returns (fun _ _ hs => hs.pinned) fun out => ?_
  refine (orStatus_leaves out).bind_returns (fun _ _ hs => hs.pinned) fun _ => ?_
  rw [Checked.enter]
  split
  · exact fun s hs => ⟨_, _, rfl, h.newGlobalRef ref L G _ hs⟩
  · exact .pure fun _ hs => hs.pinned

variable {vm : InvocationInterface μ ε} {t : ThreadId} {env : ε}

/-- A global reference is given back by the thread that is attached. -/
theorem dropGlobalRef_returns (h : vm.Tracks t env R) (ref : Ref) :
    (Link.dropGlobalRef vm t ref).Returns (fun l => R.At L G l.machine) fun _ l =>
      R.At L (removed G ref) l.machine := by
  have hget : (Checked.getEnv vm t).run.Returns (fun l => R.At L G l.machine) fun r l =>
      r = .ok env ∧ R.At L G l.machine := by
    intro s hs
    refine ⟨_, _, getEnv_run_attached (h.getEnv _ hs.sound), rfl, ?_⟩
    exact h.getEnv_keeps L G _ hs
  refine hget.bind_value (Routine.Returns.bind ?_ fun _ => .pure fun _ => id)
  rw [Checked.deleteGlobalRef, Checked.enter, if_pos h.functions.deletesGlobal]
  exact fun s hs => ⟨_, _, rfl, h.functions.deleteGlobalRef ref L G _ hs⟩

end Calls

end References

end ManagedBridge.Jvm
