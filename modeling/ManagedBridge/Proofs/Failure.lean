import ManagedBridge.Proofs.ExceptionRules
import ManagedBridge.Proofs.Success

/-!
# Calls that fail

A function of a machine fails if it leaves an exception pending, or comes back with nothing where
something was asked for. Of a machine whose calls are noted down the notes tell which functions have
failed: each has the state in which the function was called, which decides what it did. A checked
call is refused only if a function has failed in it.
-/

namespace ManagedBridge.Jvm

variable {μ ε χ ω α β e : Type}

/-- Whether a function that can fail did so, if `pending` tells whether an exception is pending. A
method may come back with a null reference for its result. -/
def NativeInterface.fails (jni : NativeInterface μ) (pending : μ → Bool) : Note μ → Bool
  | (m, .findClass name) => lacks (jni.findClass name m)
  | (m, .getMethodId cls name signature) => lacks (jni.getMethodId cls name signature m)
  | (m, .getStaticMethodId cls name signature) => lacks (jni.getStaticMethodId cls name signature m)
  | (m, .newStringUtf text) => lacks (jni.newStringUtf text m)
  | (m, .callStaticObjectMethod cls method args) =>
    pending (jni.callStaticObjectMethod cls method args m).2
  | (m, .callObjectMethod object method args) =>
    pending (jni.callObjectMethod object method args m).2
  | (m, .newObject cls constructor args) => lacks (jni.newObject cls constructor args m)
  | (m, .newByteArray len) => lacks (jni.newByteArray len m)
  | (m, .getByteArrayRegion array start len) => pending (jni.getByteArrayRegion array start len m).2
  | (m, .setByteArrayRegion array start len bytes) =>
    pending (jni.setByteArrayRegion array start len bytes m).2
  | (m, .newGlobalRef ref) => (jni.newGlobalRef ref m).1.isNone
  | (m, .getStringUtfChars string) => lacks (jni.getStringUtfChars string m)
  | (m, .getJavaVm) => (jni.getJavaVm m).1.1 ≠ 0
  | _ => false
where
  lacks {α : Type} (out : Option α × μ) : Bool := out.1.isNone || pending out.2

/-- Whether a function fails that a thread calls. It is called through the environment that the
thread has. -/
def InvocationInterface.fails (vm : InvocationInterface μ ε) (R : Reading μ ε χ) (t : ThreadId) :
    Note μ → Bool
  | (m, .attachCurrentThread t) => (vm.attachCurrentThread t m).1.1 ≠ 0
  | note => (R.environment note.1 t).any fun env =>
    (vm.functions env).fails (R.pending · env) note

/-- Some function has failed among those that were noted down. -/
def Failed (vm : InvocationInterface μ ε) (R : Reading μ ε χ) (t : ThreadId) (l : NotedLink μ) :
    Prop :=
  ∃ note ∈ l.machine.2, vm.fails R t note = true

/-- A machine with something beside its state is read as the machine is. -/
def Reading.beside (R : Reading μ ε χ) (ω : Type) : Reading (μ × ω) ε χ where
  callable m := R.callable m.1
  environment m := R.environment m.1
  pending m := R.pending m.1
  referent m := R.referent m.1
  global m := R.global m.1
  method m := R.method m.1

section Beside

variable {R : Reading μ ε χ} {C : Charsets χ} {stringClass : String} {env : ε}
  {lost : Ref → Referent χ → Prop} {f : StateM μ α} {post : μ → α → μ → Prop}

theorem Reading.pinned_beside {m : μ × ω} {ref : Ref} {o : Referent χ} :
    (R.beside ω).Pinned m ref o ↔ R.Pinned m.1 ref o :=
  ⟨fun h => ⟨h.global, h.referent⟩, fun h => ⟨h.global, h.referent⟩⟩

theorem Reading.Keeps.beside {m m' : μ × ω} (h : R.Keeps env lost m.1 m'.1) :
    (R.beside ω).Keeps env lost m m' where
  callable := h.callable
  environment := h.environment
  referent := h.referent
  pinned hpinned hlost := pinned_beside.mpr (h.pinned (pinned_beside.mp hpinned) hlost)
  method := h.method

theorem Reading.Throws.recorded (h : R.Throws env lost f post) (note : μ → NativeCall → ω)
    (call : NativeCall) :
    (R.beside (List ω)).Throws env lost (call.recorded note f) fun m a m' => post m.1 a m'.1 :=
  fun m hm => ⟨(h m.1 hm).1.beside, (h m.1 hm).2⟩

theorem Reading.Silent.recorded (h : R.Silent env lost f post) (note : μ → NativeCall → ω)
    (call : NativeCall) :
    (R.beside (List ω)).Silent env lost (call.recorded note f) fun m a m' => post m.1 a m'.1 :=
  fun m hm => ⟨(h m.1 hm).1.beside, (h m.1 hm).2⟩

/-- What a machine does is done when it is noted down. -/
theorem NativeInterface.Faithful.recorded {jni : NativeInterface μ}
    (h : jni.Faithful R C stringClass env) (note : μ → NativeCall → ω) :
    (jni.recorded note).Faithful (R.beside (List ω)) C stringClass env where
  provides := h.provides
  exceptionCheck := h.exceptionCheck.recorded _ _
  findClass name := (h.findClass name).recorded _ _
  getMethodId cls name signature := (h.getMethodId cls name signature).recorded _ _
  getStaticMethodId cls name signature := (h.getStaticMethodId cls name signature).recorded _ _
  newStringUtf text := (h.newStringUtf text).recorded _ _
  callStaticObjectMethod cls method args :=
    (h.callStaticObjectMethod cls method args).recorded _ _
  callObjectMethod object method args := (h.callObjectMethod object method args).recorded _ _
  newObject cls constructor args := (h.newObject cls constructor args).recorded _ _
  newByteArray len := (h.newByteArray len).recorded _ _
  getArrayLength array := (h.getArrayLength array).recorded _ _
  getByteArrayRegion array start len := (h.getByteArrayRegion array start len).recorded _ _
  setByteArrayRegion array start len bytes :=
    (h.setByteArrayRegion array start len bytes).recorded _ _
  newGlobalRef ref m hm :=
    have ⟨hkeeps, hpost⟩ := h.newGlobalRef ref m.1 hm
    ⟨hkeeps.beside, fun o ho hcopy => (hpost o ho hcopy).imp_left Reading.pinned_beside.mpr⟩
  deleteLocalRef ref := (h.deleteLocalRef ref).recorded _ _
  getJavaVm := h.getJavaVm.recorded _ _

end Beside

/-- From `s` the call ends with an error and leaves `t`. -/
def Refused (x : ExceptT e (Call (Link μ)) α) (s t : Site (Link μ)) : Prop :=
  ∃ error, x.run.run s = (.ok (.error error), t)

section Rules

variable {x : ExceptT e (Call (Link μ)) α} {f : α → ExceptT e (Call (Link μ)) β}
  {s t : Site (Link μ)}

/-- What is put together is refused at its first part, or at what follows it. -/
theorem Refused.of_bind (h : Refused (x >>= f) s t) :
    Refused x s t ∨ ∃ a u, Succeeds x s a u ∧ Refused (f a) u t := by
  obtain ⟨error, h⟩ := h
  change Routine.run (x.run >>= ExceptT.bindCont f) s = _ at h
  rw [Routine.run_bind] at h
  rcases hx : x.run.run s with ⟨panic | failure | a, u⟩ <;> rw [hx] at h
  · cases h
  · cases h
    exact .inl ⟨_, hx⟩
  · exact .inr ⟨a, u, hx, _, h⟩

theorem not_refused_pure {a : α} : ¬ Refused (pure a : ExceptT e (Call (Link μ)) α) s t := nofun

theorem Refused.of_ofChecked {x : Checked μ α} (h : Refused (Mapped.ofChecked x) s t) :
    Refused x s t := by
  obtain ⟨error, h⟩ := h
  change Routine.run (Except.mapError CallError.toRuntime <$> x.run) s = _ at h
  rw [Routine.run_map] at h
  rcases hx : x.run.run s with ⟨panic | failure | a, u⟩ <;> rw [hx] at h <;> cases h
  exact ⟨_, hx⟩

theorem not_refused_enter {jni : NativeInterface μ} {entry : Entry} {f : StateM μ α}
    (provided : jni.provides entry = true) : ¬ Refused (Checked.enter jni entry f) s t := by
  rw [Checked.enter, if_pos provided]
  rintro ⟨error, h⟩
  cases h

/-- A call that is not refused succeeds, if it ends at all. -/
theorem Ends.succeeds_or_refused (h : Ends x) (s : Site (Link μ)) :
    ∃ r t, x.run.run s = (.ok r, t) ∧ ((∃ a, r = .ok a ∧ Succeeds x s a t) ∨
      (∃ error, r = .error error) ∧ Refused x s t) := by
  obtain ⟨r, t, hrun, -⟩ := h s trivial
  refine ⟨r, t, hrun, ?_⟩
  cases r with
  | ok a => exact .inl ⟨a, rfl, hrun⟩
  | error error => exact .inr ⟨⟨error, rfl⟩, error, hrun⟩

end Rules

section Noted

variable {R : Reading μ ε χ} {C : Charsets χ} {stringClass : String} {env : ε}
  {jni : NativeInterface μ} {lost : Ref → Referent χ → Prop} {s t : Site (NotedLink μ)}
  {entry : Entry} {call : NativeCall}

/-- A function after which an exception is an error has thrown it, and is noted down. -/
theorem Refused.of_orException (call : NativeCall) (faithful : jni.Faithful R C stringClass env)
    {f : StateM μ α} {post : μ → α → μ → Prop} (hf : R.Throws env lost f post)
    (hs : R.callable s.backend.machine.1 env)
    (h : Refused (Checked.orException (jni.recorded Prod.mk) entry (call.recorded Prod.mk f)) s t) :
    R.pending (f s.backend.machine.1).2 env = true ∧
      (s.backend.machine.1, call) ∈ t.backend.machine.2 := by
  rcases h.of_bind with h | ⟨a, u, hcall, h⟩
  · exact absurd h (not_refused_enter (faithful.provides entry))
  obtain ⟨rfl, rfl⟩ := hcall.of_enter
  rcases h.of_bind with h | ⟨pending, v, hcheck, h⟩
  · exact absurd h (not_refused_enter (faithful.provides .exceptionCheck))
  obtain ⟨rfl, rfl⟩ := hcheck.of_enter
  obtain ⟨-, -, hpending⟩ := faithful.exceptionCheck _ (hf _ hs).1.callable
  have hnoted : (s.backend.machine.1, call) ∈
      ((s.backend.machine.2 ++ [(s.backend.machine.1, call)]) ++
        [((f s.backend.machine.1).2, NativeCall.exceptionCheck)]) := by simp
  cases hthrown : (jni.exceptionCheck (f s.backend.machine.1).2).1
  case true =>
    rw [hthrown] at hpending
    have hthrown' : (((jni.recorded Prod.mk).exceptionCheck
        (Link.after (call.recorded Prod.mk f) s).backend.machine).1 : Bool) = true := hthrown
    rw [hthrown'] at h
    obtain ⟨error, h⟩ := h
    cases h
    exact ⟨hpending.symm, hnoted⟩
  case false =>
    have hthrown' : (((jni.recorded Prod.mk).exceptionCheck
        (Link.after (call.recorded Prod.mk f) s).backend.machine).1 : Bool) = false := hthrown
    rw [hthrown'] at h
    obtain ⟨error, h⟩ := h
    cases h

/-- If it succeeds, it is noted down as well. -/
theorem Succeeds.noted_orException {f : StateM μ α} {a : α}
    (h : Succeeds (Checked.orException (jni.recorded Prod.mk) entry (call.recorded Prod.mk f)) s a
      t) :
    a = (f s.backend.machine.1).1 ∧ (s.backend.machine.1, call) ∈ t.backend.machine.2 := by
  obtain ⟨a', u, hcall, h⟩ := h.of_bind
  obtain ⟨rfl, rfl⟩ := hcall.of_enter
  obtain ⟨pending, v, hcheck, h⟩ := h.of_bind
  obtain ⟨rfl, rfl⟩ := hcheck.of_enter
  dsimp only at h
  split at h
  · exact absurd h not_succeeds_throw
  · obtain ⟨rfl, rfl⟩ := h.of_pure
    refine ⟨rfl, ?_⟩
    show _ ∈ (s.backend.machine.2 ++ [(s.backend.machine.1, call)]) ++ [_]
    simp

/-- A function whose null result is an error. -/
theorem Refused.of_orNull (call : NativeCall) (faithful : jni.Faithful R C stringClass env)
    {f : StateM μ (Option α)} {post : μ → Option α → μ → Prop} (hf : R.Throws env lost f post)
    (hs : R.callable s.backend.machine.1 env)
    (h : Refused (Checked.orNull (jni.recorded Prod.mk) entry (call.recorded Prod.mk f)) s t) :
    NativeInterface.fails.lacks (R.pending · env) (f s.backend.machine.1) = true ∧
      (s.backend.machine.1, call) ∈ t.backend.machine.2 := by
  rcases h.of_bind with h | ⟨a?, u, hcall, h⟩
  · obtain ⟨hthrown, hnoted⟩ := h.of_orException call faithful hf hs
    exact ⟨by simp [NativeInterface.fails.lacks, hthrown], hnoted⟩
  obtain ⟨rfl, hnoted⟩ := hcall.noted_orException
  cases hnull : (f s.backend.machine.1).1 with
  | some a =>
    rw [hnull] at h
    exact absurd h not_refused_pure
  | none =>
    rw [hnull] at h
    obtain ⟨error, h⟩ := h
    cases h
    exact ⟨by simp [NativeInterface.fails.lacks, hnull], hnoted⟩

end Noted

theorem not_failed_of_all {vm : InvocationInterface μ ε} {R : Reading μ ε χ} {t : ThreadId}
    {l : NotedLink μ} (h : l.machine.2.all (!vm.fails R t ·) = true) : ¬ Failed vm R t l := by
  rintro ⟨note, hnoted, hfails⟩
  simpa [hfails] using List.all_eq_true.mp h note hnoted

/-- What has failed stays failed, since notes are only added. -/
theorem Failed.after {vm : InvocationInterface μ ε} {R : Reading μ ε χ} {t : ThreadId}
    {s : Site (NotedLink μ)} (h : Failed vm R t s.backend) (call : NativeCall) (f : StateM μ α) :
    Failed vm R t (Link.after (call.recorded Prod.mk f) s).backend := by
  obtain ⟨note, hnoted, hfails⟩ := h
  exact ⟨note, List.mem_append_left _ hnoted, hfails⟩

/-- A function of the native interface that fails is one that fails for its thread. -/
theorem Failed.of_native {vm : InvocationInterface μ ε} {R : Reading μ ε χ} {t : ThreadId} {env : ε}
    {m : μ} {call : NativeCall} {l : NotedLink μ} (hcurrent : R.environment m t = some env)
    (hnoted : (m, call) ∈ l.machine.2)
    (hfails : (vm.functions env).fails (R.pending · env) (m, call) = true) : Failed vm R t l := by
  refine ⟨_, hnoted, ?_⟩
  have hany : (R.environment m t).any (fun env =>
      (vm.functions env).fails (R.pending · env) (m, call)) = true := by
    rwa [hcurrent, Option.any_some]
  cases call
  case attachCurrentThread => cases hfails
  all_goals exact hany

end ManagedBridge.Jvm
