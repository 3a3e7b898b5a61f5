import ManagedBridge.Jvm.Process
import ManagedBridge.Proofs.NativeRecording
import ManagedBridge.Proofs.Reliability

/-!
# Calls around a pending exception

While an exception is pending, a thread may call the functions that deal with exceptions and those
that give references back, and no other. A checked call keeps to that: it ends with an exception
pending exactly if its error says so, and then nothing but cleanup follows. The rules here put this
together from single functions, each noted down with the state in which it is called.
-/

namespace ManagedBridge

/-- Errors, some of which say that an exception is pending. -/
class Raises (e : Type) where
  raised : e → Bool

export Raises (raised)

instance : Raises RuntimeError := ⟨fun e => e == .exceptionPending⟩

instance : Raises BridgeError :=
  ⟨fun
    | .pendingException _ => true
    | _ => false⟩

instance : Raises Jvm.CallError := ⟨fun e => e == .javaException⟩

/-- Whether the result says that an exception is pending. -/
def raisedIn {e α : Type} [Raises e] : Except e α → Bool
  | .ok _ => false
  | .error e => raised e

@[simp] theorem raised_toRuntime (e : Jvm.CallError) : raised e.toRuntime = raised e := by
  rcases e with _ | _ | _ | _ | status
  case failed => cases status <;> rfl
  all_goals rfl

@[simp] theorem raised_ofRuntime (op : String) (len : Nat) (e : RuntimeError) :
    raised (BridgeError.ofRuntime op len e) = raised e := by
  cases e <;> rfl

theorem raisedIn_eq_true_iff {α : Type} (r : Except BridgeError α) :
    raisedIn r = true ↔ ∃ op, r = .error (.pendingException op) := by
  rcases r with (_ | _ | _ | _ | op | _) | a
  case error.pendingException => exact ⟨fun _ => ⟨op, rfl⟩, fun _ => rfl⟩
  all_goals exact ⟨nofun, nofun⟩

namespace Jvm

variable {μ ε α β e : Type}

/-- A function of a machine with the state in which it was called. -/
abbrev Note (μ : Type) := μ × NativeCall

/-- A link to a machine whose calls are noted down. -/
abbrev NotedLink (μ : Type) := Link (μ × List (Note μ))

/-- A process on such a machine. -/
abbrev NotedProcess (μ : Type) := Process (μ × List (Note μ))

/-- The call was made with no exception pending, or it may be made at any time. -/
def Allowed (pending : μ → Bool) (note : Note μ) : Prop :=
  pending note.1 = true → note.2.handlesException = true ∨ note.2.deletesReference = true

/-- What a native interface has to keep to, as far as exceptions go: it tells whether one is
pending, giving a reference back makes no difference to that, and some functions never throw. -/
structure NativeInterface.Orderly (jni : NativeInterface μ) (pending : μ → Bool) : Prop where
  checks : jni.provides .exceptionCheck = true
  exceptionCheck : ∀ m, (jni.exceptionCheck m).1 = pending m
  exceptionCheck_keeps : ∀ m, pending (jni.exceptionCheck m).2 = pending m
  deleteLocalRef : ∀ ref m, pending (jni.deleteLocalRef ref m).2 = pending m
  deleteGlobalRef : ∀ ref m, pending (jni.deleteGlobalRef ref m).2 = pending m
  newGlobalRef : ∀ ref m, pending m = false → pending (jni.newGlobalRef ref m).2 = false
  getArrayLength : ∀ array m, pending m = false → pending (jni.getArrayLength array m).2 = false
  getJavaVm : ∀ m, pending m = false → pending (jni.getJavaVm m).2 = false

/-- Attaching and detaching a thread throws nothing, and its environments are orderly. -/
structure InvocationInterface.Orderly (vm : InvocationInterface μ ε) (t : ThreadId)
    (pending : μ → Bool) : Prop where
  getEnv : ∀ m, pending m = false → pending (vm.getEnv t m).2 = false
  getEnv_orderly : ∀ m env, (vm.getEnv t m).1.2 = some env → (vm.functions env).Orderly pending
  attach : ∀ m, pending m = false → pending (vm.attachCurrentThread t m).2 = false
  attach_orderly : ∀ m env, (vm.attachCurrentThread t m).1.2 = some env →
    (vm.functions env).Orderly pending
  detach : ∀ m, pending m = false → pending (vm.detachCurrentThread t m).2 = false

/-- All calls so far were allowed, those that are `known` are among them, and `thrown` tells whether
an exception is pending now. -/
structure Poised (pending : μ → Bool) (known : List (Note μ)) (thrown : Bool)
    (l : NotedLink μ) : Prop where
  pending_eq : pending l.machine.1 = thrown
  allowed : ∀ note ∈ l.machine.2, Allowed pending note
  known : ∀ note ∈ known, note ∈ l.machine.2

namespace Poised

variable {pending : μ → Bool} {known : List (Note μ)} {thrown : Bool} {note : Note μ}
  {l : NotedLink μ}

theorem of_eq (h : Poised pending known thrown l) {thrown' : Bool} (heq : thrown' = thrown) :
    Poised pending known thrown' l :=
  heq ▸ h

theorem cons (h : Poised pending known thrown l) (hnote : note ∈ l.machine.2) :
    Poised pending (note :: known) thrown l :=
  ⟨h.pending_eq, h.allowed, List.forall_mem_cons.mpr ⟨hnote, h.known⟩⟩

theorem head (h : Poised pending (note :: known) thrown l) : note ∈ l.machine.2 :=
  h.known note (.head _)

theorem tail (h : Poised pending (note :: known) thrown l) : Poised pending known thrown l :=
  ⟨h.pending_eq, h.allowed, fun n hn => h.known n (.tail _ hn)⟩

/-- A function that may be called is noted down, and after it an exception is pending or not. -/
theorem record (h : Poised pending known thrown l) (call : NativeCall) (f : StateM μ α)
    (hallowed : thrown = true → call.handlesException = true ∨ call.deletesReference = true) :
    Poised pending ((l.machine.1, call) :: known) (pending (f l.machine.1).2)
      { l with machine := (call.recorded Prod.mk f l.machine).2 } where
  pending_eq := rfl
  allowed := by
    intro note hnote
    rcases List.mem_append.mp hnote with hbefore | hlast
    · exact h.allowed note hbefore
    · obtain rfl := List.mem_singleton.mp hlast
      exact fun hpending => hallowed (h.pending_eq.symm.trans hpending)
  known := by
    refine List.forall_mem_cons.mpr ⟨List.mem_append_right _ (.head _), fun note hnote => ?_⟩
    exact List.mem_append_left _ (h.known note hnote)

end Poised

/-- From a state with no exception pending the call ends with one pending exactly if its result says
so. A proper result is what `Q` says, given the calls that were made. -/
def Settled [Raises e] (pending : μ → Bool) (known : List (Note μ)) (Q : α → List (Note μ) → Prop)
    (r : Except e α) (l : NotedLink μ) : Prop :=
  Poised pending known (raisedIn r) l ∧ ∀ a, r = .ok a → Q a l.machine.2

def Settles [Raises e] (pending : μ → Bool) (x : ExceptT e (Call (NotedLink μ)) α)
    (Q : α → List (Note μ) → Prop) : Prop :=
  ∀ known, Call.Returns (Poised pending known false) x.run (Settled pending known Q)

/-- With no exception pending the call throws nothing, and its result does not say so either. -/
def Silent [Raises e] (pending : μ → Bool) (x : ExceptT e (Call (NotedLink μ)) α)
    (Q : α → Prop) : Prop :=
  ∀ known, Call.Returns (Poised pending known false) x.run fun r l =>
    Poised pending known false l ∧ raisedIn r = false ∧ ∀ a, r = .ok a → Q a

/-- The call leaves no exception where none was pending. -/
def Quiet (pending : μ → Bool) (x : Call (NotedLink μ) α) : Prop :=
  ∀ known, Call.Returns (Poised pending known false) x fun _ => Poised pending known false

/-- The call leaves an exception pending, or none, as it was. -/
def Keeps (pending : μ → Bool) (x : Call (NotedLink μ) α) : Prop :=
  ∀ known thrown, Call.Returns (Poised pending known thrown) x
    fun _ => Poised pending known thrown

section Rules

variable [Raises e] {e' : Type} [Raises e'] {pending : μ → Bool} {known : List (Note μ)}
  {x : ExceptT e (Call (NotedLink μ)) α} {f : α → ExceptT e (Call (NotedLink μ)) β}
  {Q : α → List (Note μ) → Prop} {R : β → List (Note μ) → Prop}

theorem Settles.pure {a : α} (h : ∀ notes, Q a notes) :
    Settles pending (Pure.pure a : ExceptT e (Call (NotedLink μ)) α) Q :=
  fun _ => Routine.Returns.pure (a := Except.ok a) fun s hs =>
    ⟨hs, fun _ ha => Except.ok.inj ha ▸ h s.backend.machine.2⟩

theorem Settles.throw {error : e} (h : raised error = false) :
    Settles pending (throw error : ExceptT e (Call (NotedLink μ)) α) Q :=
  fun _ => Routine.Returns.pure (a := Except.error error) fun _ hs => ⟨hs.of_eq h, nofun⟩

theorem Settles.bind (hx : Settles pending x Q) (hf : ∀ a, Settles pending (f a) R) :
    Settles pending (x >>= f) R := by
  intro known
  refine (hx known).bind ?_
  rintro (error | a)
  · exact .pure fun _ hs => ⟨hs.1, nofun⟩
  · exact fun s hs => hf a known s hs.1

theorem Settles.mono {R : α → List (Note μ) → Prop} (hx : Settles pending x Q)
    (h : ∀ a notes, Q a notes → R a notes) : Settles pending x R :=
  fun known => (hx known).mono fun _ s hs => ⟨hs.1, fun a ha => h a s.backend.machine.2 (hs.2 a ha)⟩

theorem Settles.adapt {g : e → e'} (hx : Settles pending x Q)
    (hg : ∀ error, raised (g error) = raised error) : Settles pending (x.adapt g) Q := by
  intro known
  show Routine.Returns _ (Except.mapError g <$> x.run) _
  rw [map_eq_pure_bind]
  refine (hx known).bind ?_
  rintro (error | a)
  · exact .pure fun _ hs => ⟨hs.1.of_eq (hg error), nofun⟩
  · refine .pure fun s hs => ⟨hs.1, fun b hb => hs.2 b ?_⟩
    rw [Except.ok.inj hb]

theorem Silent.mono {P P' : α → Prop} (hx : Silent pending x P) (h : ∀ a, P a → P' a) :
    Silent pending x P' :=
  fun known => (hx known).mono fun _ _ hs => ⟨hs.1, hs.2.1, fun a ha => h a (hs.2.2 a ha)⟩

theorem Silent.settles {P : α → Prop} (hx : Silent pending x P) :
    Settles pending x fun _ _ => True :=
  fun known => (hx known).mono fun _ _ hs => ⟨hs.1.of_eq hs.2.1, fun _ _ => trivial⟩

theorem Silent.quiet {P : α → Prop} (hx : Silent pending x P) : Quiet pending x.run :=
  fun known => (hx known).mono fun _ _ hs => hs.1

theorem Silent.pure {P : α → Prop} {a : α} (h : P a) :
    Silent pending (Pure.pure a : ExceptT e (Call (NotedLink μ)) α) P :=
  fun _ => Routine.Returns.pure (a := Except.ok a) fun _ hs =>
    ⟨hs, rfl, fun _ ha => Except.ok.inj ha ▸ h⟩

theorem Silent.throw {P : α → Prop} {error : e} (h : raised error = false) :
    Silent pending (throw error : ExceptT e (Call (NotedLink μ)) α) P :=
  fun _ => Routine.Returns.pure (a := Except.error error) fun _ hs => ⟨hs, h, nofun⟩

theorem Silent.bind {P : α → Prop} {P' : β → Prop} (hx : Silent pending x P)
    (hf : ∀ a, P a → Silent pending (f a) P') : Silent pending (x >>= f) P' := by
  intro known
  refine (hx known).bind ?_
  rintro (error | a)
  · exact .pure fun _ hs => ⟨hs.1, hs.2.1, nofun⟩
  · exact fun s hs => hf a (hs.2.2 a rfl) known s hs.1

omit [Raises e] in
/-- A call whose outcome is looked at later. -/
theorem returns_lift_bind {σ : Type} {P : Site σ → Prop} {y : Call σ α} {M : α → Site σ → Prop}
    {g : α → ExceptT e (Call σ) β} {S : Except e β → Site σ → Prop}
    (hy : Routine.Returns P y M) (hg : ∀ a, Routine.Returns (M a) (g a).run S) :
    Routine.Returns P (ExceptT.lift y >>= g).run S := by
  have hlift : Routine.Returns P (ExceptT.lift y : ExceptT e (Call σ) α).run
      fun r s => ∃ a, r = .ok a ∧ M a s :=
    hy.bind fun a => .pure fun _ hs => ⟨a, rfl, hs⟩
  exact hlift.bind_exists hg

theorem Quiet.pure (a : α) : Quiet pending (Pure.pure a : Call (NotedLink μ) α) :=
  fun _ => .pure fun _ => id

theorem Quiet.bind {y : Call (NotedLink μ) α} {g : α → Call (NotedLink μ) β}
    (hy : Quiet pending y) (hg : ∀ a, Quiet pending (g a)) : Quiet pending (y >>= g) :=
  fun known => (hy known).bind fun a => hg a known

theorem Quiet.silent {y : Call (NotedLink μ) α} (hy : Quiet pending y) :
    Silent pending (ExceptT.lift y : ExceptT e (Call (NotedLink μ)) α) fun _ => True :=
  fun known => (hy known).bind fun _ => .pure fun _ hs => ⟨hs, rfl, fun _ _ => trivial⟩

end Rules

section Calls

variable {pending : μ → Bool} {known : List (Note μ)} {call : NativeCall} {f : StateM μ α}

theorem returns_call (call : NativeCall) (f : StateM μ α) (thrown : Bool)
    (hallowed : thrown = true → call.handlesException = true ∨ call.deletesReference = true) :
    (Checked.call (call.recorded Prod.mk f)).run.Returns (Poised pending known thrown) fun r l =>
      ∃ m, pending m = thrown ∧ r = .ok (f m).1 ∧
        Poised pending ((m, call) :: known) (pending (f m).2) l := by
  rintro s hs
  exact ⟨_, _, rfl, s.backend.machine.1, hs.pending_eq, rfl, hs.record call f hallowed⟩

/-- A function that throws nothing and is called with no exception pending. -/
theorem silent_call (call : NativeCall) (hf : ∀ m, pending m = false → pending (f m).2 = false) :
    Silent pending (Checked.call (call.recorded Prod.mk f)) fun a => ∃ m, a = (f m).1 := by
  refine fun known => (returns_call call f false nofun).mono ?_
  rintro r s ⟨m, hm, rfl, hs⟩
  rw [hf m hm] at hs
  exact ⟨hs.tail, rfl, fun a ha => ⟨m, (Except.ok.inj ha).symm⟩⟩

theorem silent_enter (jni : NativeInterface (μ × List (Note μ))) (entry : Entry)
    (hf : ∀ m, pending m = false → pending (f m).2 = false) :
    Silent pending (Checked.enter jni entry (call.recorded Prod.mk f))
      fun a => ∃ m, a = (f m).1 := by
  rw [Checked.enter]
  split
  · exact silent_call call hf
  · exact .throw rfl

theorem settles_enter (jni : NativeInterface (μ × List (Note μ))) (entry : Entry)
    (hf : ∀ m, pending m = false → pending (f m).2 = false) :
    Settles pending (Checked.enter jni entry (call.recorded Prod.mk f))
      fun a notes => ∃ m, (m, call) ∈ notes ∧ a = (f m).1 := by
  intro known
  rw [Checked.enter]
  split
  · refine (returns_call call f false nofun).mono ?_
    rintro r s ⟨m, hm, rfl, hs⟩
    rw [hf m hm] at hs
    exact ⟨hs.tail, fun b hb => ⟨m, hs.head, (Except.ok.inj hb).symm⟩⟩
  · exact .pure fun _ hs => ⟨hs, nofun⟩

variable {jni : NativeInterface μ}

/-- A reference may be given back at any time. -/
theorem keeps_deleteLocalRef (h : jni.Orderly pending) (ref : Ref) :
    Keeps pending (Checked.deleteLocalRef (jni.recorded Prod.mk) ref).run := by
  intro known thrown
  rw [Checked.deleteLocalRef, Checked.enter]
  split
  · refine (returns_call (.deleteLocalRef ref) _ thrown fun _ => .inr rfl).mono ?_
    rintro r s ⟨m, hm, -, hs⟩
    rw [h.deleteLocalRef, hm] at hs
    exact hs.tail
  · exact .pure fun _ => id

/-- The check tells whether an exception is pending, and changes nothing about that. -/
theorem exceptionCheck_returns (h : jni.Orderly pending) (thrown : Bool) :
    (Checked.exceptionCheck (jni.recorded Prod.mk)).run.Returns (Poised pending known thrown)
      fun r l => r = .ok thrown ∧ Poised pending known thrown l := by
  have hprovided : (jni.recorded Prod.mk).provides .exceptionCheck = true := h.checks
  rw [Checked.exceptionCheck, Checked.enter, if_pos hprovided]
  refine (returns_call .exceptionCheck _ thrown fun _ => .inl rfl).mono ?_
  rintro r s ⟨m, hm, rfl, hs⟩
  rw [h.exceptionCheck_keeps, hm] at hs
  exact ⟨by rw [h.exceptionCheck, hm], hs.tail⟩

/-- A function after which no exception may be pending: an exception is an error, and without one
the result is that of the function. -/
theorem orException_settles (h : jni.Orderly pending) (entry : Entry) :
    Settles pending
      (Checked.orException (jni.recorded Prod.mk) entry (call.recorded Prod.mk f))
      fun a notes => ∃ m, (m, call) ∈ notes ∧ a = (f m).1 := by
  intro known
  by_cases hprovided : (jni.recorded Prod.mk).provides entry = true
  · rw [Checked.orException, Checked.enter, if_pos hprovided]
    refine (returns_call call f false nofun).bind ?_
    rintro r s ⟨m, -, rfl, hs⟩
    refine (exceptionCheck_returns h (pending (f m).2)).bind_value ?_ s hs
    cases pending (f m).2 with
    | true => exact .pure fun _ hs => ⟨hs.tail, nofun⟩
    | false => exact .pure fun _ hs => ⟨hs.tail, fun b hb => ⟨m, hs.head, (Except.ok.inj hb).symm⟩⟩
  · rw [Checked.orException, Checked.enter, if_neg hprovided]
    exact .pure fun _ hs => ⟨hs, nofun⟩

theorem orNull_settles {f : StateM μ (Option α)} (h : jni.Orderly pending) (entry : Entry) :
    Settles pending (Checked.orNull (jni.recorded Prod.mk) entry (call.recorded Prod.mk f))
      fun _ _ => True := by
  refine (orException_settles h entry).bind ?_
  rintro (_ | a)
  · exact .throw rfl
  · exact .pure fun _ => trivial

theorem thenDelete_settles (h : jni.Orderly pending) (ref : Ref)
    {body : Checked (μ × List (Note μ)) α} (hbody : Settles pending body fun _ _ => True) :
    Settles pending (Checked.thenDelete (jni.recorded Prod.mk) ref body) fun _ _ => True := by
  intro known
  refine (hbody known).bind fun result => ?_
  rintro s ⟨hs, -⟩
  refine ((keeps_deleteLocalRef h ref known (raisedIn result)).bind fun _ => ?_) s hs
  exact .pure fun _ hs => ⟨hs, fun _ _ => trivial⟩

theorem orMethodNotFound_settles (name signature : String) (found : Option MethodId) :
    Settles pending
      (Checked.orMethodNotFound name signature found : Checked (μ × List (Note μ)) MethodId)
      fun _ _ => True := by
  rcases found with _ | method
  · exact .throw rfl
  · exact .pure fun _ => trivial

theorem getMethodId_settles (h : jni.Orderly pending) (cls : Ref) (name signature : String) :
    Settles pending (Checked.getMethodId (jni.recorded Prod.mk) cls name signature)
      fun _ _ => True :=
  (orException_settles h .getMethodId).bind fun _ => orMethodNotFound_settles name signature _

theorem callStaticMethod_settles (h : jni.Orderly pending) (className name signature : String)
    (args : List Ref) :
    Settles pending
      (Checked.callStaticMethod (jni.recorded Prod.mk) className name signature args)
      fun _ _ => True := by
  refine (orNull_settles h .findClass).bind fun cls => thenDelete_settles h cls ?_
  refine .bind ((orException_settles h .getStaticMethodId).bind fun found =>
    orMethodNotFound_settles name signature found) fun method => ?_
  exact (orException_settles h .callStaticObjectMethod).mono fun _ _ _ => trivial

theorem orStatus_silent (out : Int32 × Option α) :
    Silent pending (Checked.orStatus out : Checked (μ × List (Note μ)) α)
      fun a => out.2 = some a := by
  obtain ⟨code, a⟩ := out
  unfold Checked.orStatus
  dsimp only
  rcases Status.ofCode? code with _ | status
  · rcases a with _ | a
    · exact .throw rfl
    · exact .pure rfl
  · exact .throw rfl

theorem newGlobalRef_silent (h : jni.Orderly pending) (ref : Ref) :
    Silent pending (Checked.newGlobalRef (jni.recorded Prod.mk) ref) fun _ => True := by
  refine (silent_enter (jni.recorded Prod.mk) .getJavaVm h.getJavaVm).bind fun out _ => ?_
  refine (orStatus_silent out).bind fun _ _ => ?_
  exact (silent_enter _ .newGlobalRef (h.newGlobalRef ref)).mono fun _ _ => trivial

end Calls

end Jvm

end ManagedBridge
