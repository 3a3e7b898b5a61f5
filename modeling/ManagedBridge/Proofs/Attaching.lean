import Mathlib.Tactic.ByContra
import ManagedBridge.Jvm.CInterface
import ManagedBridge.Proofs.Presence
import ManagedBridge.Proofs.Scope
import ManagedBridge.Proofs.Simulation

/-!
# Attaching a thread for C code

What a scope of C code does on a thread is decided by whether the thread is attached and by whether
the machine refuses to attach it. An attached thread is made use of; a detached one is attached, and
the flag in the structure says so; where the machine refuses, nothing changes. To end a scope is to
detach the thread if the flag is set, and otherwise nothing.
-/

namespace ManagedBridge.Jvm

open CInterface Process

variable {μ ε : Type}

/-- The functions by which a thread attaches do what they are for. `environment` is what the thread
has on a machine, and of machines it is said that they are `Sound`. -/
structure InvocationInterface.Attaches (vm : InvocationInterface μ ε) (environment : μ → Option ε)
    (Sound : μ → Prop) (t : ThreadId) : Prop where
  /-- A thread that is attached is given its environment. -/
  attached : ∀ m env, Sound m → environment m = some env → (vm.getEnv t m).1 = (0, some env)
  detached : ∀ m, Sound m → environment m = none → (vm.getEnv t m).1.1 ≠ 0
  getEnv : ∀ m, Sound m →
    Sound (vm.getEnv t m).2 ∧ environment (vm.getEnv t m).2 = environment m
  /-- An attachment that is not refused gives the thread an environment. -/
  accepted : ∀ m, Sound m → environment m = none → (vm.attachCurrentThread t m).1.1 = 0 →
    ∃ env, (vm.attachCurrentThread t m).1.2 = some env ∧
      environment (vm.attachCurrentThread t m).2 = some env
  /-- An attachment that is refused leaves the thread detached. -/
  refused : ∀ m, Sound m → environment m = none → (vm.attachCurrentThread t m).1.1 ≠ 0 →
    environment (vm.attachCurrentThread t m).2 = none
  attach_sound : ∀ m, Sound m → environment m = none → Sound (vm.attachCurrentThread t m).2
  detachCurrentThread : ∀ m, Sound m →
    Sound (vm.detachCurrentThread t m).2 ∧ environment (vm.detachCurrentThread t m).2 = none

/-- A detached thread that asks to be attached, as a scope does after it has twice found that the
thread has no environment, is refused. -/
def InvocationInterface.Refuses (vm : InvocationInterface μ ε) (environment : μ → Option ε)
    (t : ThreadId) (m : μ) : Prop :=
  environment m = none ∧
    (vm.attachCurrentThread t (vm.getEnv t (vm.getEnv t m).2).2).1.1 ≠ 0

/-- How a thread stands in a process with a started bridge: the environment that it has, and the
threads for whose attachment the process answers. -/
structure ThreadStatus (environment : μ → Option ε) (Sound : μ → Prop) (rt : Runtime)
    (w : World (Process μ)) (env : Option ε) (guarded : List ThreadId) : Prop where
  runtime : w.backend.bridge.runtime = .ok rt
  sound : Sound w.backend.link.machine
  environment : environment w.backend.link.machine = env
  guarded : w.backend.link.guarded = guarded

section Operations

variable {vm : InvocationInterface μ ε} {environment : μ → Option ε} {Sound : μ → Prop}
  {t : ThreadId} {rt : Runtime} {w v : World (Process μ)} {env : ε} {guarded : List ThreadId}

/-- The link of a process, with the log. -/
def linkSite (w : World (Process μ)) : Site (Link μ) := ⟨w.backend.link, w.log⟩

/-- The process after its link has changed. -/
def withLink (w : World (Process μ)) (s : Site (Link μ)) : Site (Process μ) :=
  ⟨{ w.backend with link := s.backend }, s.log⟩

/-- A call of the link changes nothing else in the process. -/
theorem run_linkPlace {α : Type} {call : Call (Link μ) α} {result : α} {s : Site (Link μ)}
    (h : call.run (linkSite w) = (.ok result, s)) :
    (Call.zoom linkPlace call).run w.toSite = (.ok result, withLink w s) := by
  have hzoom := Call.run_zoom lawful_linkPlace call w.toSite
  have hpart : linkPlace.site.get w.toSite = linkSite w := rfl
  rw [hzoom, hpart, h]
  rfl

theorem currentContext_run_attached (h : vm.Attaches environment Sound t)
    (hw : ThreadStatus environment Sound rt w (some env) guarded) :
    (rt.operations vm t).currentContext.run (linkSite w) =
      (.ok (some ⟨env, rt.config⟩), Link.after (vm.getEnv t) (linkSite w)) := by
  have hout : (vm.getEnv t (linkSite w).backend.machine).1 = (0, some env) :=
    h.attached _ env hw.sound hw.environment
  have hget := getEnv_run_attached hout
  exact Routine.run_bind_ok hget _

theorem currentContext_run_detached (h : vm.Attaches environment Sound t)
    (hw : ThreadStatus environment Sound rt w none guarded) :
    (rt.operations vm t).currentContext.run (linkSite w) =
      (.ok none, Link.after (vm.getEnv t) (linkSite w)) := by
  have hcode : (vm.getEnv t (linkSite w).backend.machine).1.1 ≠ 0 :=
    h.detached _ hw.sound hw.environment
  obtain ⟨e, hget⟩ := getEnv_run_detached hcode
  exact Routine.run_bind_ok hget _

/-- A detached thread is given an environment if the machine does not refuse, and the process
answers for the attachment. -/
theorem attachCurrentThread_run_accepted (h : vm.Attaches environment Sound t)
    (hw : ThreadStatus environment Sound rt w none guarded) (hfree : t ∉ guarded)
    (haccepts : (vm.attachCurrentThread t (vm.getEnv t w.backend.link.machine).2).1.1 = 0) :
    ∃ env s, (rt.operations vm t).attachCurrentThread.run (linkSite w) =
        (.ok (.ok ⟨env, rt.config⟩), s) ∧
      ThreadStatus environment Sound rt ⟨withLink w s, w.events⟩ (some env) (t :: guarded) := by
  have hcode : (vm.getEnv t (linkSite w).backend.machine).1.1 ≠ 0 :=
    h.detached _ hw.sound hw.environment
  obtain ⟨hsound, hnone⟩ := h.getEnv _ hw.sound
  rw [hw.environment] at hnone
  obtain ⟨env, henv, hattached⟩ := h.accepted _ hsound hnone haccepts
  have hfree' : t ∉ w.backend.link.guarded := by
    rw [hw.guarded]
    exact hfree
  have hguarded := attachGuarded_run (s := Link.after (vm.getEnv t) (linkSite w)) hfree'
    (Prod.ext haccepts henv)
  have hattach : Succeeds (Link.attach vm t) (linkSite w) env _ :=
    (attach_run hcode).trans hguarded
  refine ⟨env, _, hattach.ofChecked.run_bind _, hw.runtime, ?_, hattached, ?_⟩
  · exact h.attach_sound _ hsound hnone
  · exact congrArg (t :: ·) hw.guarded

/-- A detached thread stays detached if the machine refuses, though it is detached once more. -/
theorem attachCurrentThread_run_refused (h : vm.Attaches environment Sound t)
    (hw : ThreadStatus environment Sound rt w none guarded)
    (hrefuses : (vm.attachCurrentThread t (vm.getEnv t w.backend.link.machine).2).1.1 ≠ 0) :
    ∃ e s, (rt.operations vm t).attachCurrentThread.run (linkSite w) = (.ok (.error e), s) ∧
      ThreadStatus environment Sound rt ⟨withLink w s, w.events⟩ none guarded := by
  have hcode : (vm.getEnv t (linkSite w).backend.machine).1.1 ≠ 0 :=
    h.detached _ hw.sound hw.environment
  obtain ⟨hsound, hnone⟩ := h.getEnv _ hw.sound
  rw [hw.environment] at hnone
  obtain ⟨e, hguarded⟩ :=
    attachGuarded_run_refused (s := Link.after (vm.getEnv t) (linkSite w)) hrefuses
  have hattach := run_ofChecked_error ((attach_run hcode).trans hguarded)
  have hsound' := h.attach_sound _ hsound hnone
  obtain ⟨hsound'', hnone'⟩ := h.detachCurrentThread _ hsound'
  exact ⟨_, _, Routine.run_bind_ok hattach _, hw.runtime, hsound'', hnone', hw.guarded⟩

theorem attachThread_run_entered (hw : w.backend.bridge.runtime = .ok rt) {c : Context ε}
    {attachment : Attachment}
    (henter : (Attachment.enter (runtime vm t rt)).run w = (.ok (.ok (c, attachment)), v))
    (scope : Scope ε) :
    (attachThread vm t (some scope)).run w =
      (.ok (successCode, some ⟨some c.env, if attachment.toRaw then 1 else 0⟩), v) := by
  have hread : ((Call.read bridgePlace).inWorld : Act (Process μ) _).run w =
      (.ok w.backend.bridge, w) := rfl
  rw [attachThread, Option.isNone_some]
  refine (Routine.run_bind_ok hread _).trans ?_
  simp only [hw]
  exact Routine.run_bind_ok henter _

theorem attachThread_run_refused (hw : w.backend.bridge.runtime = .ok rt) {e : BridgeError}
    (henter : (Attachment.enter (runtime vm t rt)).run w = (.ok (.error e), v))
    (scope : Scope ε) :
    (attachThread vm t (some scope)).run w = (.ok (failureCode, some {}), v) := by
  have hread : ((Call.read bridgePlace).inWorld : Act (Process μ) _).run w =
      (.ok w.backend.bridge, w) := rfl
  rw [attachThread, Option.isNone_some]
  refine (Routine.run_bind_ok hread _).trans ?_
  simp only [hw]
  exact Routine.run_bind_ok henter _

/-- To ask for the environment changes nothing for the thread. -/
theorem ThreadStatus.asked (h : vm.Attaches environment Sound t) {present : Option ε}
    (hw : ThreadStatus environment Sound rt w present guarded) :
    ThreadStatus environment Sound rt
      ⟨withLink w (Link.after (vm.getEnv t) (linkSite w)), w.events⟩ present guarded := by
  obtain ⟨hsound, hsame⟩ := h.getEnv _ hw.sound
  exact ⟨hw.runtime, hsound, hsame.trans hw.environment, hw.guarded⟩

/-- A thread that is attached already is given its environment, and nothing to undo. -/
theorem attachThread_reuse (h : vm.Attaches environment Sound t)
    (hw : ThreadStatus environment Sound rt w (some env) guarded) (scope : Scope ε) :
    ∃ v, (attachThread vm t (some scope)).run w = (.ok (successCode, some ⟨some env, 0⟩), v) ∧
      ThreadStatus environment Sound rt v (some env) guarded := by
  have hcontext := run_linkPlace (currentContext_run_attached h hw)
  have henter : (Attachment.enter (runtime vm t rt)).run w = _ :=
    Attachment.run_enter_reuse hcontext
  have hasked := hw.asked h
  exact ⟨_, attachThread_run_entered hw.runtime henter scope,
    hasked.runtime, hasked.sound, hasked.environment, hasked.guarded⟩

/-- A detached thread is attached for the scope, which has to undo it. -/
theorem attachThread_accepted (h : vm.Attaches environment Sound t)
    (hw : ThreadStatus environment Sound rt w none guarded) (hfree : t ∉ guarded)
    (haccepts : ¬ vm.Refuses environment t w.backend.link.machine) (scope : Scope ε) :
    ∃ env v, (attachThread vm t (some scope)).run w =
        (.ok (successCode, some ⟨some env, 1⟩), v) ∧
      ThreadStatus environment Sound rt v (some env) (t :: guarded) := by
  have hcontext := run_linkPlace (currentContext_run_detached h hw)
  have hasked := hw.asked h
  have hcode : (vm.attachCurrentThread t (vm.getEnv t
      (vm.getEnv t w.backend.link.machine).2).2).1.1 = 0 := by
    by_contra hrefused
    exact haccepts ⟨hw.environment, hrefused⟩
  obtain ⟨env, s, hattach, hv⟩ := attachCurrentThread_run_accepted h hasked hfree hcode
  have henter : (Attachment.enter (runtime vm t rt)).run w = _ :=
    Attachment.run_enter_attach hcontext (run_linkPlace hattach)
  exact ⟨env, _, attachThread_run_entered hw.runtime henter scope,
    hv.runtime, hv.sound, hv.environment, hv.guarded⟩

/-- An attachment that the machine refuses fails, leaves the structure empty and changes nothing for
the thread. -/
theorem attachThread_refused (h : vm.Attaches environment Sound t)
    (hw : ThreadStatus environment Sound rt w none guarded)
    (hrefuses : vm.Refuses environment t w.backend.link.machine) (scope : Scope ε) :
    ∃ v, (attachThread vm t (some scope)).run w = (.ok (failureCode, some {}), v) ∧
      ThreadStatus environment Sound rt v none guarded := by
  have hcontext := run_linkPlace (currentContext_run_detached h hw)
  have hasked := hw.asked h
  obtain ⟨e, s, hattach, hv⟩ := attachCurrentThread_run_refused h hasked hrefuses.2
  have henter : (Attachment.enter (runtime vm t rt)).run w = _ :=
    Attachment.run_enter_refused hcontext (run_linkPlace hattach)
  exact ⟨_, attachThread_run_refused hw.runtime henter scope,
    hv.runtime, hv.sound, hv.environment, hv.guarded⟩

/-- Without a flag there is nothing to undo. -/
theorem detachThread_unflagged {scope : Scope ε} (hflag : scope.requireRelease = 0)
    (w : World (Process μ)) :
    (detachThread vm t (some scope)).run w = (.ok (some {}), w) := by
  simp [detachThread, hflag]

theorem detachThread_run_exited (hw : w.backend.bridge.runtime = .ok rt) {scope : Scope ε}
    (hflag : scope.requireRelease ≠ 0)
    (hexit : (Attachment.exit (runtime vm t rt) (.ofRaw true)).run w = (.ok (), v)) :
    (detachThread vm t (some scope)).run w = (.ok (some {}), v) := by
  have hread : ((Call.read bridgePlace).inWorld : Act (Process μ) _).run w =
      (.ok w.backend.bridge, w) := rfl
  simp only [detachThread, if_pos hflag]
  refine (Routine.run_bind_ok hread _).trans ?_
  simp only [hw]
  exact Routine.run_bind_ok hexit _

/-- A flag detaches the thread, for which the process answers no longer. -/
theorem detachThread_flagged (h : vm.Attaches environment Sound t) {scope : Scope ε}
    (hflag : scope.requireRelease = 1) {present : Option ε}
    (hw : ThreadStatus environment Sound rt w present (t :: guarded)) :
    ∃ v, (detachThread vm t (some scope)).run w = (.ok (some {}), v) ∧
      ThreadStatus environment Sound rt v none guarded := by
  obtain ⟨hsound, hnone⟩ := h.detachCurrentThread _ hw.sound
  have hrelease : (Link.release vm t).run (linkSite w) =
      (.ok (), ⟨⟨(vm.detachCurrentThread t w.backend.link.machine).2, guarded⟩, w.log⟩) := by
    have hmem : t ∈ (linkSite w).backend.guarded := by simp [linkSite, hw.guarded]
    have herase : (linkSite w).backend.guarded.erase t = guarded := by simp [linkSite, hw.guarded]
    rw [release_run, if_pos hmem, herase]
    rfl
  have hexit : (Attachment.exit (runtime vm t rt) ⟨true⟩).run w = _ :=
    Attachment.run_exit_created (run_linkPlace hrelease)
  have hne : scope.requireRelease ≠ 0 := by
    rw [hflag]
    decide
  exact ⟨_, detachThread_run_exited hw.runtime hne hexit, hw.runtime, hsound, hnone, rfl⟩

end Operations

namespace Machine

variable {m : Machine} {t : ThreadId}

/-- The environment that a thread has on the machine. -/
def environmentOf (t : ThreadId) (m : Machine) : Option ThreadId :=
  if m.isAttached t then some t else none

/-- The only faults that are armed make the machine refuse to attach a thread. -/
def OnlyRefuses (m : Machine) : Prop :=
  ∀ shot ∈ m.faults, shot.target = "AttachCurrentThread" ∧ shot.effect.code.toInt32 ≠ 0

/-- What is armed after a call was armed before it, but for the calls that it lets pass, and so was
what the call used up. -/
theorem take_effect (target : String) {P : String → Fault → Prop}
    {shots : List (OneShot String Fault)} (h : ∀ shot ∈ shots, P shot.target shot.effect) :
    (∀ shot ∈ (OneShot.take target shots).2, P shot.target shot.effect) ∧
      ∀ fault ∈ (OneShot.take target shots).1, P target fault := by
  induction shots with
  | nil => simp [OneShot.take]
  | cons shot rest ih =>
    obtain ⟨hleft, hstruck⟩ := ih fun other hother => h other (by simp [hother])
    have hshot := h shot (by simp)
    by_cases htarget : shot.target = target
    · obtain ⟨shotTarget, skip, effect⟩ := shot
      cases skip with
      | zero => simp_all [OneShot.take]
      | succ skip => simp_all [OneShot.take]
    · rw [OneShot.take_cons_of_ne htarget]
      simp_all

/-- A function that no fault is used up by does what it usually does. -/
theorem faulty_spared {α : Type} {name : String} {faults : List (OneShot String Fault)}
    (h : OneShot.take name m.faults = (none, faults)) (result : Int64 → α)
    (usual : StateM Machine α) :
    faulty t name result usual m = usual { m with called := name :: m.called, faults } := by
  have hstrike : (strike t name).run { m with called := name :: m.called } =
      pure (none, { m with called := name :: m.called, faults }) := by
    simp [strike, h]
  show (faulty t name result usual).run m = _
  simp [faulty, enter, hstrike]
  rfl

/-- The machine after what a fault throws, if it throws. -/
def struck (t : ThreadId) (fault : Fault) (m : Machine) : Machine :=
  match fault.throws with
  | some e => m.throwOn t e
  | none => m

/-- A thread that is not attached is thrown nothing. -/
theorem struck_detached (hdetached : m.isAttached t = false) (fault : Fault) :
    struck t fault m = m := by
  unfold struck
  split
  · exact if_neg (Bool.eq_false_iff.1 hdetached)
  · rfl

/-- A function that uses up a fault comes back with its code. -/
theorem faulty_struck {α : Type} {name : String} {fault : Fault}
    {faults : List (OneShot String Fault)} (h : OneShot.take name m.faults = (some fault, faults))
    (result : Int64 → α) (usual : StateM Machine α) :
    faulty t name result usual m =
      (result fault.code, struck t fault { m with called := name :: m.called, faults }) := by
  have hstrike : (strike t name).run { m with called := name :: m.called } =
      pure (some fault, struck t fault { m with called := name :: m.called, faults }) := by
    cases hthrows : fault.throws <;> simp [strike, h, hthrows, struck]
  show (faulty t name result usual).run m = _
  simp [faulty, enter, hstrike]
  rfl

/-- A function whose faults are not armed does what it usually does. -/
theorem faulty_other {α : Type} {name : String} (hname : name ≠ "AttachCurrentThread")
    (hm : m.OnlyRefuses) (result : Int64 → α) (usual : StateM Machine α) :
    ∃ faults, faulty t name result usual m =
        usual { m with called := name :: m.called, faults } ∧
      OnlyRefuses { m with called := name :: m.called, faults } := by
  obtain ⟨hleft, hstruck⟩ := take_effect name (P := fun target fault =>
    target = "AttachCurrentThread" ∧ fault.code.toInt32 ≠ 0) hm
  have hnone : (OneShot.take name m.faults).1 = none := by
    by_contra hsome
    obtain ⟨fault, hfault⟩ := Option.ne_none_iff_exists'.1 hsome
    exact hname (hstruck fault hfault).1
  exact ⟨(OneShot.take name m.faults).2, faulty_spared (Prod.ext hnone rfl) result usual, hleft⟩

theorem environmentOf_eq_some_iff {env : ThreadId} :
    environmentOf t m = some env ↔ m.isAttached t = true ∧ env = t := by
  by_cases h : m.isAttached t <;> simp [environmentOf, h, eq_comm]

theorem environmentOf_eq_none_iff : environmentOf t m = none ↔ m.isAttached t = false := by
  by_cases h : m.isAttached t <;> simp [environmentOf, h]

theorem invocation_getEnv (missing : List Entry) (hm : m.OnlyRefuses) :
    ∃ m', (invocation missing).getEnv t m =
        (if m.isAttached t then (0, some t) else (detachedCode, none), m') ∧
      m'.OnlyRefuses ∧ environmentOf t m' = environmentOf t m := by
  have hother : "GetEnv" ≠ "AttachCurrentThread" := by decide
  obtain ⟨faults, hrun, hm'⟩ := faulty_other (t := t) hother hm Fault.status (do
      if (← get).isAttached t then return (0, some t) else return (detachedCode, none))
  refine ⟨_, hrun.trans ?_, hm', rfl⟩
  by_cases hattached : m.isAttached t = true
  · rw [if_pos hattached]
    exact congrFun (if_pos hattached) _
  · rw [if_neg hattached]
    exact congrFun (if_neg hattached) _

theorem isAttached_attach (m : Machine) (t : ThreadId) : (m.attach t).isAttached t = true := by
  by_cases hattached : m.isAttached t = true
  · simp [attach, hattached]
  · rw [attach, if_neg hattached]
    simp [isAttached, Table.contains]

theorem isAttached_detach (m : Machine) (t : ThreadId) : (m.detach t).isAttached t = false := by
  simp [detach, isAttached, Table.contains]

theorem attach_faults (m : Machine) (t : ThreadId) : (m.attach t).faults = m.faults := by
  by_cases hattached : m.isAttached t = true <;> simp [attach, hattached]

/-- The machine attaches a detached thread, or a fault that is used up makes it refuse. -/
theorem invocation_attachCurrentThread (missing : List Entry) (hm : m.OnlyRefuses)
    (hdetached : m.isAttached t = false) :
    ∃ out m', (invocation missing).attachCurrentThread t m = (out, m') ∧ m'.OnlyRefuses ∧
      (out = (0, some t) ∧ m'.isAttached t = true ∨ out.1 ≠ 0 ∧ m'.isAttached t = false) := by
  obtain ⟨hleft, hstruck⟩ := take_effect "AttachCurrentThread" (P := fun target fault =>
    target = "AttachCurrentThread" ∧ fault.code.toInt32 ≠ 0) hm
  cases htake : (OneShot.take "AttachCurrentThread" m.faults).1 with
  | none =>
    have hrun := faulty_spared (t := t) (Prod.ext htake rfl) Fault.status (do
      modify (·.attach t)
      return (0, some t))
    refine ⟨_, _, hrun, ?_, .inl ⟨rfl, isAttached_attach _ t⟩⟩
    show ∀ shot ∈ (attach _ t).faults, _
    rw [attach_faults]
    exact hleft
  | some fault =>
    have hrun := faulty_struck (t := t) (Prod.ext htake rfl) Fault.status (do
      modify (·.attach t)
      return (0, some t))
    have hspared := struck_detached (t := t) (m := { m with
      called := "AttachCurrentThread" :: m.called
      faults := (OneShot.take "AttachCurrentThread" m.faults).2 }) hdetached fault
    rw [hspared] at hrun
    exact ⟨_, _, hrun, hleft, .inr ⟨(hstruck fault htake).2, hdetached⟩⟩

/-- The machine attaches threads as scopes rely on, while no faults are armed but refusals. -/
theorem invocation_attaches (missing : List Entry) (t : ThreadId) :
    (invocation missing).Attaches (environmentOf t) OnlyRefuses t where
  attached m env hm henv := by
    obtain ⟨hattached, rfl⟩ := environmentOf_eq_some_iff.1 henv
    obtain ⟨m', hrun, -, -⟩ := invocation_getEnv missing hm
    rw [hrun, if_pos hattached]
  detached m hm hnone := by
    obtain ⟨m', hrun, -, -⟩ := invocation_getEnv missing hm
    rw [hrun, environmentOf_eq_none_iff.1 hnone]
    exact (by decide : detachedCode ≠ 0)
  getEnv m hm := by
    obtain ⟨m', hrun, hm', hsame⟩ := invocation_getEnv missing hm
    rw [hrun]
    exact ⟨hm', hsame⟩
  accepted m hm hnone hcode := by
    obtain ⟨out, m', hrun, -, ⟨rfl, hattached⟩ | ⟨hrefused, -⟩⟩ :=
      invocation_attachCurrentThread missing hm (environmentOf_eq_none_iff.1 hnone)
    · rw [hrun]
      exact ⟨t, rfl, environmentOf_eq_some_iff.2 ⟨hattached, rfl⟩⟩
    · rw [hrun] at hcode
      exact absurd hcode hrefused
  refused m hm hnone hcode := by
    obtain ⟨out, m', hrun, -, ⟨rfl, -⟩ | ⟨-, hdetached⟩⟩ :=
      invocation_attachCurrentThread missing hm (environmentOf_eq_none_iff.1 hnone)
    · rw [hrun] at hcode
      exact absurd rfl hcode
    · rw [hrun]
      exact environmentOf_eq_none_iff.2 hdetached
  attach_sound m hm hnone := by
    obtain ⟨out, m', hrun, hm', -⟩ :=
      invocation_attachCurrentThread missing hm (environmentOf_eq_none_iff.1 hnone)
    rw [hrun]
    exact hm'
  detachCurrentThread m hm :=
    ⟨hm, environmentOf_eq_none_iff.2 (isAttached_detach { m with called := _ :: m.called } t)⟩

end Machine

end ManagedBridge.Jvm
