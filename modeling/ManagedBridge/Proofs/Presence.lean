import ManagedBridge.Proofs.Recoding
import ManagedBridge.Proofs.Reporting

/-!
# Attachments to a virtual machine

A thread that is attached is given its environment, and one that is not is attached for a scope, for
which this side answers until it detaches the thread again. What the capabilities rest on lasts from
one attachment to the next.
-/

namespace ManagedBridge.Jvm

variable {μ ε χ α ω : Type}

/-- The functions of the invocation interface do what they are for on a thread. Of a machine on
which the thread is not attached it is said that it is `Sound`. -/
structure InvocationInterface.Faithful (vm : InvocationInterface μ ε) (R : Reading μ ε χ)
    (Sound : μ → Prop) (t : ThreadId) : Prop where
  /-- A thread that is attached is given its environment. -/
  getEnv : ∀ m env, R.callable m env → R.environment m t = some env →
    (vm.getEnv t m).1 = (0, some env) ∧ R.Keeps env Reading.nothing m (vm.getEnv t m).2 ∧
      R.pending (vm.getEnv t m).2 env = R.pending m env
  getEnvDetached : ∀ m, Sound m → R.environment m t = none →
    (vm.getEnv t m).1.1 ≠ 0 ∧ R.environment (vm.getEnv t m).2 t = none ∧ Sound (vm.getEnv t m).2 ∧
      R.Endures m (vm.getEnv t m).2
  /-- No exception is pending on a thread that is attached anew. -/
  attachCurrentThread : ∀ m, Sound m → R.environment m t = none →
    (vm.attachCurrentThread t m).1.1 = 0 → ∃ env, (vm.attachCurrentThread t m).1.2 = some env ∧
      R.environment (vm.attachCurrentThread t m).2 t = some env ∧
      R.callable (vm.attachCurrentThread t m).2 env ∧
      R.pending (vm.attachCurrentThread t m).2 env = false ∧
      R.Endures m (vm.attachCurrentThread t m).2
  detachCurrentThread : ∀ m env, R.callable m env → R.environment m t = some env →
    R.environment (vm.detachCurrentThread t m).2 t = none ∧ Sound (vm.detachCurrentThread t m).2 ∧
      R.Endures m (vm.detachCurrentThread t m).2

section Enduring

variable {R : Reading μ ε χ} {m m' : μ}

theorem Reading.Endures.refl : R.Endures m m := ⟨id, id⟩

theorem Reading.Endures.beside {m m' : μ × ω} (h : R.Endures m.1 m'.1) :
    (R.beside ω).Endures m m' where
  pinned hpinned := pinned_beside.mpr (h.pinned (pinned_beside.mp hpinned))
  method := h.method

/-- Capabilities are good on any thread and at any later time. -/
theorem Resolved.endures {stringClass : String} {cs : χ} {caps : Capabilities}
    (h : Resolved R stringClass cs caps m) (hendures : R.Endures m m') :
    Resolved R stringClass cs caps m' where
  toClass := hendures.pinned h.toClass
  toCharset := hendures.pinned h.toCharset
  constructor := hendures.method h.constructor
  getBytes := hendures.method h.getBytes

theorem InvocationInterface.Faithful.recorded {vm : InvocationInterface μ ε} {Sound : μ → Prop}
    {t : ThreadId} (h : vm.Faithful R Sound t) (note : μ → NativeCall → ω) :
    (vm.recorded note).Faithful (R.beside (List ω)) (fun m => Sound m.1) t where
  getEnv m env hcallable henv := by
    obtain ⟨hout, hkeeps, hpending⟩ := h.getEnv m.1 env hcallable henv
    exact ⟨hout, hkeeps.beside, hpending⟩
  getEnvDetached m hsound hnone := by
    obtain ⟨hcode, hnone', hsound', hendures⟩ := h.getEnvDetached m.1 hsound hnone
    exact ⟨hcode, hnone', hsound', hendures.beside⟩
  attachCurrentThread m hsound hnone hcode := by
    obtain ⟨env, hout, henv, hcallable, hpending, hendures⟩ :=
      h.attachCurrentThread m.1 hsound hnone hcode
    exact ⟨env, hout, henv, hcallable, hpending, hendures.beside⟩
  detachCurrentThread m env hcallable henv := by
    obtain ⟨hnone, hsound, hendures⟩ := h.detachCurrentThread m.1 env hcallable henv
    exact ⟨hnone, hsound, hendures.beside⟩

end Enduring

section Runs

variable {vm : InvocationInterface μ ε} {t : ThreadId} {s : Site (Link μ)} {env : ε}

/-- What succeeds is gone on from. -/
theorem Succeeds.run_bind {β e : Type} {x : ExceptT e (Call (Link μ)) α} {a : α}
    {u : Site (Link μ)} (h : Succeeds x s a u) (f : α → ExceptT e (Call (Link μ)) β) :
    (x >>= f).run.run s = (f a).run.run u :=
  Routine.run_bind_ok h _

theorem Succeeds.lift {e : Type} {call : Call (Link μ) α} {a : α} {u : Site (Link μ)}
    (h : call.run s = (.ok a, u)) :
    Succeeds (ExceptT.lift call : ExceptT e (Call (Link μ)) α) s a u :=
  (Routine.run_map Except.ok call s).trans (by rw [h])

theorem Succeeds.ofChecked {y : Checked μ α} {s u : Site (Link μ)} {a : α}
    (h : Succeeds y s a u) : Succeeds (Mapped.ofChecked y) s a u := by
  show Routine.run (Except.mapError CallError.toRuntime <$> y.run) s = _
  rw [Routine.run_map, show y.run.run s = (.ok (.ok a), u) from h]
  rfl

theorem run_ofChecked_error {y : Checked μ α} {s u : Site (Link μ)} {e : CallError}
    (h : y.run.run s = (.ok (.error e), u)) :
    (Mapped.ofChecked y).run.run s = (.ok (.error e.toRuntime), u) := by
  show Routine.run (Except.mapError CallError.toRuntime <$> y.run) s = _
  rw [Routine.run_map, h]
  rfl

theorem ofCode?_of_ne_zero {code : Int32} (h : code ≠ 0) :
    ∃ status, Status.ofCode? code = some status := by
  unfold Status.ofCode?
  rw [if_neg h]
  repeat' split
  all_goals exact ⟨_, rfl⟩

theorem orStatus_run_refused {out : Int32 × Option α} {status : Status}
    (h : Status.ofCode? out.1 = some status) (s : Site (Link μ)) :
    (Checked.orStatus out : Checked μ α).run.run s = (.ok (.error (.failed status)), s) := by
  obtain ⟨code, out⟩ := out
  unfold Checked.orStatus
  dsimp only at h ⊢
  rw [h]
  rfl

theorem getEnv_run (s : Site (Link μ)) :
    (Checked.getEnv vm t).run.run s =
      (Checked.orStatus (vm.getEnv t s.backend.machine).1 : Checked μ ε).run.run
        (Link.after (vm.getEnv t) s) :=
  rfl

theorem getEnv_run_attached (hout : (vm.getEnv t s.backend.machine).1 = (0, some env)) :
    (Checked.getEnv vm t).run.run s = (.ok (.ok env), Link.after (vm.getEnv t) s) := by
  rw [getEnv_run, hout]
  rfl

theorem getEnv_run_detached (hcode : (vm.getEnv t s.backend.machine).1.1 ≠ 0) :
    ∃ e, (Checked.getEnv vm t).run.run s = (.ok (.error e), Link.after (vm.getEnv t) s) := by
  obtain ⟨status, hstatus⟩ := ofCode?_of_ne_zero hcode
  exact ⟨_, (getEnv_run s).trans (orStatus_run_refused hstatus _)⟩

/-- A thread for which this side answers is detached, and it answers for the thread no longer. -/
theorem release_run (s : Site (Link μ)) :
    (Link.release vm t).run s = (.ok (), ⟨⟨if t ∈ s.backend.guarded
      then (vm.detachCurrentThread t s.backend.machine).2 else s.backend.machine,
        s.backend.guarded.erase t⟩, s.log⟩) := by
  rw [Link.release, Routine.run_bind, Call.run_step]
  dsimp only
  split <;> rfl

theorem guard_run (h : t ∉ s.backend.guarded) :
    (Link.guard vm t).run s =
      (.ok (), ⟨{ s.backend with guarded := t :: s.backend.guarded }, s.log⟩) := by
  refine (Routine.run_bind_ok (release_run s) _).trans ?_
  rw [if_neg h, List.erase_of_not_mem h]
  rfl

/-- A thread that is attached by this side is one for which it answers. -/
theorem attachGuarded_run (h : t ∉ s.backend.guarded)
    (hout : (vm.attachCurrentThread t s.backend.machine).1 = (0, some env)) :
    (Link.attachGuarded vm t).run.run s =
      (.ok (.ok env), ⟨⟨(vm.attachCurrentThread t s.backend.machine).2, t :: s.backend.guarded⟩,
        s.log⟩) := by
  have hcall : Succeeds (Checked.call (vm.attachCurrentThread t)) s (0, some env)
      (Link.after (vm.attachCurrentThread t) s) := by
    rw [← hout]
    rfl
  have hguard : Succeeds (ExceptT.lift (Link.guard vm t) : Checked μ Unit)
      (Link.after (vm.attachCurrentThread t) s) ()
      ⟨⟨(vm.attachCurrentThread t s.backend.machine).2, t :: s.backend.guarded⟩, s.log⟩ :=
    .lift (guard_run h)
  exact (hcall.run_bind _).trans (hguard.run_bind _)

theorem attachGuarded_run_refused (hcode : (vm.attachCurrentThread t s.backend.machine).1.1 ≠ 0) :
    ∃ e, (Link.attachGuarded vm t).run.run s =
      (.ok (.error e), Link.after (vm.detachCurrentThread t)
        (Link.after (vm.attachCurrentThread t) s)) := by
  have hcall : Succeeds (Checked.call (vm.attachCurrentThread t)) s
      (vm.attachCurrentThread t s.backend.machine).1 (Link.after (vm.attachCurrentThread t) s) :=
    rfl
  obtain ⟨status, hstatus⟩ := ofCode?_of_ne_zero hcode
  refine ⟨.failed status, (hcall.run_bind _).trans ?_⟩
  dsimp only
  rw [hstatus]
  have hdetach : Succeeds (Checked.call (vm.detachCurrentThread t))
      (Link.after (vm.attachCurrentThread t) s) ()
      (Link.after (vm.detachCurrentThread t) (Link.after (vm.attachCurrentThread t) s)) :=
    rfl
  exact (hdetach.run_bind _).trans (orStatus_run_refused hstatus _)

/-- A thread that has no environment is attached. -/
theorem attach_run (hcode : (vm.getEnv t s.backend.machine).1.1 ≠ 0) :
    (Link.attach vm t).run.run s =
      (Link.attachGuarded vm t).run.run (Link.after (vm.getEnv t) s) := by
  obtain ⟨e, hrun⟩ := getEnv_run_detached hcode
  have hattempt : Succeeds (Checked.attempt (Checked.getEnv vm t)) s (.error e)
      (Link.after (vm.getEnv t) s) :=
    .lift hrun
  exact hattempt.run_bind _

end Runs

end ManagedBridge.Jvm
