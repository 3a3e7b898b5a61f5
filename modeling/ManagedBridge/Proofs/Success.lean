import ManagedBridge.Proofs.Meaning
import ManagedBridge.Proofs.Totality

/-!
# Calls that succeed

What is known after a call of a faithful machine, given that the call has succeeded. A checked call
that succeeds has called each of its functions, and none of them has failed; so each has done what
it is for, and the calls are taken apart from the first to the last.
-/

namespace ManagedBridge.Jvm

variable {μ ε χ α β e e' : Type}

/-- From `s` the call succeeds with `a` and leaves `t`. -/
def Succeeds (x : ExceptT e (Call (Link μ)) α) (s : Site (Link μ)) (a : α) (t : Site (Link μ)) :
    Prop :=
  x.run.run s = (.ok (.ok a), t)

section Rules

variable {x : ExceptT e (Call (Link μ)) α} {f : α → ExceptT e (Call (Link μ)) β}
  {s t : Site (Link μ)} {a : α} {b : β}

/-- What is put together succeeds if its parts do, one after the other. -/
theorem Succeeds.of_bind (h : Succeeds (x >>= f) s b t) :
    ∃ a u, Succeeds x s a u ∧ Succeeds (f a) u b t := by
  change Routine.run (x.run >>= ExceptT.bindCont f) s = _ at h
  rw [Routine.run_bind] at h
  rcases hx : x.run.run s with ⟨panic | error | a, u⟩ <;> rw [hx] at h
  · cases h
  · cases h
  · exact ⟨a, u, hx, h⟩

theorem Succeeds.of_pure {a' : α}
    (h : Succeeds (Pure.pure a' : ExceptT e (Call (Link μ)) α) s a t) : a' = a ∧ s = t := by
  cases h
  exact ⟨rfl, rfl⟩

theorem not_succeeds_throw {error : e} :
    ¬ Succeeds (throw error : ExceptT e (Call (Link μ)) α) s a t := nofun

theorem Succeeds.of_lift {call : Call (Link μ) α}
    (h : Succeeds (ExceptT.lift call : ExceptT e (Call (Link μ)) α) s a t) :
    call.run s = (.ok a, t) := by
  change Routine.run (Except.ok <$> call) s = _ at h
  rw [Routine.run_map] at h
  rcases hcall : call.run s with ⟨panic | a, u⟩ <;> rw [hcall] at h <;> cases h
  rfl

theorem Succeeds.of_ofChecked {x : Checked μ α} (h : Succeeds (Mapped.ofChecked x) s a t) :
    Succeeds x s a t := by
  change Routine.run (Except.mapError CallError.toRuntime <$> x.run) s = _ at h
  rw [Routine.run_map] at h
  rcases hx : x.run.run s with ⟨panic | error | a, u⟩ <;> rw [hx] at h <;> cases h
  exact hx

end Rules

/-- The site after a function of the machine. -/
def Link.after (f : StateM μ α) (s : Site (Link μ)) : Site (Link μ) :=
  { s with backend := { s.backend with machine := (f s.backend.machine).2 } }

section Faithful

variable {R : Reading μ ε χ} {C : Charsets χ} {stringClass : String} {env : ε}
  {jni : NativeInterface μ} {lost : Ref → Referent χ → Prop} {s t u : Site (Link μ)}

/-- What is known at `s` is so at `t`, but for what is lost, and no attachment has changed. -/
structure Kept (R : Reading μ ε χ) (env : ε) (lost : Ref → Referent χ → Prop)
    (s t : Site (Link μ)) : Prop where
  machine : R.Keeps env lost s.backend.machine t.backend.machine
  guarded : t.backend.guarded = s.backend.guarded

/-- And no exception is pending. -/
structure Calm (R : Reading μ ε χ) (env : ε) (lost : Ref → Referent χ → Prop)
    (s t : Site (Link μ)) : Prop extends Kept R env lost s t where
  quiet : R.pending t.backend.machine env = false

theorem Reading.Keeps.trans {m m' m'' : μ} (h : R.Keeps env lost m m')
    (h' : R.Keeps env nothing m' m'') : R.Keeps env lost m m'' where
  callable := h'.callable
  environment := h'.environment.trans h.environment
  referent href hlost := h'.referent (h.referent href hlost) id
  pinned href hlost := h'.pinned (h.pinned href hlost) id
  method hmethod := h'.method (h.method hmethod)

/-- To delete a reference that is new since then is to lose nothing. -/
theorem Reading.Keeps.forget {m m' m'' : μ} {ref : Ref} (h : R.Keeps env nothing m m')
    (fresh : R.referent m env ref = none) (h' : R.Keeps env (only ref) m' m'') :
    R.Keeps env nothing m m'' where
  callable := h'.callable
  environment := h'.environment.trans h.environment
  referent href _ := h'.referent (h.referent href id) fun hsame => by
    rw [hsame, fresh] at href
    cases href
  pinned hpinned _ := h'.pinned (h.pinned hpinned id) fun hsame => by
    have href := hpinned.referent env
    rw [hsame, fresh] at href
    cases href
  method hmethod := h'.method (h.method hmethod)

theorem Kept.trans (h : Kept R env lost s t) (h' : Kept R env Reading.nothing t u) :
    Kept R env lost s u :=
  ⟨h.machine.trans h'.machine, h'.guarded.trans h.guarded⟩

theorem Succeeds.of_enter {entry : Entry} {f : StateM μ α} {a : α}
    (h : Succeeds (Checked.enter jni entry f) s a t) :
    a = (f s.backend.machine).1 ∧ t = Link.after f s := by
  unfold Checked.enter at h
  split at h
  · cases h
    exact ⟨rfl, rfl⟩
  · cases h

/-- A function after which no exception was pending has done what it is for. -/
theorem Succeeds.of_orException (faithful : jni.Faithful R C stringClass env) {entry : Entry}
    {f : StateM μ α} {post : μ → α → μ → Prop} {a : α} (hf : R.Throws env lost f post)
    (hs : R.callable s.backend.machine env) (h : Succeeds (Checked.orException jni entry f) s a t) :
    ∃ m, post s.backend.machine a m ∧ R.Keeps env Reading.nothing m t.backend.machine ∧
      Calm R env lost s t := by
  obtain ⟨a', u, hcall, h⟩ := h.of_bind
  obtain ⟨rfl, rfl⟩ := hcall.of_enter
  obtain ⟨pending, v, hcheck, h⟩ := h.of_bind
  obtain ⟨rfl, rfl⟩ := hcheck.of_enter
  obtain ⟨hkeeps, hpost⟩ := hf _ hs
  obtain ⟨hstays, hsame, hpending⟩ := faithful.exceptionCheck _ hkeeps.callable
  cases hthrown : (jni.exceptionCheck (f s.backend.machine).2).1
  case true =>
    have hthrown' : (jni.exceptionCheck (Link.after f s).backend.machine).1 = true := hthrown
    rw [hthrown'] at h
    cases h
  case false =>
    have hthrown' : (jni.exceptionCheck (Link.after f s).backend.machine).1 = false := hthrown
    rw [hthrown'] at h
    cases h
    have hclear := hpending.symm.trans hthrown
    exact ⟨_, hpost hclear, hstays, ⟨⟨hkeeps.trans hstays, rfl⟩, hsame.trans hclear⟩⟩

/-- And if its result was not null either. -/
theorem Succeeds.of_orNull (faithful : jni.Faithful R C stringClass env) {entry : Entry}
    {f : StateM μ (Option α)} {post : μ → Option α → μ → Prop} {a : α}
    (hf : R.Throws env lost f post) (hs : R.callable s.backend.machine env)
    (h : Succeeds (Checked.orNull jni entry f) s a t) :
    ∃ m, post s.backend.machine (some a) m ∧ R.Keeps env Reading.nothing m t.backend.machine ∧
      Calm R env lost s t := by
  obtain ⟨a?, u, hcall, h⟩ := h.of_bind
  obtain ⟨m, hpost, hkeeps, hcalm⟩ := hcall.of_orException faithful hf hs
  cases a? with
  | none => cases h
  | some a => cases h; exact ⟨m, hpost, hkeeps, hcalm⟩

/-- The deletion of a local reference succeeds. -/
theorem deleteLocalRef_succeeds (faithful : jni.Faithful R C stringClass env) (ref : Ref)
    (s : Site (Link μ)) :
    Succeeds (Checked.deleteLocalRef jni ref) s () (Link.after (jni.deleteLocalRef ref) s) := by
  rw [Checked.deleteLocalRef, Checked.enter, if_pos (faithful.provides _)]
  rfl

theorem dropLocal_run (faithful : jni.Faithful R C stringClass env) (ref : Ref)
    (s : Site (Link μ)) :
    (Context.dropLocal jni ref).run s = (.ok (), Link.after (jni.deleteLocalRef ref) s) :=
  Routine.run_bind_ok (deleteLocalRef_succeeds faithful ref s) _

theorem Succeeds.of_thenDelete (faithful : jni.Faithful R C stringClass env) {ref : Ref}
    {body : Checked μ α} {a : α} (h : Succeeds (Checked.thenDelete jni ref body) s a t) :
    ∃ u, Succeeds body s a u ∧ t = Link.after (jni.deleteLocalRef ref) u := by
  unfold Checked.thenDelete at h
  change Routine.run (body.run >>= _) s = _ at h
  rw [Routine.run_bind] at h
  rcases hbody : body.run.run s with ⟨panic | result, u⟩ <;> rw [hbody] at h
  · cases h
  · cases (Routine.run_bind_ok (deleteLocalRef_succeeds faithful ref u) _).symm.trans h
    exact ⟨u, hbody, rfl⟩

end Faithful

end ManagedBridge.Jvm
