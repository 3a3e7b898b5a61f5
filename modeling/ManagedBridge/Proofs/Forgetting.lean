import ManagedBridge.Proofs.Balance

/-!
# Forgotten attachments

To attach a structure is to fill it, whatever it held. If it held the flag of the attachment, the
flag is lost: the thread is attached, so the structure is filled without one, and no structure is
left that would ever detach the thread. The main result says that attachments are lost in this way
and in no other. A forgotten attachment is from then on as good as one that someone else made.
-/

namespace ManagedBridge.Jvm

open CInterface Process

variable {μ ε ι : Type}

/-- Who has to detach a thread that was detached at the outset. -/
inductive Custody (ι : Type)
  /-- The thread is detached. -/
  | released
  | held (scope : ι)
  /-- The thread is attached, and no structure has to detach it. -/
  | forgotten

section Orders

variable [DecidableEq ι]

/-- What an order makes of the custody. A structure that has it and is filled again loses it. -/
def Custody.after (custody : Custody ι) : ScopeEvent ι → Custody ι
  | .attach i status =>
    if status = successCode then
      match custody with
      | released => held i
      | held j => if j = i then forgotten else held j
      | forgotten => forgotten
    else custody
  | .detach i? =>
    match custody with
    | held j => if i? = some j then released else held j
    | other => other

/-- The custody after all that was asked for, of which the last comes first. -/
def custodyOf : List (ScopeEvent ι) → Custody ι
  | [] => .released
  | e :: past => (custodyOf past).after e

/-- A structure was attached once more while it had to detach the thread. -/
def Forgets (past : List (ScopeEvent ι)) : Prop :=
  ∃ later i earlier, past = later ++ .attach i successCode :: earlier ∧ custodyOf earlier = .held i

/-- What is forgotten stays so. -/
theorem Forgets.append {past : List (ScopeEvent ι)} (h : Forgets past)
    (later : List (ScopeEvent ι)) : Forgets (later ++ past) := by
  obtain ⟨between, i, earlier, hpast, hheld⟩ := h
  refine ⟨later ++ between, i, earlier, ?_, hheld⟩
  rw [hpast, List.append_assoc]

/-- An order that leaves the attachment forgotten found it so, or made it so. -/
theorem Custody.after_eq_forgotten {custody : Custody ι} {e : ScopeEvent ι}
    (h : custody.after e = .forgotten) :
    custody = .forgotten ∨ ∃ i, e = .attach i successCode ∧ custody = .held i := by
  cases e with
  | attach i status =>
    by_cases hstatus : status = successCode
    · subst hstatus
      cases custody with
      | released => simp [after] at h
      | held j =>
        by_cases hj : j = i
        · exact .inr ⟨i, rfl, by rw [hj]⟩
        · simp [after, hj] at h
      | forgotten => exact .inl rfl
    · exact .inl (by simpa [after, hstatus] using h)
  | detach i? =>
    cases custody with
    | released => simp [after] at h
    | held j =>
      by_cases hi : i? = some j <;> simp [after, hi] at h
    | forgotten => exact .inl rfl

theorem Custody.after_forgotten (e : ScopeEvent ι) :
    (forgotten : Custody ι).after e = .forgotten := by
  cases e with
  | attach i status => simp [after]
  | detach i? => rfl

theorem custodyOf_append_forgotten {past : List (ScopeEvent ι)} (h : custodyOf past = .forgotten)
    (later : List (ScopeEvent ι)) : custodyOf (later ++ past) = .forgotten := by
  induction later with
  | nil => exact h
  | cons e later ih =>
    show (custodyOf (later ++ past)).after e = .forgotten
    rw [ih, Custody.after_forgotten]

theorem custodyOf_eq_forgotten_iff (past : List (ScopeEvent ι)) :
    custodyOf past = .forgotten ↔ Forgets past := by
  constructor
  · intro h
    induction past with
    | nil => cases h
    | cons e past ih =>
      rcases Custody.after_eq_forgotten h with hbefore | ⟨i, rfl, hheld⟩
      · exact (ih hbefore).append [e]
      · exact ⟨[], i, past, rfl, hheld⟩
  · rintro ⟨later, i, earlier, rfl, hheld⟩
    apply custodyOf_append_forgotten
    show (custodyOf earlier).after _ = _
    simp [hheld, Custody.after]

end Orders

section Runs

variable [DecidableEq ι] {vm : InvocationInterface μ ε} {environment : μ → Option ε}
  {Sound : μ → Prop} {t : ThreadId} {rt : Runtime} {others : List ThreadId}
  {past : List (ScopeEvent ι)} {h h' : Holder μ ε ι} {custody : Custody ι}

/-- One order on a thread. Any structure may be attached, also one that has not been detached. -/
inductive Holder.Follows (vm : InvocationInterface μ ε) (t : ThreadId) :
    Holder μ ε ι → ScopeEvent ι → Holder μ ε ι → Prop
  | attach {h : Holder μ ε ι} {i : ι} {status : Int} {scope : Scope ε} {w : World (Process μ)}
      (hrun : (attachThread vm t (some (h.scopes i))).run h.world = (.ok (status, some scope), w)) :
      Follows vm t h (.attach i status) ⟨w, Function.update h.scopes i scope⟩
  | detach {h : Holder μ ε ι} {i : ι} {scope : Scope ε} {w : World (Process μ)}
      (hrun : (detachThread vm t (some (h.scopes i))).run h.world = (.ok (some scope), w)) :
      Follows vm t h (.detach (some i)) ⟨w, Function.update h.scopes i scope⟩
  | detachNull {h : Holder μ ε ι} {w : World (Process μ)}
      (hrun : (detachThread vm t none).run h.world = (.ok none, w)) :
      Follows vm t h (.detach none) ⟨w, h.scopes⟩

theorem Holder.follows_attach {h : Holder μ ε ι} (i : ι) (status : Int) (scope : Scope ε)
    (hanswer : ((attachThread vm t (some (h.scopes i))).run h.world).1 = .ok (status, some scope)) :
    h.Follows vm t (.attach i status)
      ⟨((attachThread vm t (some (h.scopes i))).run h.world).2,
        Function.update h.scopes i scope⟩ :=
  .attach (Prod.ext hanswer rfl)

theorem Holder.follows_detach {h : Holder μ ε ι} (i : ι) (scope : Scope ε)
    (hanswer : ((detachThread vm t (some (h.scopes i))).run h.world).1 = .ok (some scope)) :
    h.Follows vm t (.detach (some i))
      ⟨((detachThread vm t (some (h.scopes i))).run h.world).2,
        Function.update h.scopes i scope⟩ :=
  .detach (Prod.ext hanswer rfl)

/-- What any orders can lead to on a thread, from a process in which all structures are empty. -/
inductive Holder.Attained (vm : InvocationInterface μ ε) (t : ThreadId) (w : World (Process μ)) :
    List (ScopeEvent ι) → Holder μ ε ι → Prop
  | start : Attained vm t w [] ⟨w, fun _ => {}⟩
  | step {past : List (ScopeEvent ι)} {h h' : Holder μ ε ι} {e : ScopeEvent ι}
      (attained : Attained vm t w past h) (follows : h.Follows vm t e h') :
      Attained vm t w (e :: past) h'

/-- The account of the structures under a custody, on a thread that was detached at the outset. -/
def Holder.Accounts (environment : μ → Option ε) (Sound : μ → Prop) (rt : Runtime)
    (t : ThreadId) (others : List ThreadId) (past : List (ScopeEvent ι)) (h : Holder μ ε ι) :
    Custody ι → Prop
  | .released => h.Account environment Sound rt t none others past none none
  | .held i => ∃ env, h.Account environment Sound rt t none others past (some i) (some env)
  | .forgotten => ∃ env,
      h.Account environment Sound rt t (some env) (t :: others) past none (some env)

/-- The structure that has to detach the thread is filled again, and has nothing to undo. -/
theorem Holder.Account.forget (hvm : vm.Attaches environment Sound t) {env : ε} {i : ι}
    (hh : h.Account environment Sound rt t none others past (some i) (some env)) :
    ∃ w, (attachThread vm t (some (h.scopes i))).run h.world =
        (.ok (successCode, some ⟨some env, 0⟩), w) ∧
      Holder.Account environment Sound rt t (some env) (t :: others)
        (.attach i successCode :: past)
        ⟨w, Function.update h.scopes i ⟨some env, 0⟩⟩ none (some env) := by
  obtain ⟨w, hrun, hw⟩ := attachThread_reuse hvm hh.status (h.scopes i)
  refine ⟨w, hrun, ⟨hw, fun _ => rfl, nofun, fun j => ?_, fun j => ?_, nofun⟩⟩
  · by_cases hj : j = i
    · simp [hj]
    · simp [hj, Ne.symm hj, hh.flag j]
  · by_cases hj : j = i
    · simp [hj, isOpen]
    · simp [hj, isOpen_attach_of_ne hj, hh.filled j]

/-- Every order to attach is carried out, and the account goes on. Only a thread that is not
attached can be refused; any other is taken as it is. -/
theorem Holder.Accounts.attach (hvm : vm.Attaches environment Sound t) (hothers : t ∉ others)
    (hh : h.Accounts environment Sound rt t others past custody) (i : ι) :
    ∃ status scope w,
      (attachThread vm t (some (h.scopes i))).run h.world = (.ok (status, some scope), w) ∧
        Holder.Accounts environment Sound rt t others (.attach i status :: past)
          ⟨w, Function.update h.scopes i scope⟩ (custody.after (.attach i status)) := by
  cases custody with
  | released =>
    by_cases hrefuses : vm.Refuses environment t h.world.backend.link.machine
    · obtain ⟨w, hrun, hnext⟩ := Account.refused hvm hh hrefuses i
      exact ⟨failureCode, {}, w, hrun, hnext⟩
    · obtain ⟨env, w, hrun, hnext⟩ := Account.accepted hvm hothers hh hrefuses i
      exact ⟨successCode, _, w, hrun, env, hnext⟩
  | held j =>
    obtain ⟨env, hh⟩ := hh
    by_cases hj : j = i
    · subst hj
      obtain ⟨w, hrun, hnext⟩ := hh.forget hvm
      refine ⟨successCode, _, w, hrun, ?_⟩
      simpa [Custody.after] using ⟨env, hnext⟩
    · have hne : some j ≠ some i := fun heq => hj (Option.some.inj heq)
      obtain ⟨w, hrun, hnext⟩ := hh.reuse hvm hne
      refine ⟨successCode, _, w, hrun, ?_⟩
      simpa [Custody.after, hj] using ⟨env, hnext⟩
  | forgotten =>
    obtain ⟨env, hh⟩ := hh
    obtain ⟨w, hrun, hnext⟩ := hh.reuse (i := i) hvm nofun
    exact ⟨successCode, _, w, hrun, env, hnext⟩

/-- Every order to detach is carried out, and the account goes on. -/
theorem Holder.Accounts.detach (hvm : vm.Attaches environment Sound t)
    (hh : h.Accounts environment Sound rt t others past custody) (i : ι) :
    ∃ w, (detachThread vm t (some (h.scopes i))).run h.world = (.ok (some {}), w) ∧
      Holder.Accounts environment Sound rt t others (.detach (some i) :: past)
        ⟨w, Function.update h.scopes i {}⟩ (custody.after (.detach (some i))) := by
  cases custody with
  | released =>
    obtain ⟨hrun, hnext⟩ := Account.unflagged (i := i) hh nofun
    exact ⟨h.world, hrun, hnext⟩
  | held j =>
    obtain ⟨env, hh⟩ := hh
    by_cases hj : j = i
    · subst hj
      obtain ⟨w, hrun, hnext⟩ := hh.flagged hvm
      refine ⟨w, hrun, ?_⟩
      simpa [Custody.after, Accounts] using hnext
    · have hne : some j ≠ some i := fun heq => hj (Option.some.inj heq)
      obtain ⟨hrun, hnext⟩ := hh.unflagged hne
      refine ⟨h.world, hrun, ?_⟩
      simpa [Custody.after, Ne.symm hj] using ⟨env, hnext⟩
  | forgotten =>
    obtain ⟨env, hh⟩ := hh
    obtain ⟨hrun, hnext⟩ := hh.unflagged (i := i) nofun
    exact ⟨h.world, hrun, env, hnext⟩

/-- Whatever is asked for, the account goes on. -/
theorem Holder.Accounts.follows (hvm : vm.Attaches environment Sound t) (hothers : t ∉ others)
    {e : ScopeEvent ι} (hh : h.Accounts environment Sound rt t others past custody)
    (hmove : h.Follows vm t e h') :
    h'.Accounts environment Sound rt t others (e :: past) (custody.after e) := by
  cases hmove with
  | @attach i _ _ _ hrun =>
    obtain ⟨status, scope, w, hrun', hnext⟩ := hh.attach hvm hothers i
    rw [hrun'] at hrun
    cases hrun
    exact hnext
  | @detach i _ _ hrun =>
    obtain ⟨w, hrun', hnext⟩ := hh.detach hvm i
    rw [hrun'] at hrun
    cases hrun
    exact hnext
  | detachNull hrun =>
    cases hrun
    cases custody with
    | released => exact Account.null hh
    | held j =>
      obtain ⟨env, hh⟩ := hh
      exact ⟨env, hh.null⟩
    | forgotten =>
      obtain ⟨env, hh⟩ := hh
      exact ⟨env, hh.null⟩

/-- The account is kept on every run. -/
theorem Holder.Attained.accounts {w : World (Process μ)} (hvm : vm.Attaches environment Sound t)
    (hattained : Holder.Attained vm t w past h) (hrt : w.backend.bridge.runtime = .ok rt)
    (hsound : Sound w.backend.link.machine) (hdetached : environment w.backend.link.machine = none)
    (hfree : t ∉ w.backend.link.guarded) :
    h.Accounts environment Sound rt t w.backend.link.guarded past (custodyOf past) := by
  induction hattained with
  | start =>
    refine ⟨⟨hrt, hsound, hdetached, rfl⟩, fun _ => rfl, nofun, fun i => ?_, fun i => ?_, nofun⟩
    · simp
    · simp [isOpen]
  | step _ follows ih => exact ih.follows hvm hfree follows

/-- What holds on a thread that was detached at the outset, whatever C code has asked for. -/
structure Holder.Custodial (vm : InvocationInterface μ ε) (environment : μ → Option ε)
    (t : ThreadId) (past : List (ScopeEvent ι)) (h : Holder μ ε ι) : Prop where
  attaches : ∀ i, ∃ status scope w,
    (attachThread vm t (some (h.scopes i))).run h.world = (.ok (status, some scope), w)
  ends : ∀ i, ∃ w, (detachThread vm t (some (h.scopes i))).run h.world = (.ok (some {}), w)
  filled : ∀ i, (h.scopes i).env ≠ none ↔ isOpen i past = true
  flag : ∀ i, (h.scopes i).requireRelease = 0 ∨ (h.scopes i).requireRelease = 1
  flagged : ∀ i, (h.scopes i).requireRelease = 1 ↔ custodyOf past = .held i
  /-- The thread is attached while a structure has to detach it, or none ever will. -/
  attached : (environment h.world.backend.link.machine).isSome ↔
    (∃ i, custodyOf past = .held i) ∨ Forgets past
  /-- Once no structure is open the thread is detached, unless its attachment was forgotten. -/
  settled : (∀ i, isOpen i past = false) →
    (environment h.world.backend.link.machine = none ↔ ¬ Forgets past)

theorem Holder.Accounts.custodial (hvm : vm.Attaches environment Sound t) (hothers : t ∉ others)
    (hh : h.Accounts environment Sound rt t others past (custodyOf past)) :
    h.Custodial vm environment t past := by
  have hattaches (i : ι) : ∃ status scope w,
      (attachThread vm t (some (h.scopes i))).run h.world = (.ok (status, some scope), w) := by
    obtain ⟨status, scope, w, hrun, -⟩ := hh.attach hvm hothers i
    exact ⟨status, scope, w, hrun⟩
  have hends (i : ι) : ∃ w,
      (detachThread vm t (some (h.scopes i))).run h.world = (.ok (some {}), w) := by
    obtain ⟨w, hrun, -⟩ := hh.detach hvm i
    exact ⟨w, hrun⟩
  have hforgets := custodyOf_eq_forgotten_iff past
  cases hcustody : custodyOf past with
  | released =>
    rw [hcustody] at hh hforgets
    have hh : h.Account environment Sound rt t none others past none none := hh
    refine ⟨hattaches, hends, hh.env_ne_none_iff, hh.flag_or, fun i => ?_, ?_, fun _ => ?_⟩
    · simp [hh.flagged_iff, hcustody]
    · simp [hh.status.environment, hcustody, ← hforgets]
    · simp [hh.status.environment, ← hforgets]
  | held j =>
    rw [hcustody] at hh hforgets
    obtain ⟨env, hh⟩ := hh
    refine ⟨hattaches, hends, hh.env_ne_none_iff, hh.flag_or, fun i => ?_, ?_, fun hclosed => ?_⟩
    · simp [hh.flagged_iff, hcustody]
    · simp [hh.status.environment, hcustody]
    · have hopen := hh.ownerOpen j rfl
      rw [hclosed j] at hopen
      cases hopen
  | forgotten =>
    rw [hcustody] at hh hforgets
    obtain ⟨env, hh⟩ := hh
    refine ⟨hattaches, hends, hh.env_ne_none_iff, hh.flag_or, fun i => ?_, ?_, fun _ => ?_⟩
    · simp [hh.flagged_iff, hcustody]
    · simp [hh.status.environment, ← hforgets]
    · simp [hh.status.environment, ← hforgets]

/-- A thread that was detached is detached again once C code has ended all its scopes, unless it
attached a structure once more that had to detach the thread. No order that follows releases such an
attachment. -/
theorem Holder.Attained.detached_unless_forgotten {w : World (Process μ)}
    (hvm : vm.Attaches environment Sound t) (hrt : w.backend.bridge.runtime = .ok rt)
    (hsound : Sound w.backend.link.machine) (hdetached : environment w.backend.link.machine = none)
    (hfree : t ∉ w.backend.link.guarded) (hattained : Holder.Attained vm t w past h) :
    h.Custodial vm environment t past ∧
      (Forgets past → ∀ later h', Holder.Attained vm t w (later ++ past) h' →
        (environment h'.world.backend.link.machine).isSome) := by
  refine ⟨(hattained.accounts hvm hrt hsound hdetached hfree).custodial hvm hfree, ?_⟩
  intro hforgets later h' hlater
  have hcustodial := (hlater.accounts hvm hrt hsound hdetached hfree).custodial hvm hfree
  exact hcustodial.attached.2 (.inr (hforgets.append later))

end Runs

namespace Machine

/-- A structure that is attached twice and detached once is empty, and the thread is still
attached. -/
theorem attachedTwice_forgotten :
    ∃ h : Holder Machine ThreadId Unit,
      Holder.Attained (invocation []) (.worker 0)
        ⟨⟨{ link := ⟨{}, []⟩, bridge := { registry := ⟨some ⟨7, {}⟩⟩ } }, []⟩, .zero⟩
        [.detach (some ()), .attach () 0, .attach () 0] h ∧
      (∀ i, isOpen i [.detach (some ()), .attach () 0, .attach () 0] = false) ∧
      (∀ i, h.scopes i = {}) ∧
      environmentOf (.worker 0) h.world.backend.link.machine = some (.worker 0) := by
  have first := Holder.Attained.start.step
    (Holder.follows_attach () 0 ⟨some (.worker 0), 1⟩ rfl :
      Holder.Follows (invocation []) (.worker 0)
        ⟨⟨⟨{ link := ⟨{}, []⟩, bridge := { registry := ⟨some ⟨7, {}⟩⟩ } }, []⟩, .zero⟩,
          fun _ : Unit => {}⟩ _ _)
  have second := first.step (Holder.follows_attach () 0 ⟨some (.worker 0), 0⟩ rfl)
  have ended := second.step (Holder.follows_detach () {} rfl)
  exact ⟨_, ended, fun _ => rfl, fun _ => rfl, rfl⟩

/-- The structure `false` is refused and then attaches the thread; it is attached again, and no
detaching helps. -/
theorem refilled_forgotten :
    ∃ h : Holder Machine ThreadId Bool,
      Holder.Attained (invocation []) (.worker 0) refusingOnce
        [.detach (some true), .detach (some false), .attach false 0, .attach true 0,
          .attach false 0, .attach false (-1)] h ∧
      h.Custodial (invocation []) (environmentOf (.worker 0)) (.worker 0)
        [.detach (some true), .detach (some false), .attach false 0, .attach true 0,
          .attach false 0, .attach false (-1)] ∧
      (∀ i, h.scopes i = {}) ∧
      environmentOf (.worker 0) h.world.backend.link.machine ≠ none := by
  have refused := Holder.Attained.start.step
    (Holder.follows_attach false (-1) {} rfl :
      Holder.Follows (invocation []) (.worker 0) ⟨refusingOnce, fun _ : Bool => {}⟩ _ _)
  have attached := refused.step (Holder.follows_attach false 0 ⟨some (.worker 0), 1⟩ rfl)
  have reused := attached.step (Holder.follows_attach true 0 ⟨some (.worker 0), 0⟩ rfl)
  have refilled := reused.step (Holder.follows_attach false 0 ⟨some (.worker 0), 0⟩ rfl)
  have ended := refilled.step (Holder.follows_detach false {} rfl)
  have closed := ended.step (Holder.follows_detach true {} rfl)
  have honly : OnlyRefuses refusingOnce.backend.link.machine := by
    intro shot hshot
    obtain rfl := List.mem_singleton.1 hshot
    decide
  have hfree : .worker 0 ∉ refusingOnce.backend.link.guarded := List.not_mem_nil
  have hattaches := invocation_attaches [] (.worker 0)
  obtain ⟨hcustodial, -⟩ := Holder.Attained.detached_unless_forgotten hattaches rfl honly rfl hfree
    closed
  refine ⟨_, closed, hcustodial, ?_, ?_⟩
  · intro i
    cases i <;> rfl
  · intro hnone
    have hclosed : ∀ i, isOpen i [.detach (some true), .detach (some false), .attach false 0,
        .attach true 0, .attach false 0, .attach false (-1)] = false := by decide
    exact (hcustodial.settled hclosed).1 hnone
      ⟨[.detach (some true), .detach (some false)], false, _, rfl, rfl⟩

end Machine

end ManagedBridge.Jvm
