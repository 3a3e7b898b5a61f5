import Mathlib.Logic.Function.Basic
import ManagedBridge.Proofs.Attaching

/-!
# Scopes of C code balance

C code keeps its scopes in structures of its own, and may end them in any order and more than once.
Whether a scope attached the thread is told by nothing but the flag in its structure. Still the
flags keep account of the attachment: a thread is attached by this side exactly while one structure
says so, and it is back where it was once all structures are empty.
-/

namespace ManagedBridge.Jvm

open CInterface Process

variable {μ ε ι : Type}

/-- A process with the structures in which C code keeps its scopes. -/
structure Holder (μ ε ι : Type) where
  world : World (Process μ)
  scopes : ι → Scope ε

/-- What C code has asked for on its thread. -/
inductive ScopeEvent (ι : Type)
  /-- To attach for a structure, with the status that was answered. -/
  | attach (scope : ι) (status : Int)
  /-- To end the scope of a structure, or of a null pointer. -/
  | detach (scope : Option ι)

section Runs

variable [DecidableEq ι] {vm : InvocationInterface μ ε} {environment : μ → Option ε}
  {Sound : μ → Prop} {t : ThreadId} {rt : Runtime}

/-- Whether a structure was attached with success and has not been detached since; of what was asked
for the last comes first. -/
def isOpen (i : ι) : List (ScopeEvent ι) → Bool
  | [] => false
  | .attach j status :: past => if j = i then status = successCode else isOpen i past
  | .detach j? :: past => if j? = some i then false else isOpen i past

/-- One order on a thread. A structure is attached only while it is empty; it is detached at any
time. -/
inductive Holder.Performs (vm : InvocationInterface μ ε) (t : ThreadId) :
    Holder μ ε ι → ScopeEvent ι → Holder μ ε ι → Prop
  | attach {h : Holder μ ε ι} {i : ι} {status : Int} {scope : Scope ε} {w : World (Process μ)}
      (hempty : h.scopes i = {})
      (hrun : (attachThread vm t (some (h.scopes i))).run h.world = (.ok (status, some scope), w)) :
      Performs vm t h (.attach i status) ⟨w, Function.update h.scopes i scope⟩
  | detach {h : Holder μ ε ι} {i : ι} {scope : Scope ε} {w : World (Process μ)}
      (hrun : (detachThread vm t (some (h.scopes i))).run h.world = (.ok (some scope), w)) :
      Performs vm t h (.detach (some i)) ⟨w, Function.update h.scopes i scope⟩
  | detachNull {h : Holder μ ε ι} {w : World (Process μ)}
      (hrun : (detachThread vm t none).run h.world = (.ok none, w)) :
      Performs vm t h (.detach none) ⟨w, h.scopes⟩

theorem Holder.performs_attach {h : Holder μ ε ι} (i : ι) (status : Int) (scope : Scope ε)
    (hempty : h.scopes i = {})
    (hanswer : ((attachThread vm t (some (h.scopes i))).run h.world).1 = .ok (status, some scope)) :
    h.Performs vm t (.attach i status)
      ⟨((attachThread vm t (some (h.scopes i))).run h.world).2,
        Function.update h.scopes i scope⟩ :=
  .attach hempty (Prod.ext hanswer rfl)

theorem Holder.performs_detach {h : Holder μ ε ι} (i : ι) (scope : Scope ε)
    (hanswer : ((detachThread vm t (some (h.scopes i))).run h.world).1 = .ok (some scope)) :
    h.Performs vm t (.detach (some i))
      ⟨((detachThread vm t (some (h.scopes i))).run h.world).2,
        Function.update h.scopes i scope⟩ :=
  .detach (Prod.ext hanswer rfl)

/-- What can be reached on a thread from a process in which all structures are empty. -/
inductive Holder.Reached (vm : InvocationInterface μ ε) (t : ThreadId) (w : World (Process μ)) :
    List (ScopeEvent ι) → Holder μ ε ι → Prop
  | start : Reached vm t w [] ⟨w, fun _ => {}⟩
  | step {past : List (ScopeEvent ι)} {h h' : Holder μ ε ι} {e : ScopeEvent ι}
      (reached : Reached vm t w past h) (performs : h.Performs vm t e h') :
      Reached vm t w (e :: past) h'

/-- The account that the structures keep: which of them has to detach the thread, and what
environment the thread has. At the outset the thread had the environment `outset`, and the process
answered for the threads in `others`. -/
structure Holder.Account (environment : μ → Option ε) (Sound : μ → Prop) (rt : Runtime)
    (t : ThreadId) (outset : Option ε) (others : List ThreadId) (past : List (ScopeEvent ι))
    (h : Holder μ ε ι) (owner : Option ι) (present : Option ε) : Prop where
  status : ThreadStatus environment Sound rt h.world present
    (if owner.isSome then t :: others else others)
  unowned : owner = none → present = outset
  owned : owner.isSome → present.isSome ∧ outset = none
  flag : ∀ i, (h.scopes i).requireRelease = if owner = some i then 1 else 0
  filled : ∀ i, (h.scopes i).env.isSome = isOpen i past
  ownerOpen : ∀ i, owner = some i → isOpen i past = true

section Account

variable {outset present present' : Option ε} {others : List ThreadId}
  {past : List (ScopeEvent ι)} {h : Holder μ ε ι} {owner owner' : Option ι} {i : ι}
  {scope : Scope ε} {w : World (Process μ)} {e : ScopeEvent ι}

/-- The account after one structure has been filled or emptied. -/
theorem Holder.Account.update
    (hh : h.Account environment Sound rt t outset others past owner present)
    (status : ThreadStatus environment Sound rt w present'
      (if owner'.isSome then t :: others else others))
    (unowned : owner' = none → present' = outset)
    (owned : owner'.isSome → present'.isSome ∧ outset = none)
    (flag : scope.requireRelease = if owner' = some i then 1 else 0)
    (filled : scope.env.isSome = isOpen i (e :: past))
    (ownerOpen : owner' = some i → isOpen i (e :: past) = true)
    (elsewhere : ∀ j, j ≠ i →
      (owner' = some j ↔ owner = some j) ∧ isOpen j (e :: past) = isOpen j past) :
    Holder.Account environment Sound rt t outset others (e :: past)
      ⟨w, Function.update h.scopes i scope⟩ owner' present' where
  status := status
  unowned := unowned
  owned := owned
  flag j := by
    by_cases hj : j = i
    · subst hj
      simpa using flag
    · have hother := (elsewhere j hj).1
      simp [hj, hother, hh.flag j]
  filled j := by
    by_cases hj : j = i
    · subst hj
      simpa using filled
    · have hsame := (elsewhere j hj).2
      simp [hj, hsame, hh.filled j]
  ownerOpen j howner := by
    by_cases hj : j = i
    · subst hj
      exact ownerOpen howner
    · obtain ⟨hother, hsame⟩ := elsewhere j hj
      rw [hsame]
      exact hh.ownerOpen j (hother.1 howner)

/-- An empty structure is not open, and does not have to detach the thread. -/
theorem Holder.Account.of_empty
    (hh : h.Account environment Sound rt t outset others past owner present)
    (hempty : h.scopes i = {}) : isOpen i past = false ∧ owner ≠ some i := by
  have hclosed : isOpen i past = false := by
    have hfilled := hh.filled i
    rw [hempty] at hfilled
    exact hfilled.symm
  refine ⟨hclosed, ?_⟩
  intro howner
  rw [hh.ownerOpen i howner] at hclosed
  cases hclosed

/-- No structure has to detach a thread that is detached. -/
theorem Holder.Account.unowned_of_detached
    (hh : h.Account environment Sound rt t outset others past owner none) : owner = none := by
  cases owner with
  | none => rfl
  | some i => simpa using (hh.owned rfl).1

theorem isOpen_attach_of_ne {j : ι} (hj : j ≠ i) (status : Int) (past : List (ScopeEvent ι)) :
    isOpen j (.attach i status :: past) = isOpen j past := by
  simp [isOpen, Ne.symm hj]

theorem isOpen_detach_of_ne {j : ι} (hj : j ≠ i) (past : List (ScopeEvent ι)) :
    isOpen j (.detach (some i) :: past) = isOpen j past := by
  simp [isOpen, Ne.symm hj]

/-- While the thread is attached, a scope makes use of that and has nothing to undo. -/
theorem Holder.Account.reuse (hvm : vm.Attaches environment Sound t) {env : ε}
    (hh : h.Account environment Sound rt t outset others past owner (some env))
    (hne : owner ≠ some i) :
    ∃ w, (attachThread vm t (some (h.scopes i))).run h.world =
        (.ok (successCode, some ⟨some env, 0⟩), w) ∧
      Holder.Account environment Sound rt t outset others (.attach i successCode :: past)
        ⟨w, Function.update h.scopes i ⟨some env, 0⟩⟩ owner (some env) := by
  obtain ⟨w, hrun, hw⟩ := attachThread_reuse hvm hh.status (h.scopes i)
  refine ⟨w, hrun, hh.update hw hh.unowned hh.owned ?_ ?_ ?_ ?_⟩
  · simp [hne]
  · simp [isOpen]
  · intro howner
    exact absurd howner hne
  · intro j hj
    exact ⟨Iff.rfl, isOpen_attach_of_ne hj _ _⟩

/-- While the thread is detached, a scope that is not refused attaches it and has to undo that. -/
theorem Holder.Account.accepted (hvm : vm.Attaches environment Sound t) (hothers : t ∉ others)
    (hh : h.Account environment Sound rt t outset others past owner none)
    (haccepts : ¬ vm.Refuses environment t h.world.backend.link.machine) (i : ι) :
    ∃ env w, (attachThread vm t (some (h.scopes i))).run h.world =
        (.ok (successCode, some ⟨some env, 1⟩), w) ∧
      Holder.Account environment Sound rt t outset others (.attach i successCode :: past)
        ⟨w, Function.update h.scopes i ⟨some env, 1⟩⟩ (some i) (some env) := by
  obtain rfl := hh.unowned_of_detached
  obtain ⟨env, w, hrun, hw⟩ := attachThread_accepted hvm hh.status hothers haccepts (h.scopes i)
  refine ⟨env, w, hrun, hh.update hw ?_ ?_ ?_ ?_ ?_ ?_⟩
  · simp
  · intro _
    exact ⟨rfl, (hh.unowned rfl).symm⟩
  · simp
  · simp [isOpen]
  · simp [isOpen]
  · intro j hj
    simp [Ne.symm hj, isOpen_attach_of_ne hj]

/-- A scope that is refused leaves the account as it was. -/
theorem Holder.Account.refused (hvm : vm.Attaches environment Sound t)
    (hh : h.Account environment Sound rt t outset others past owner present)
    (hrefuses : vm.Refuses environment t h.world.backend.link.machine) (i : ι) :
    ∃ w, (attachThread vm t (some (h.scopes i))).run h.world = (.ok (failureCode, some {}), w) ∧
      Holder.Account environment Sound rt t outset others (.attach i failureCode :: past)
        ⟨w, Function.update h.scopes i {}⟩ owner present := by
  have hdetached : present = none := hh.status.environment.symm.trans hrefuses.1
  subst hdetached
  obtain rfl := hh.unowned_of_detached
  obtain ⟨w, hrun, hw⟩ := attachThread_refused hvm hh.status hrefuses (h.scopes i)
  refine ⟨w, hrun, hh.update hw hh.unowned hh.owned ?_ ?_ ?_ ?_⟩
  · simp
  · simp [isOpen, failureCode, successCode]
  · simp
  · intro j hj
    exact ⟨Iff.rfl, isOpen_attach_of_ne hj _ _⟩

/-- A structure that has nothing to undo is emptied, and nothing else happens. -/
theorem Holder.Account.unflagged
    (hh : h.Account environment Sound rt t outset others past owner present)
    (howner : owner ≠ some i) :
    (detachThread vm t (some (h.scopes i))).run h.world = (.ok (some {}), h.world) ∧
      Holder.Account environment Sound rt t outset others (.detach (some i) :: past)
        ⟨h.world, Function.update h.scopes i {}⟩ owner present := by
  have hflag : (h.scopes i).requireRelease = 0 := by
    rw [hh.flag i, if_neg howner]
  refine ⟨detachThread_unflagged hflag h.world,
    hh.update hh.status hh.unowned hh.owned ?_ ?_ ?_ ?_⟩
  · simp [howner]
  · simp [isOpen]
  · intro hown
    exact absurd hown howner
  · intro j hj
    exact ⟨Iff.rfl, isOpen_detach_of_ne hj _⟩

/-- The structure that has to detach the thread does so, whatever others are still open. -/
theorem Holder.Account.flagged (hvm : vm.Attaches environment Sound t)
    (hh : h.Account environment Sound rt t outset others past (some i) present) :
    ∃ w, (detachThread vm t (some (h.scopes i))).run h.world = (.ok (some {}), w) ∧
      Holder.Account environment Sound rt t outset others (.detach (some i) :: past)
        ⟨w, Function.update h.scopes i {}⟩ none none := by
  have hflag : (h.scopes i).requireRelease = 1 := by
    rw [hh.flag i, if_pos rfl]
  obtain ⟨w, hrun, hw⟩ := detachThread_flagged hvm hflag hh.status
  refine ⟨w, hrun, hh.update hw ?_ ?_ ?_ ?_ ?_ ?_⟩
  · intro _
    exact (hh.owned rfl).2.symm
  · simp
  · simp
  · simp [isOpen]
  · simp
  · intro j hj
    simp [Ne.symm hj, isOpen_detach_of_ne hj]

/-- A null pointer ends nothing. -/
theorem Holder.Account.null
    (hh : h.Account environment Sound rt t outset others past owner present) :
    h.Account environment Sound rt t outset others (.detach none :: past) owner present :=
  ⟨hh.status, hh.unowned, hh.owned, hh.flag, hh.filled, hh.ownerOpen⟩

/-- Whatever is asked for, the account goes on. -/
theorem Holder.Account.performs (hvm : vm.Attaches environment Sound t) (hothers : t ∉ others)
    {h' : Holder μ ε ι}
    (hh : h.Account environment Sound rt t outset others past owner present)
    (hmove : h.Performs vm t e h') :
    ∃ owner' present',
      h'.Account environment Sound rt t outset others (e :: past) owner' present' := by
  cases hmove with
  | attach hempty hrun =>
    cases present with
    | some env =>
      obtain ⟨w', hrun', hnext⟩ := hh.reuse hvm (hh.of_empty hempty).2
      rw [hrun'] at hrun
      cases hrun
      exact ⟨owner, some env, hnext⟩
    | none =>
      by_cases hrefuses : vm.Refuses environment t h.world.backend.link.machine
      · obtain ⟨w', hrun', hnext⟩ := hh.refused hvm hrefuses _
        rw [hrun'] at hrun
        cases hrun
        exact ⟨owner, none, hnext⟩
      · obtain ⟨env, w', hrun', hnext⟩ := hh.accepted hvm hothers hrefuses _
        rw [hrun'] at hrun
        cases hrun
        exact ⟨_, some env, hnext⟩
  | @detach i _ _ hrun =>
    by_cases howner : owner = some i
    · subst howner
      obtain ⟨w', hrun', hnext⟩ := hh.flagged hvm
      rw [hrun'] at hrun
      cases hrun
      exact ⟨none, none, hnext⟩
    · obtain ⟨hrun', hnext⟩ := hh.unflagged howner
      rw [hrun'] at hrun
      cases hrun
      exact ⟨owner, present, hnext⟩
  | detachNull hrun =>
    cases hrun
    exact ⟨owner, present, hh.null⟩

end Account

/-- An account is kept on every run. -/
theorem Holder.Reached.account {w : World (Process μ)} {past : List (ScopeEvent ι)}
    {h : Holder μ ε ι} (hvm : vm.Attaches environment Sound t)
    (hreached : Holder.Reached vm t w past h) (hrt : w.backend.bridge.runtime = .ok rt)
    (hsound : Sound w.backend.link.machine) (hfree : t ∉ w.backend.link.guarded) :
    ∃ owner present, h.Account environment Sound rt t
      (environment w.backend.link.machine) w.backend.link.guarded past owner present := by
  induction hreached with
  | start =>
    refine ⟨none, _, ⟨⟨hrt, hsound, rfl, rfl⟩, ?_, ?_, ?_, ?_, ?_⟩⟩
    · simp
    · simp
    · simp
    · simp [isOpen]
    · simp
  | step _ performs ih =>
    obtain ⟨owner, present, hh⟩ := ih
    exact hh.performs hvm hfree performs

/-- What holds on a thread whenever C code has begun and ended scopes in whatever order, if the
thread had the environment `outset` before. -/
structure Holder.Balanced (vm : InvocationInterface μ ε) (environment : μ → Option ε) (t : ThreadId)
    (outset : Option ε) (past : List (ScopeEvent ι)) (h : Holder μ ε ι) : Prop where
  flag : ∀ i, (h.scopes i).requireRelease = 0 ∨ (h.scopes i).requireRelease = 1
  single : ∀ i j, (h.scopes i).requireRelease = 1 → (h.scopes j).requireRelease = 1 → i = j
  /-- The process answers for the attachment of the thread exactly while a structure is flagged. -/
  answers : (t ∈ h.world.backend.link.guarded ∧
    (environment h.world.backend.link.machine).isSome) ↔ ∃! i, (h.scopes i).requireRelease = 1
  /-- A thread that was detached is attached for no other reason. -/
  attached : outset = none → ((environment h.world.backend.link.machine).isSome ↔
    ∃! i, (h.scopes i).requireRelease = 1)
  /-- What someone else attached is never detached. -/
  foreign : ∀ env, outset = some env → environment h.world.backend.link.machine = some env
  filled : ∀ i, (h.scopes i).env ≠ none ↔ isOpen i past = true
  settled : (∀ i, h.scopes i = {}) → environment h.world.backend.link.machine = outset ∧
    t ∉ h.world.backend.link.guarded
  /-- A refused attachment answers so, leaves the structure empty and the thread detached. -/
  refused : ∀ i, h.scopes i = {} → vm.Refuses environment t h.world.backend.link.machine →
    ∃ w, (attachThread vm t (some (h.scopes i))).run h.world = (.ok (-1, some {}), w) ∧
      environment w.backend.link.machine = none
  /-- Any other attachment fills the structure with the environment of the thread. -/
  granted : ∀ i, h.scopes i = {} → ¬ vm.Refuses environment t h.world.backend.link.machine →
    ∃ env flag w, (attachThread vm t (some (h.scopes i))).run h.world =
        (.ok (0, some ⟨some env, flag⟩), w) ∧
      environment w.backend.link.machine = some env
  ends : ∀ i, ∃ w, (detachThread vm t (some (h.scopes i))).run h.world = (.ok (some {}), w)
  /-- To detach a structure again changes nothing at all. -/
  again : ∀ i, h.scopes i = {} →
    (detachThread vm t (some (h.scopes i))).run h.world = (.ok (some {}), h.world)
  null : (detachThread vm t (none : Option (Scope ε))).run h.world = (.ok none, h.world)

section Balance

variable {outset present : Option ε} {others : List ThreadId} {past : List (ScopeEvent ι)}
  {h : Holder μ ε ι} {owner : Option ι}

theorem Holder.Account.flagged_iff
    (hh : h.Account environment Sound rt t outset others past owner present) (i : ι) :
    (h.scopes i).requireRelease = 1 ↔ owner = some i := by
  by_cases howner : owner = some i <;> simp [hh.flag i, howner]

theorem Holder.Account.flag_or
    (hh : h.Account environment Sound rt t outset others past owner present) (i : ι) :
    (h.scopes i).requireRelease = 0 ∨ (h.scopes i).requireRelease = 1 := by
  by_cases howner : owner = some i <;> simp [hh.flag i, howner]

theorem Holder.Account.env_ne_none_iff
    (hh : h.Account environment Sound rt t outset others past owner present) (i : ι) :
    (h.scopes i).env ≠ none ↔ isOpen i past = true := by
  rw [← hh.filled i, Option.isSome_iff_ne_none]

theorem Holder.Account.existsUnique_flagged
    (hh : h.Account environment Sound rt t outset others past owner present) :
    (∃! i, (h.scopes i).requireRelease = 1) ↔ owner.isSome := by
  simp only [hh.flagged_iff]
  constructor
  · rintro ⟨i, rfl, -⟩
    rfl
  · intro hsome
    obtain ⟨i, rfl⟩ := Option.isSome_iff_exists.1 hsome
    exact ⟨i, rfl, fun j hj => (Option.some.inj hj).symm⟩

theorem Holder.Account.mem_guarded_iff (hothers : t ∉ others)
    (hh : h.Account environment Sound rt t outset others past owner present) :
    t ∈ h.world.backend.link.guarded ↔ owner.isSome := by
  rw [hh.status.guarded]
  by_cases howner : owner.isSome <;> simp [howner, hothers]

theorem Holder.Account.balanced (hvm : vm.Attaches environment Sound t) (hothers : t ∉ others)
    (hh : h.Account environment Sound rt t outset others past owner present) :
    h.Balanced vm environment t outset past where
  flag := hh.flag_or
  single i j hi hj := by
    have howner := (hh.flagged_iff i).1 hi
    rw [(hh.flagged_iff j).1 hj] at howner
    exact (Option.some.inj howner).symm
  answers := by
    rw [hh.mem_guarded_iff hothers, hh.existsUnique_flagged, hh.status.environment]
    constructor
    · exact And.left
    · intro hsome
      exact ⟨hsome, (hh.owned hsome).1⟩
  attached hdetached := by
    rw [hh.existsUnique_flagged, hh.status.environment]
    constructor
    · intro hpresent
      by_contra howner
      rw [hh.unowned (Option.not_isSome_iff_eq_none.1 howner), hdetached] at hpresent
      cases hpresent
    · intro hsome
      exact (hh.owned hsome).1
  foreign env houtset := by
    have hunowned : owner = none := by
      by_contra howner
      have hdetached := (hh.owned (Option.isSome_iff_ne_none.2 howner)).2
      rw [houtset] at hdetached
      cases hdetached
    rw [hh.status.environment, hh.unowned hunowned, houtset]
  filled := hh.env_ne_none_iff
  settled hempty := by
    have hunowned : owner = none := by
      by_contra howner
      obtain ⟨i, rfl⟩ := Option.ne_none_iff_exists'.1 howner
      exact (hh.of_empty (hempty i)).2 rfl
    rw [hh.status.environment, hh.mem_guarded_iff hothers, hunowned]
    exact ⟨hh.unowned hunowned, by simp⟩
  refused i hempty hrefuses := by
    obtain ⟨w, hrun, hnext⟩ := hh.refused hvm hrefuses _
    have hdetached : present = none := hh.status.environment.symm.trans hrefuses.1
    exact ⟨w, hrun, hnext.status.environment.trans hdetached⟩
  granted i hempty haccepts := by
    cases present with
    | some env =>
      obtain ⟨w, hrun, hnext⟩ := hh.reuse hvm (hh.of_empty hempty).2
      exact ⟨env, 0, w, hrun, hnext.status.environment⟩
    | none =>
      obtain ⟨env, w, hrun, hnext⟩ := hh.accepted hvm hothers haccepts i
      exact ⟨env, 1, w, hrun, hnext.status.environment⟩
  ends i := by
    by_cases howner : owner = some i
    · subst howner
      obtain ⟨w, hrun, -⟩ := hh.flagged hvm
      exact ⟨w, hrun⟩
    · exact ⟨h.world, (hh.unflagged howner).1⟩
  again i hempty := (hh.unflagged (hh.of_empty hempty).2).1
  null := rfl

end Balance

/-- C code may begin scopes on a thread in structures that are empty, and end them in any order and
any number of times, on a thread that is detached or that someone else has attached: the structures
and the thread stay in balance, whatever attachments are refused. -/
theorem Holder.Reached.stays_balanced {w : World (Process μ)} {past : List (ScopeEvent ι)}
    {h : Holder μ ε ι} (hvm : vm.Attaches environment Sound t)
    (hrt : w.backend.bridge.runtime = .ok rt) (hsound : Sound w.backend.link.machine)
    (hfree : t ∉ w.backend.link.guarded) (hreached : Holder.Reached vm t w past h) :
    h.Balanced vm environment t (environment w.backend.link.machine) past := by
  obtain ⟨owner, present, hh⟩ := hreached.account hvm hrt hsound hfree
  exact hh.balanced hvm hfree

end Runs

namespace Machine

/-- A process with a started bridge, on a machine that refuses to attach a thread once. -/
def refusingOnce : World (Process Machine) :=
  ⟨⟨{ link := ⟨{ faults := [⟨"AttachCurrentThread", 0, { code := -1 }⟩] }, []⟩
      bridge := { registry := ⟨some ⟨7, {}⟩⟩ } }, []⟩, .zero⟩

/-- The structure `false` is refused, then attaches the thread; `true` makes use of that and is
still open when `false` detaches the thread. -/
theorem outOfOrder_balanced :
    ∃ h : Holder Machine ThreadId Bool,
      Holder.Reached (invocation []) (.worker 0) refusingOnce
        [.detach (some false), .attach true 0, .attach false 0, .attach false (-1)] h ∧
      h.Balanced (invocation []) (environmentOf (.worker 0)) (.worker 0) none
        [.detach (some false), .attach true 0, .attach false 0, .attach false (-1)] ∧
      h.scopes true = ⟨some (.worker 0), 0⟩ ∧
      environmentOf (.worker 0) h.world.backend.link.machine = none := by
  have refused := Holder.Reached.start.step
    (Holder.performs_attach false (-1) {} rfl rfl :
      Holder.Performs (invocation []) (.worker 0) ⟨refusingOnce, fun _ : Bool => {}⟩ _ _)
  have attached := refused.step (Holder.performs_attach false 0 ⟨some (.worker 0), 1⟩ rfl rfl)
  have reused := attached.step (Holder.performs_attach true 0 ⟨some (.worker 0), 0⟩ rfl rfl)
  have detached := reused.step (Holder.performs_detach false {} rfl)
  have honly : OnlyRefuses refusingOnce.backend.link.machine := by
    intro shot hshot
    obtain rfl := List.mem_singleton.1 hshot
    decide
  have hfree : .worker 0 ∉ refusingOnce.backend.link.guarded := List.not_mem_nil
  have hattaches := invocation_attaches [] (.worker 0)
  exact ⟨_, detached, Holder.Reached.stays_balanced hattaches rfl honly hfree detached, rfl, rfl⟩

end Machine

end ManagedBridge.Jvm
