import ManagedBridge.Proofs.Occupancy

/-!
# Guards of one thread

A thread enters scopes of one runtime and keeps a guard for each; the guards are dropped in any
order. Whether a guard's context can still be used is then settled by the other guards: it can as
long as the guard that attached the thread is live, or the thread was attached by someone else. So
every live guard is good while guards are dropped in the opposite order of entering, and not
otherwise.
-/

namespace ManagedBridge

open InProcess

namespace Installation

/-- What is done with the guards of a thread, of which the newest is at position 0. -/
inductive GuardStep
  | enter
  | drop (position : Nat)
  deriving DecidableEq, Repr

variable {ρ ι : Type} [DecidableEq ρ]

/-- Takes a step, and gives the guards that are live after it. -/
def GuardStep.run [Memory] [DecidableEq ι] (r : ρ) (t : ThreadId) (guards : List (EnteredScope ρ)) :
    GuardStep → Act (Installation ρ ι) (List (EnteredScope ρ))
  | enter => do
    match ← (Deed.enter r).act t with
    | .error _ => return guards
    | .ok attachment => return ⟨r, t, attachment⟩ :: guards
  | drop position => do
    match guards[position]? with
    | none => return guards
    | some guard =>
      (Deed.exit guard false).act t
      return guards.eraseIdx position

/-- Takes the steps one after the other, and gives the guards that are live in the end. -/
def runGuards [Memory] [DecidableEq ι] (r : ρ) (t : ThreadId) :
    List GuardStep → List (EnteredScope ρ) → Act (Installation ρ ι) (List (EnteredScope ρ))
  | [], guards => return guards
  | step :: steps, guards => do
    let left ← step.run r t guards
    runGuards r t steps left

/-- The thread stands with the runtime as its guards have it, and as `outside` without them. -/
structure Guarded (outside : Standing) (r : ρ) (t : ThreadId) (s : Installation ρ ι)
    (guards : List (EnteredScope ρ)) : Prop where
  unlocked : (s.ledger r).poisoned = false
  owner : ∀ guard ∈ guards, guard.runtime = r ∧ guard.thread = t
  single : attachmentsOf r t guards ≤ 1
  standing : (s.ledger r).standing t = if attachmentsOf r t guards = 0 then outside else .scoped
  attaches : attachmentsOf r t guards ≠ 0 → outside = .detached

/-- The oldest guard is the one that attached the thread, if one had to. -/
def Stacked (outside : Standing) (guards : List (EnteredScope ρ)) : Prop :=
  outside = .detached → ∀ oldest, guards.getLast? = some oldest → oldest.attachment.created = true

section Steps

variable {outside : Standing} {r : ρ} {t : ThreadId} {w : World (Installation ρ ι)}
  {guards : List (EnteredScope ρ)}

theorem Guarded.standing_eq_detached {s : Installation ρ ι} (h : Guarded outside r t s guards) :
    (s.ledger r).standing t = .detached ↔ outside = .detached ∧ attachmentsOf r t guards = 0 := by
  rw [h.standing]
  split <;> simp [*]

/-- The thread was attached for a scope exactly if a live guard did it. -/
theorem Guarded.attachmentsOf_ne_zero {s : Installation ρ ι} (h : Guarded outside r t s guards) :
    attachmentsOf r t guards ≠ 0 ↔ ∃ guard ∈ guards, guard.attachment.created = true := by
  rw [← Nat.pos_iff_ne_zero, attachmentsOf, List.countP_pos_iff]
  refine exists_congr fun guard => and_congr_right fun hguard => ?_
  obtain ⟨hr, ht⟩ := h.owner guard hguard
  simp [hr, ht]

theorem Guarded.start {s : Installation ρ ι} (hopen : (s.ledger r).poisoned = false) :
    Guarded ((s.ledger r).standing t) r t s [] where
  unlocked := hopen
  owner := by simp
  single := by simp [attachmentsOf]
  standing := by simp [attachmentsOf]
  attaches := by simp [attachmentsOf]

omit [DecidableEq ρ] in
theorem Stacked.cons {guard : EnteredScope ρ} (h : Stacked outside guards)
    (hfirst : outside = .detached → guards = [] → guard.attachment.created = true) :
    Stacked outside (guard :: guards) := by
  intro hdetached oldest holdest
  cases guards with
  | nil =>
    obtain rfl : guard = oldest := by simpa using holdest
    exact hfirst hdetached rfl
  | cons next rest => exact h hdetached oldest (by simpa using holdest)

omit [DecidableEq ρ] in
theorem Stacked.tail {guard : EnteredScope ρ} (h : Stacked outside (guard :: guards)) :
    Stacked outside guards := by
  intro hdetached oldest holdest
  cases guards with
  | nil => simp at holdest
  | cons next rest => exact h hdetached oldest (by simpa using holdest)

/-- On an attached thread a new guard adds nothing to what holds the thread. -/
theorem Guarded.enter_reused {s : Installation ρ ι} (h : Guarded outside r t s guards) :
    Guarded outside r t s (⟨r, t, ⟨false⟩⟩ :: guards) where
  unlocked := h.unlocked
  owner := by simpa using h.owner
  single := by simpa using h.single
  standing := by simpa using h.standing
  attaches := by simpa using h.attaches

theorem Guarded.enter_attached {s : Installation ρ ι} (h : Guarded outside r t s guards)
    (hdetached : (s.ledger r).standing t = .detached) :
    Guarded outside r t (s.onRuntime r (·.attached t)) (⟨r, t, ⟨true⟩⟩ :: guards) := by
  obtain ⟨houtside, hcount⟩ := h.standing_eq_detached.mp hdetached
  refine ⟨?_, by simpa using h.owner, by simp [hcount], ?_, fun _ => houtside⟩
  · rw [ledger_attached hdetached, Function.update_self]
    exact h.unlocked
  · rw [ledger_attached hdetached, Function.update_self]
    simp [Ledger.attach, Ledger.stand]

/-- A guard that is dropped is counted no more. -/
theorem attachmentsOf_eraseIdx {position : Nat} {guard : EnteredScope ρ}
    (h : guards[position]? = some guard) :
    attachmentsOf r t guards = attachmentsOf r t (guards.eraseIdx position) +
      if guard.runtime = r ∧ guard.thread = t ∧ guard.attachment.created then 1 else 0 := by
  obtain ⟨hlt, rfl⟩ := List.getElem?_eq_some_iff.mp h
  rw [← attachmentsOf_cons]
  exact ((List.getElem_cons_eraseIdx_perm hlt).countP_eq _).symm

theorem Guarded.drop_reused {s : Installation ρ ι} (h : Guarded outside r t s guards)
    {position : Nat} (hguard : guards[position]? = some ⟨r, t, ⟨false⟩⟩) :
    Guarded outside r t s (guards.eraseIdx position) := by
  have hcount := attachmentsOf_eraseIdx (r := r) (t := t) hguard
  simp only [Bool.false_eq_true, and_false, if_false, Nat.add_zero] at hcount
  refine ⟨h.unlocked, fun guard hmem => h.owner guard (List.mem_of_mem_eraseIdx hmem), ?_, ?_, ?_⟩
  · rw [← hcount]; exact h.single
  · rw [← hcount]; exact h.standing
  · rw [← hcount]; exact h.attaches

/-- Without the guard that attached it, the thread stands as it did outside. -/
theorem Guarded.drop_created {s : Installation ρ ι} (h : Guarded outside r t s guards)
    {position : Nat} (hguard : guards[position]? = some ⟨r, t, ⟨true⟩⟩) :
    (s.ledger r).standing t = .scoped ∧
      Guarded outside r t (s.onRuntime r (·.detached t)) (guards.eraseIdx position) := by
  have hcount := attachmentsOf_eraseIdx (r := r) (t := t) hguard
  have hsingle := h.single
  simp only [and_self, if_true] at hcount
  have hleft : attachmentsOf r t (guards.eraseIdx position) = 0 := by omega
  refine ⟨?_, ?_, ?_, by omega, ?_, by simp [hleft]⟩
  · rw [h.standing, if_neg (by omega)]
  · rw [ledger_detached, Function.update_self]
    exact h.unlocked
  · exact fun guard hmem => h.owner guard (List.mem_of_mem_eraseIdx hmem)
  · rw [ledger_detached, Function.update_self, hleft, h.attaches (by omega)]
    simp [Ledger.detach, Ledger.stand]

/-- Dropping any live guard returns. -/
theorem run_drop_guarded (h : Guarded outside r t w.backend guards) {position : Nat}
    {guard : EnteredScope ρ} (hguard : guards[position]? = some guard) :
    ∃ v, (Attachment.exit (managedRuntime guard.thread guard.runtime) guard.attachment).run w =
      (.ok (), v) ∧ Guarded outside r t v.backend (guards.eraseIdx position) := by
  obtain ⟨q, u, ⟨created⟩⟩ := guard
  obtain ⟨hq, hu⟩ := h.owner _ (List.mem_of_getElem? hguard)
  dsimp only at hq hu
  subst hq hu
  cases created with
  | false => exact ⟨w, Attachment.run_exit_reused, h.drop_reused hguard⟩
  | true =>
    obtain ⟨hscoped, hleft⟩ := h.drop_created hguard
    exact ⟨_, run_exit_created h.unlocked hscoped, hleft⟩

variable [DecidableEq ι]

/-- Entering returns, and the thread stands as the guards have it then; the oldest guard stays the
one that attached it. -/
theorem run_enter_guarded [Memory] (h : Guarded outside r t w.backend guards) :
    ∃ left v, (GuardStep.enter.run r t guards : Act (Installation ρ ι) _).run w = (.ok left, v) ∧
      Guarded outside r t v.backend left ∧ (Stacked outside guards → Stacked outside left) := by
  by_cases hdetached : (w.backend.ledger r).standing t = .detached
  · cases hreject : (w.backend.runtimes r).runtime.rejectAttach with
    | true =>
      have hrun : ((Deed.enter r : Deed ρ ι _).act t).run w = (.ok (.error _), _) :=
        Deed.run_enter (run_enter_refused h.unlocked hdetached hreject)
      exact ⟨guards, _, Routine.run_bind_ok hrun _, h, id⟩
    | false =>
      have hrun : ((Deed.enter r : Deed ρ ι _).act t).run w = (.ok (.ok ⟨true⟩), _) :=
        Deed.run_enter (run_enter_attach h.unlocked hdetached hreject)
      refine ⟨_, _, Routine.run_bind_ok hrun _, h.enter_attached hdetached, ?_⟩
      exact fun hstacked => hstacked.cons fun _ _ => rfl
  · have hrun : ((Deed.enter r : Deed ρ ι _).act t).run w = (.ok (.ok ⟨false⟩), _) :=
      Deed.run_enter (run_enter_reuse h.unlocked hdetached)
    refine ⟨_, _, Routine.run_bind_ok hrun _, h.enter_reused, fun hstacked => ?_⟩
    refine hstacked.cons fun houtside hnil => absurd ?_ hdetached
    exact h.standing_eq_detached.mpr ⟨houtside, by rw [hnil]; rfl⟩

/-- One step returns, and the thread stands as the guards have it then; the oldest guard stays the
one that attached it while only the newest is dropped. -/
theorem run_step_guarded [Memory] (h : Guarded outside r t w.backend guards) (step : GuardStep) :
    ∃ left v, (step.run r t guards : Act (Installation ρ ι) _).run w = (.ok left, v) ∧
      Guarded outside r t v.backend left ∧
      ((∀ position, step = .drop position → position = 0) → Stacked outside guards →
        Stacked outside left) := by
  cases step with
  | enter =>
    obtain ⟨left, v, hrun, hleft, hstacked⟩ := run_enter_guarded h
    exact ⟨left, v, hrun, hleft, fun _ => hstacked⟩
  | drop position =>
    have hstacked : (∀ p, GuardStep.drop position = .drop p → p = 0) → Stacked outside guards →
        Stacked outside (guards.eraseIdx position) := by
      intro hnested hstacked
      obtain rfl := hnested position rfl
      cases guards with
      | nil => exact hstacked
      | cons guard rest => exact hstacked.tail
    cases hguard : guards[position]? with
    | none =>
      refine ⟨guards, w, ?_, h, fun _ => id⟩
      simp only [GuardStep.run, hguard, Routine.run_pure]
    | some guard =>
      obtain ⟨v, hrun, hleft⟩ := run_drop_guarded h hguard
      have ht := (h.owner guard (List.mem_of_getElem? hguard)).2
      rw [ht] at hrun
      refine ⟨_, v, ?_, hleft, hstacked⟩
      simp only [GuardStep.run, hguard]
      exact Routine.run_bind_ok hrun _

theorem runGuards_guarded [Memory] (h : Guarded outside r t w.backend guards)
    (steps : List GuardStep) :
    ∃ left v, (runGuards r t steps guards).run w = (.ok left, v) ∧
      Guarded outside r t v.backend left ∧
      ((∀ position, .drop position ∈ steps → position = 0) → Stacked outside guards →
        Stacked outside left) := by
  induction steps generalizing w guards with
  | nil => exact ⟨guards, w, rfl, h, fun _ => id⟩
  | cons step steps ih =>
    obtain ⟨middle, u, hstep, hmiddle, hstacked⟩ := run_step_guarded h step
    obtain ⟨left, v, hrun, hleft, hrest⟩ := ih hmiddle
    refine ⟨left, v, (Routine.run_bind_ok hstep _).trans hrun, hleft, fun hnested hguards => ?_⟩
    refine hrest (fun position hmem => hnested position (.tail _ hmem)) (hstacked ?_ hguards)
    rintro position rfl
    exact hnested position (.head _)

/-- A context of a thread that is not attached is refused with a panic. -/
theorem run_drain_detached [Memory] (hopen : (w.backend.ledger r).poisoned = false)
    (hdetached : (w.backend.ledger r).standing t = .detached) :
    ∃ v, (use (r, t) (.drain : ContextUse ι Bool)).run w =
      (.error (.raised usedAfterDetach), v) := by
  have hpending : (context (r, t)).exceptionPending.run w.toSite =
      (.error (.raised usedAfterDetach),
        { w.toSite with backend := w.backend.onRuntime r ({ · with poisoned := true }) }) :=
    run_zoom (Context.run_exceptionPending_detached hopen hdetached)
  have hlifted := Call.run_monadLift (context (r, t)).exceptionPending w
  rw [hpending] at hlifted
  exact ⟨_, Routine.run_bind_error hlifted _⟩

end Steps

section Validity

variable [DecidableEq ι] {r : ρ} {t : ThreadId} {w : World (Installation ρ ι)}

/-- Guards that are entered and dropped in any order never panic. A live guard's context can be used
exactly while the thread is attached from outside or the guard that attached it is live; guards that
are dropped newest first leave every other guard good. -/
theorem guards_valid_iff [Memory] (hopen : (w.backend.ledger r).poisoned = false)
    (hstart : (w.backend.ledger r).standing t ≠ .scoped) (steps : List GuardStep) :
    ∃ guards v, (runGuards r t steps []).run w = (.ok guards, v) ∧
      ((v.backend.ledger r).standing t ≠ .detached ↔
        (w.backend.ledger r).standing t = .external ∨
          ∃ guard ∈ guards, guard.attachment.created = true) ∧
      ((v.backend.ledger r).standing t ≠ .detached →
        ∀ {α : Type} (what : ContextUse ι α), ∃ a u, (use (r, t) what).run v = (.ok a, u)) ∧
      ((v.backend.ledger r).standing t = .detached →
        ∃ u, (use (r, t) (.drain : ContextUse ι Bool)).run v =
          (.error (.raised usedAfterDetach), u)) ∧
      ((∀ position, .drop position ∈ steps → position = 0) → guards ≠ [] →
        (v.backend.ledger r).standing t ≠ .detached) := by
  obtain ⟨guards, v, hrun, hguards, hnested⟩ := runGuards_guarded (Guarded.start hopen) steps
  refine ⟨guards, v, hrun, ?_, fun hattached _ what => ?_, ?_, fun hsteps hlive => ?_⟩
  · rw [← hguards.attachmentsOf_ne_zero, ne_eq, hguards.standing_eq_detached]
    rcases hstanding : (w.backend.ledger r).standing t with _ | _ | _
    · simp
    · simp
    · exact absurd hstanding hstart
  · obtain ⟨a, u, hused, -⟩ := run_use hguards.unlocked hattached what
    exact ⟨a, u, hused⟩
  · exact run_drain_detached hguards.unlocked
  · intro hdetached
    obtain ⟨houtside, hcount⟩ := hguards.standing_eq_detached.mp hdetached
    have hstacked := hnested hsteps (fun _ _ hnone => by simp at hnone)
    obtain ⟨oldest, holdest⟩ := List.getLast?_isSome.mpr hlive |> Option.isSome_iff_exists.mp
    have hcreated := hstacked houtside oldest holdest
    have hmem := List.mem_of_getLast? holdest
    exact hguards.attachmentsOf_ne_zero.mpr ⟨oldest, hmem, hcreated⟩ hcount

/-- Two guards, of which the newer is dropped: the older one attached the thread, and is good. -/
theorem guards_valid_iff_nested :
    ∃ guards, ∃ v : World (Installation Unit Unit),
      (runGuards () (.worker 0) [.enter, .enter, .drop 0] []).run
        ⟨⟨⟨fun _ => {}, fun _ => {}⟩, []⟩, .zero⟩ = (.ok guards, v) ∧
      (v.backend.ledger ()).standing (.worker 0) ≠ .detached := by
  obtain ⟨guards, v, hrun, -, -, -, hnested⟩ := guards_valid_iff (ι := Unit) (r := ())
    (t := .worker 0) (w := ⟨⟨⟨fun _ => {}, fun _ => {}⟩, []⟩, .zero⟩) rfl nofun
    [.enter, .enter, .drop 0]
  refine ⟨guards, v, hrun, hnested (by simp) ?_⟩
  cases hrun
  simp

/-- Two guards, of which the older is dropped: it attached the thread, which is detached now, and
the newer guard is live with a context that no call may use. -/
theorem live_guard_used_after_detach :
    ∃ guard, ∃ v u : World (Installation Unit Unit),
      (runGuards () (.worker 0) [.enter, .enter, .drop 1] []).run
        ⟨⟨⟨fun _ => {}, fun _ => {}⟩, []⟩, .zero⟩ = (.ok [guard], v) ∧
      (v.backend.ledger guard.runtime).standing guard.thread = .detached ∧
      (use (guard.runtime, guard.thread) (.drain : ContextUse Unit Bool)).run v =
        (.error (.raised usedAfterDetach), u) :=
  ⟨⟨(), .worker 0, ⟨false⟩⟩, _, _, rfl, rfl, rfl⟩

end Validity

end Installation

end ManagedBridge
