import Mathlib.Data.List.Perm.Basic
import ManagedBridge.Proofs.Changes

/-!
# Scopes in any order

Threads enter and leave scopes of any number of runtimes, in any order, nested or not, and in
between use contexts, change flags and are attached by others. The scopes that are live or lost
account for the ledgers: a thread is attached for a scope if and only if one of them attached it,
and every attachment was to be undone or belongs to a live scope. In a run of orderly deeds no scope
is lost, since whatever is left next, its runtime does not panic.
-/

namespace ManagedBridge.Installation

open InProcess

variable {ρ ι : Type} [DecidableEq ρ]

/-- How many scopes attached the thread to the runtime. -/
def attachmentsOf (r : ρ) (t : ThreadId) (scopes : List (EnteredScope ρ)) : Nat :=
  scopes.countP fun scope => scope.runtime = r ∧ scope.thread = t ∧ scope.attachment.created

/-- How many scopes attached a thread to the runtime. -/
def attachments (r : ρ) (scopes : List (EnteredScope ρ)) : Nat :=
  scopes.countP fun scope => scope.runtime = r ∧ scope.attachment.created

/-- The scopes account for the ledgers. -/
structure Accounted (ledger : ρ → Ledger) (scopes : Scopes ρ) : Prop where
  attachmentsOf_eq : ∀ r t, attachmentsOf r t scopes.live + attachmentsOf r t scopes.lost =
    if (ledger r).standing t = .scoped then 1 else 0
  attachCalls_eq : ∀ r,
    (ledger r).attachCalls = (ledger r).detachCalls + attachments r scopes.live

section Counting

variable {scopes : List (EnteredScope ρ)} (scope : EnteredScope ρ) (r : ρ) (t : ThreadId)

@[simp] theorem attachmentsOf_cons :
    attachmentsOf r t (scope :: scopes) = attachmentsOf r t scopes +
      if scope.runtime = r ∧ scope.thread = t ∧ scope.attachment.created then 1 else 0 := by
  simp only [attachmentsOf, List.countP_cons, decide_eq_true_eq]

@[simp] theorem attachments_cons :
    attachments r (scope :: scopes) = attachments r scopes +
      if scope.runtime = r ∧ scope.attachment.created then 1 else 0 := by
  simp only [attachments, List.countP_cons, decide_eq_true_eq]

variable {scope} (h : scope ∈ scopes)
include h

/-- A scope that is left is counted no more. -/
theorem attachmentsOf_erase :
    attachmentsOf r t scopes = attachmentsOf r t (scopes.erase scope) +
      if scope.runtime = r ∧ scope.thread = t ∧ scope.attachment.created then 1 else 0 := by
  rw [← attachmentsOf_cons]
  exact (List.perm_cons_erase h).countP_eq _

theorem attachments_erase :
    attachments r scopes = attachments r (scopes.erase scope) +
      if scope.runtime = r ∧ scope.attachment.created then 1 else 0 := by
  rw [← attachments_cons]
  exact (List.perm_cons_erase h).countP_eq _

end Counting

namespace Accounted

variable {ledger : ρ → Ledger} {scopes : Scopes ρ} {r : ρ} {t : ThreadId}

theorem of_fresh (fresh : ∀ r, ledger r = Runtime.ledger {}) : Accounted ledger {} where
  attachmentsOf_eq r t := by rw [fresh r]; rfl
  attachCalls_eq r := by rw [fresh r]; rfl

/-- The thread of a live scope that attached it is attached for that scope, which is the only one to
have attached it. -/
theorem standing_of_created (h : Accounted ledger scopes)
    (hmem : ⟨r, t, ⟨true⟩⟩ ∈ scopes.live) : (ledger r).standing t = .scoped := by
  have hcount := h.attachmentsOf_eq r t
  rw [attachmentsOf_erase r t hmem] at hcount
  by_contra hstanding
  simp [hstanding] at hcount

theorem enter_reused (h : Accounted ledger scopes) :
    Accounted ledger (scopes.enter ⟨r, t, ⟨false⟩⟩) where
  attachmentsOf_eq q u := by simpa [Scopes.enter] using h.attachmentsOf_eq q u
  attachCalls_eq q := by simpa [Scopes.enter] using h.attachCalls_eq q

/-- Leaving a scope that attached nothing changes nothing. -/
theorem exit_reused (h : Accounted ledger scopes) (hmem : ⟨r, t, ⟨false⟩⟩ ∈ scopes.live) :
    Accounted ledger (scopes.leave ⟨r, t, ⟨false⟩⟩) where
  attachmentsOf_eq q u := by
    rw [← h.attachmentsOf_eq q u, attachmentsOf_erase q u hmem]
    simp [Scopes.leave]
  attachCalls_eq q := by
    rw [h.attachCalls_eq q, attachments_erase q hmem]
    simp [Scopes.leave]

/-- With one ledger changed at one thread, the scopes account for the ledgers if they do so there
and are counted elsewhere as before. -/
theorem update (h : Accounted ledger scopes) {l : Ledger} {scopes' : Scopes ρ}
    (hothers : ∀ u, u ≠ t → l.standing u = (ledger r).standing u)
    (hcount : ∀ q u, ¬(r = q ∧ t = u) →
      attachmentsOf q u scopes'.live + attachmentsOf q u scopes'.lost =
        attachmentsOf q u scopes.live + attachmentsOf q u scopes.lost)
    (hcalls : ∀ q, r ≠ q → attachments q scopes'.live = attachments q scopes.live)
    (hstanding : attachmentsOf r t scopes'.live + attachmentsOf r t scopes'.lost =
      if l.standing t = .scoped then 1 else 0)
    (hattachCalls : l.attachCalls = l.detachCalls + attachments r scopes'.live) :
    Accounted (Function.update ledger r l) scopes' where
  attachmentsOf_eq q u := by
    by_cases hq : r = q
    · subst hq
      rw [Function.update_self]
      by_cases hu : t = u
      · subst hu
        exact hstanding
      · rw [hothers u (Ne.symm hu), hcount r u fun h => hu h.2, h.attachmentsOf_eq]
    · rw [Function.update_of_ne (Ne.symm hq), hcount q u fun h => hq h.1, h.attachmentsOf_eq]
  attachCalls_eq q := by
    by_cases hq : r = q
    · subst hq
      rw [Function.update_self]
      exact hattachCalls
    · rw [Function.update_of_ne (Ne.symm hq), hcalls q hq, h.attachCalls_eq]

/-- A scope that attaches a detached thread is the only one to have attached it. -/
theorem enter_attached (h : Accounted ledger scopes)
    (hdetached : (ledger r).standing t = .detached) :
    Accounted (Function.update ledger r ((ledger r).attach t)) (scopes.enter ⟨r, t, ⟨true⟩⟩) := by
  have hcount := h.attachmentsOf_eq r t
  have hcalls := h.attachCalls_eq r
  refine h.update (t := t) (fun u hu => by simp [Ledger.attach, Ledger.stand, hu])
    (fun q u hne => ?_) (fun q hq => ?_) ?_ ?_
  · simp [Scopes.enter, hne]
  · simp [Scopes.enter, hq]
  · simp only [hdetached, reduceCtorEq, if_false] at hcount
    simp only [Scopes.enter, attachmentsOf_cons, and_self, if_true, Ledger.attach, Ledger.stand,
      Function.update_self]
    omega
  · simp only [Scopes.enter, attachments_cons, and_self, if_true, Ledger.attach, Ledger.stand]
    omega

theorem exit_created (h : Accounted ledger scopes) (hmem : ⟨r, t, ⟨true⟩⟩ ∈ scopes.live) :
    Accounted (Function.update ledger r ((ledger r).detach t)) (scopes.leave ⟨r, t, ⟨true⟩⟩) := by
  have hstanding := h.standing_of_created hmem
  have hcount := h.attachmentsOf_eq r t
  have hcalls := h.attachCalls_eq r
  rw [attachmentsOf_erase r t hmem, hstanding, if_pos rfl, if_pos ⟨rfl, rfl, rfl⟩] at hcount
  rw [attachments_erase r hmem, if_pos ⟨rfl, rfl⟩] at hcalls
  refine h.update (t := t) (fun u hu => by simp [Ledger.detach, Ledger.stand, hu])
    (fun q u hne => ?_) (fun q hq => ?_) ?_ ?_
  · simp [Scopes.leave, attachmentsOf_erase q u hmem, hne]
  · simp [Scopes.leave, attachments_erase q hmem, hq]
  · simp only [Scopes.leave, Ledger.detach, Ledger.stand, Function.update_self, reduceCtorEq,
      if_false]
    omega
  · simp only [Scopes.leave, Ledger.detach, Ledger.stand]
    omega

/-- A scope that is lost still accounts for its thread, but its attachment was to be undone. -/
theorem exit_lost (h : Accounted ledger scopes) (hmem : ⟨r, t, ⟨true⟩⟩ ∈ scopes.live) :
    Accounted (Function.update ledger r (ledger r).countDetach) (scopes.lose ⟨r, t, ⟨true⟩⟩) := by
  have hcount := h.attachmentsOf_eq r t
  have hcalls := h.attachCalls_eq r
  rw [attachmentsOf_erase r t hmem, if_pos ⟨rfl, rfl, rfl⟩] at hcount
  rw [attachments_erase r hmem, if_pos ⟨rfl, rfl⟩] at hcalls
  refine h.update (t := t) (fun u hu => by simp [Ledger.countDetach])
    (fun q u hne => ?_) (fun q hq => ?_) ?_ ?_
  · simp [Scopes.lose, attachmentsOf_erase q u hmem, hne]
  · simp [Scopes.lose, attachments_erase q hmem, hq]
  · simp only [Scopes.lose, attachmentsOf_cons, if_true, and_self]
    show _ = if (ledger r).standing t = .scoped then 1 else 0
    omega
  · show (ledger r).attachCalls = (ledger r).detachCalls + 1 + _
    simp only [Scopes.lose]
    omega

/-- A thread that no scope attached may come to stand otherwise, though not for a scope. -/
theorem stand (h : Accounted ledger scopes) {standing : Standing}
    (hold : (ledger r).standing t ≠ .scoped) (hnew : standing ≠ .scoped) :
    Accounted (Function.update ledger r ((ledger r).stand t standing)) scopes := by
  have hcount := h.attachmentsOf_eq r t
  refine h.update (t := t) (fun u hu => by simp [Ledger.stand, hu]) (fun _ _ _ => rfl)
    (fun _ _ => rfl) ?_ (h.attachCalls_eq r)
  rw [if_neg hold] at hcount
  simpa [Ledger.stand, hnew] using hcount

/-- Whatever changes, the scopes account for the ledgers again. -/
theorem change {books books' : ρ → Book} {scopes' : Scopes ρ} {event? : Option BridgeEvent}
    (h : Accounted (ledgers books) scopes)
    (hchange : Change t books scopes event? books' scopes') :
    Accounted (ledgers books') scopes' := by
  cases hchange with
  | same => exact h
  | converted hevent => exact h
  | drained r =>
    have hledger : (books r).report.ledger = ledgers books r := rfl
    rw [ledgers_update, hledger, Function.update_eq_self]
    exact h
  | reused r => exact h.enter_reused
  | attached hstanding =>
    rw [ledgers_update]
    exact h.enter_attached hstanding
  | left hmem => exact h.exit_reused hmem
  | detached hmem =>
    rw [ledgers_update]
    exact h.exit_created hmem
  | lost hmem =>
    rw [ledgers_update]
    exact h.exit_lost hmem
  | stood hold hnew =>
    rw [ledgers_update]
    exact h.stand hold hnew

/-- The threads of live scopes are attached for them. -/
theorem hold {s : Installation ρ ι} (h : Accounted (ledgers s.books) scopes) : scopes.Hold s := by
  rintro ⟨r, t, ⟨created⟩⟩ hmem rfl
  exact h.standing_of_created hmem

end Accounted

section Runs

variable [Memory] [DecidableEq ι] {start w : World (Installation ρ ι)} {scopes : Scopes ρ}
  {history : List (Done ρ ι)}

/-- In every run the scopes account for the ledgers. -/
theorem Run.accounted (h : Run (fun _ => Deed.Allowed) start w scopes history) :
    Accounted (ledgers w.backend.books) scopes := by
  induction h with
  | start fresh => exact .of_fresh fun r => congrArg (fun q => (Runtime.book q).ledger) (fresh r)
  | step t deed before allowed performed ih =>
    exact ih.change (deed.act_settles ih.hold allowed performed).change

/-- An orderly run has locked no table and lost no scope. -/
theorem Run.unlocked (h : Run (fun _ => Deed.Orderly) start w scopes history) :
    w.backend.Unlocked ∧ scopes.lost = [] := by
  induction h with
  | start fresh => exact ⟨fun r => congrArg Runtime.poisoned (fresh r), rfl⟩
  | step t deed before allowed performed ih =>
    obtain ⟨hunlocked, hlost⟩ := ih
    have haccounted := (before.mono fun _ _ _ _ _ => Deed.Orderly.allowed).accounted
    obtain ⟨⟨a, rfl⟩, hkept⟩ :=
      (deed.act_settles haccounted.hold allowed.allowed performed).orderly allowed hunlocked
    exact ⟨hkept, (deed.lost_left t _ a).trans hlost⟩

/-- In every world that orderly deeds come to, on every runtime: no thread was attached by two live
scopes; a thread is registered as attached by the bridge if and only if one live scope attached it;
the attachments that were not undone are those of live scopes. Nothing that a thread may do next
ends in a panic, be it to leave a scope or anything else. -/
theorem occupancy_of_reachable (h : Run (fun _ => Deed.Orderly) start w scopes history) :
    (∀ r t, attachmentsOf r t scopes.live ≤ 1) ∧
    (∀ r t, (∃ record, (w.backend.runtimes r).runtime.threads.get? t = some record ∧
      record.external = false) ↔ attachmentsOf r t scopes.live = 1) ∧
    (∀ r, (w.backend.runtimes r).runtime.attachCalls =
      (w.backend.runtimes r).runtime.detachCalls + attachments r scopes.live) ∧
    ∀ {α : Type} (t : ThreadId) (deed : Deed ρ ι α), deed.Orderly w.backend scopes t →
      ∃ a v, (deed.act t).run w = (.ok a, v) := by
  have haccounted := (h.mono fun _ _ _ _ _ => Deed.Orderly.allowed).accounted
  obtain ⟨hunlocked, hlost⟩ := h.unlocked
  have hcount (r : ρ) (t : ThreadId) : attachmentsOf r t scopes.live =
      if (w.backend.runtimes r).runtime.standing t = .scoped then 1 else 0 := by
    have hboth := haccounted.attachmentsOf_eq r t
    rw [hlost] at hboth
    exact hboth
  refine ⟨fun r t => ?_, fun r t => ?_, haccounted.attachCalls_eq, fun t deed orderly => ?_⟩
  · rw [hcount]
    split <;> omega
  · rw [hcount, ← Runtime.standing_eq_scoped]
    split <;> simp [*]
  · obtain ⟨⟨a, ha⟩, -⟩ :=
      (deed.act_settles haccounted.hold orderly.allowed rfl).orderly orderly hunlocked
    exact ⟨a, _, Prod.ext ha rfl⟩

end Runs

/-- A thread enters two scopes, leaves the first before the second and enters a third: it was
attached twice, once for the scope that is left and once for the last. -/
theorem occupancy_of_reachable_crossed :
    ∃ w : World (Installation Unit Unit), ∃ scopes history,
      Run (fun _ => Deed.Orderly) ⟨⟨⟨fun _ => {}, fun _ => {}⟩, []⟩, .zero⟩ w scopes history ∧
      scopes.live.map (·.attachment.created) = [true, false] ∧
      (w.backend.runtimes ()).runtime.attachCalls = 2 ∧
      (w.backend.runtimes ()).runtime.detachCalls = 1 ∧
      attachmentsOf () (.worker 0) scopes.live = 1 ∧
      ∃ a v, ((Deed.exit ⟨(), .worker 0, ⟨false⟩⟩ true : Deed Unit Unit Unit).act (.worker 0)).run w
        = (.ok a, v) := by
  have start : Run (ρ := Unit) (ι := Unit) (fun _ => Deed.Orderly)
    ⟨⟨⟨fun _ => {}, fun _ => {}⟩, []⟩, .zero⟩ _ _ _ := .start fun _ => rfl
  have first := start.step (.worker 0) (.enter ()) trivial rfl
  have second := first.step (.worker 0) (.enter ()) trivial rfl
  have crossed := second.step (.worker 0) (.exit ⟨(), .worker 0, ⟨true⟩⟩ true) ⟨by decide, rfl⟩ rfl
  have third := crossed.step (.worker 0) (.enter ()) trivial rfl
  obtain ⟨-, hregistered, -, hreturns⟩ := occupancy_of_reachable third
  exact ⟨_, _, _, third, rfl, rfl, rfl, (hregistered () (.worker 0)).mp ⟨_, rfl, rfl⟩,
    hreturns (.worker 0) (.exit ⟨(), .worker 0, ⟨false⟩⟩ true) ⟨by decide, rfl⟩⟩

end ManagedBridge.Installation
