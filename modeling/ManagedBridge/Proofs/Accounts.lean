import Mathlib.Algebra.BigOperators.Finprod
import ManagedBridge.Proofs.Occupancy

/-!
# The counts of events

Threads enter and leave scopes of any number of runtimes, convert, raise and drain exceptions, call
their contexts directly and start bridges, and any of this may fail. The counts of events follow
from the changes that the deeds come to, so they agree with the books of the runtimes, with the
scopes that are live or lost and with the history of the run. They fall behind the books in one
case: a runtime that is locked for good counts that it is to detach a thread and panics, so that the
detaching is never an event.
-/

namespace ManagedBridge.Installation

open InProcess

variable {ρ ι α : Type}

/-- A deed that returns counts its event, if it is one, and no other. A deed that panics counts
nothing. -/
theorem Deed.act_counts [Memory] [DecidableEq ρ] [DecidableEq ι] (t : ThreadId)
    (deed : Deed ρ ι α) : (deed.act t).Counts deed.event? := by
  cases deed with
  | enter r => exact (Attachment.enter_counts _).map _ _ (by rintro (_ | _) <;> rfl)
  | attach b => exact (Bridge.attach_counts _).map _ _ (by rintro (_ | _) <;> rfl)
  | exit scope raw =>
    obtain ⟨r, u, attachment⟩ := scope
    cases raw <;> exact Attachment.exit_counts _ attachment
  | use r what =>
    cases what with
    | toNative caps string? => exact Marshal.toNative_counts caps string?
    | toManaged caps bytes? => exact Marshal.toManaged_counts caps bytes?
    | nativeFromManaged bridge string? => exact Bridge.nativeFromManaged_counts string?
    | managedFromNative bridge bytes? => exact Bridge.managedFromNative_counts bytes?
    | stringFromManaged bridge string? => exact Bridge.stringFromManaged_counts string?
    | throwException message => exact .call fun _ => rfl
    | drain => exact drain_counts
  | call r what => exact .call fun _ => rfl
  | start b r => exact .call fun _ => rfl
  | setFlag r flag value => exact .call fun _ => rfl
  | attachExternally r => exact .call fun _ => rfl
  | detachExternally r => exact .call fun _ => rfl

section Tallies

variable [DecidableEq ρ] {t : ThreadId} {books books' : ρ → Book} {scopes scopes' : Scopes ρ}
  {event? : Option BridgeEvent}

/-- A figure in the books of finitely many runtimes, and `n` in all. -/
structure Sums (figure : Book → Nat) (books : ρ → Book) (n : Nat) : Prop where
  finite : (Function.support fun r => figure (books r)).Finite
  sum : ∑ᶠ r, figure (books r) = n

/-- The sum grows by what one book's figure grows by. -/
theorem Sums.update {figure : Book → Nat} {n k : Nat} (h : Sums figure books n) {r : ρ}
    {b : Book} (hb : figure b = figure (books r) + k) :
    Sums figure (Function.update books r b) (n + k) := by
  have hsplit : (fun q => figure (Function.update books r b q)) =
      (fun q => figure (books q)) + Pi.single r k := by
    funext q
    by_cases hq : q = r
    · subst hq
      simp [hb]
    · simp [hq]
  have hsingle : (Function.support (Pi.single r k : ρ → Nat)).Finite :=
    (Set.finite_singleton r).subset Pi.support_single_subset
  constructor
  · rw [hsplit]
    exact (h.finite.union hsingle).subset (Function.support_add ..)
  · refine (congrArg finsum hsplit).trans ?_
    refine (finsum_add_distrib h.finite hsingle).trans ?_
    rw [h.sum, finsum_eq_single _ r fun q hq => by simp [hq], Pi.single_eq_same]

theorem Sums.same {figure : Book → Nat} {n : Nat} (h : Sums figure books n) {r : ρ} {b : Book}
    (hb : figure b = figure (books r)) : Sums figure (Function.update books r b) n :=
  h.update (k := 0) hb

/-- The counts of events agree with the books and with the scopes. -/
structure Tallied (books : ρ → Book) (scopes : Scopes ρ) (counts : BridgeEvent → Nat) : Prop where
  attach : Sums (·.ledger.attachCalls) books (counts .attach)
  detach : Sums (·.ledger.detachCalls) books (scopes.lost.length + counts .detach)
  drained : Sums (·.reports) books (counts .exceptionDrained)
  live : counts .attach =
    counts .detach + (scopes.live.countP (·.attachment.created) + scopes.lost.length)

/-- The counts with one more of the event, if there is one. -/
def recorded (event? : Option BridgeEvent) (counts : BridgeEvent → Nat) (event : BridgeEvent) :
    Nat :=
  counts event + if event? = some event then 1 else 0

theorem countP_erase {scopes : List (EnteredScope ρ)} {scope : EnteredScope ρ} (h : scope ∈ scopes)
    (p : EnteredScope ρ → Bool) :
    scopes.countP p = (scopes.erase scope).countP p + if p scope then 1 else 0 := by
  rw [(List.perm_cons_erase h).countP_eq, List.countP_cons]

/-- Whatever changes, the counts agree again once the event is counted. -/
theorem Tallied.change {counts : BridgeEvent → Nat} (h : Tallied books scopes counts)
    (hchange : Change t books scopes event? books' scopes') :
    Tallied books' scopes' (recorded event? counts) := by
  have hlive := h.live
  cases hchange with
  | same => exact h
  | converted hevent =>
    rcases hevent with rfl | rfl <;> exact ⟨h.attach, h.detach, h.drained, hlive⟩
  | drained r => exact ⟨h.attach.same rfl, h.detach.same rfl, h.drained.update (by rfl), hlive⟩
  | reused r => exact ⟨h.attach, h.detach, h.drained, hlive⟩
  | attached hstanding =>
    refine ⟨h.attach.update rfl, h.detach.same rfl, h.drained.same rfl, ?_⟩
    show counts .attach + 1 =
      counts .detach + (List.countP _ (_ :: scopes.live) + scopes.lost.length)
    rw [List.countP_cons_of_pos rfl]
    omega
  | left hmem =>
    rw [countP_erase hmem] at hlive
    exact ⟨h.attach, h.detach, h.drained, hlive⟩
  | detached hmem =>
    rw [countP_erase hmem, if_pos rfl] at hlive
    refine ⟨h.attach.same rfl, ?_, h.drained.same rfl, ?_⟩
    · show Sums _ _ (scopes.lost.length + counts .detach + 1)
      exact h.detach.update rfl
    · show counts .attach =
        counts .detach + 1 + (List.countP _ (scopes.live.erase _) + scopes.lost.length)
      omega
  | lost hmem =>
    rw [countP_erase hmem, if_pos rfl] at hlive
    refine ⟨h.attach.same rfl, ?_, h.drained.same rfl, ?_⟩
    · show Sums _ _ (scopes.lost.length + 1 + counts .detach)
      rw [Nat.add_right_comm]
      exact h.detach.update rfl
    · show counts .attach = counts .detach + (List.countP _ (scopes.live.erase _) + (_ + 1))
      omega
  | stood hold hnew => exact ⟨h.attach.same rfl, h.detach.same rfl, h.drained.same rfl, hlive⟩

end Tallies

section History

/-- How often a run has seen an event. -/
def occurrences (history : List (Done ρ ι)) (event : BridgeEvent) : Nat :=
  history.countP (·.event? = some event)

theorem occurrences_cons (done : Done ρ ι) (history : List (Done ρ ι)) :
    occurrences (done :: history) = recorded done.event? (occurrences history) := by
  funext event
  simp only [occurrences, recorded, List.countP_cons, decide_eq_true_eq]

theorem get_record (c : Counter) (event? : Option BridgeEvent) (event : BridgeEvent) :
    (c.record event?).get event = c.get event + if event? = some event then 1 else 0 := by
  cases event? with
  | none => simp [Counter.record]
  | some found =>
    by_cases h : found = event
    · simp [Counter.record, h]
    · simp [Counter.record, h]

theorem tallied_of_fresh {s : Installation ρ ι} (fresh : ∀ r, (s.runtimes r).runtime = {}) :
    Tallied s.books {} fun _ => 0 := by
  have hzero {figure : Book → Nat} (h : figure (Runtime.book {}) = 0) : Sums figure s.books 0 := by
    have heq : (fun r => figure (s.books r)) = fun _ => 0 :=
      funext fun r => (congrArg (fun q => figure (Runtime.book q)) (fresh r)).trans h
    constructor
    · simp [heq]
    · rw [heq]
      exact finsum_zero
  exact ⟨hzero rfl, hzero rfl, hzero rfl, rfl⟩

variable [Memory] [DecidableEq ρ] [DecidableEq ι] {start w v : World (Installation ρ ι)}
  {scopes : Scopes ρ} {history : List (Done ρ ι)} {t : ThreadId}

theorem Run.tallied (h : Run (fun _ => Deed.Allowed) start w scopes history) :
    Tallied w.backend.books scopes (occurrences history) := by
  induction h with
  | start fresh => exact tallied_of_fresh fresh
  | step t deed before allowed performed ih =>
    rw [occurrences_cons]
    exact ih.change (deed.act_settles before.accounted.hold allowed performed).change

/-- A deed counts the event that it was. -/
theorem events_of_performed {deed : Deed ρ ι α} {ended : Except Panic α}
    (performed : (deed.act t).run w = (ended, v)) :
    v.events = w.events.record (Done.event? ⟨t, deed, ended⟩) := by
  have hcounts := deed.act_counts t w
  rw [performed] at hcounts
  cases ended <;> exact hcounts

/-- Every event is counted as often as it occurred. -/
theorem Run.events {rule : Rule ρ ι} (h : Run rule start w scopes history) (event : BridgeEvent) :
    w.events.get event = start.events.get event + UInt64.ofNat (occurrences history event) := by
  induction h with
  | start fresh => simp [occurrences]
  | step t deed before allowed performed ih =>
    rw [events_of_performed performed, get_record, ih, occurrences_cons, recorded]
    split
    · rw [UInt64.ofNat_add, ← UInt64.add_assoc]
      rfl
    · rw [Nat.add_zero, UInt64.add_zero]

/-- The counts that a run has added are those of the runtimes, of the scopes and of the history. -/
structure Exact (start w : World (Installation ρ ι)) (scopes : Scopes ρ)
    (history : List (Done ρ ι)) : Prop where
  /-- Only finitely many runtimes have counted or reported anything. -/
  finite : {r | (w.backend.runtimes r).runtime.attachCalls ≠ 0 ∨
    (w.backend.runtimes r).runtime.detachCalls ≠ 0 ∨
    (w.backend.runtimes r).runtime.described ≠ []}.Finite
  attach : w.events.get .attach - start.events.get .attach =
    UInt64.ofNat (∑ᶠ r, (w.backend.runtimes r).runtime.attachCalls)
  /-- A runtime has also counted the scopes that were left in vain. -/
  detach : UInt64.ofNat scopes.lost.length + (w.events.get .detach - start.events.get .detach) =
    UInt64.ofNat (∑ᶠ r, (w.backend.runtimes r).runtime.detachCalls)
  live : (w.events.get .attach - start.events.get .attach) -
      (w.events.get .detach - start.events.get .detach) =
    UInt64.ofNat (scopes.live.countP (·.attachment.created) + scopes.lost.length)
  reuse : w.events.get .reuse - start.events.get .reuse =
    UInt64.ofNat (history.countP (·.event? = some .reuse))
  exceptionDrained : w.events.get .exceptionDrained - start.events.get .exceptionDrained =
    UInt64.ofNat (∑ᶠ r, (w.backend.runtimes r).runtime.described.length)
  toNative : w.events.get .toNative - start.events.get .toNative =
    UInt64.ofNat (history.countP (·.event? = some .toNative))
  toManaged : w.events.get .toManaged - start.events.get .toManaged =
    UInt64.ofNat (history.countP (·.event? = some .toManaged))

theorem Run.exact (h : Run (fun _ => Deed.Allowed) start w scopes history) :
    Exact start w scopes history := by
  have htallied := h.tallied
  have hadded (event : BridgeEvent) : w.events.get event - start.events.get event =
      UInt64.ofNat (occurrences history event) := by
    rw [h.events event, UInt64.add_comm, UInt64.add_sub_cancel]
  refine ⟨?_, ?_, ?_, ?_, hadded .reuse, ?_, hadded .toNative, hadded .toManaged⟩
  · refine ((htallied.attach.finite.union htallied.detach.finite).union
      htallied.drained.finite).subset ?_
    rintro r (hr | hr | hr)
    · exact .inl (.inl hr)
    · exact .inl (.inr hr)
    · exact .inr fun hzero => hr (List.length_eq_zero_iff.mp hzero)
  · rw [hadded, ← htallied.attach.sum]
    rfl
  · rw [hadded, ← UInt64.ofNat_add, ← htallied.detach.sum]
    rfl
  · rw [hadded, hadded, htallied.live, UInt64.ofNat_add, UInt64.add_comm, UInt64.add_sub_cancel]
  · rw [hadded, ← htallied.drained.sum]
    rfl

/-- In every run, whatever fails in it: the counts that it has added are exact; what a thread does
next adds to the count of the event that it is, if it is one, and to no other, so that neither a
refused attachment nor a failed conversion adds to any; a live scope is left if and only if it did
not attach its thread or its runtime is not locked for good. If it is not left, the runtime counts a
detaching all the same, and nothing else changes. -/
theorem events_exact (h : Run (fun _ => Deed.Allowed) start w scopes history) :
    Exact start w scopes history ∧
    (∀ {α : Type} (t : ThreadId) (deed : Deed ρ ι α),
      ((deed.act t).run w).2.events =
        w.events.record (Done.event? ⟨t, deed, ((deed.act t).run w).1⟩)) ∧
    ∀ scope ∈ scopes.live, ∀ raw,
      let leaving := ((Deed.exit scope raw : Deed ρ ι Unit).act scope.thread).run w
      if scope.attachment.created ∧ (w.backend.ledger scope.runtime).poisoned then
        leaving = (.error (.raised poisonedLock),
          { w with backend := w.backend.onRuntime scope.runtime Runtime.countDetach })
      else leaving.1 = .ok () := by
  refine ⟨h.exact, fun t deed => events_of_performed rfl, fun scope hmem raw => ?_⟩
  obtain ⟨r, t, ⟨_ | _⟩⟩ := scope
  · cases raw <;> rfl
  · cases hopen : (w.backend.ledger r).poisoned with
    | true =>
      have hrun := run_exit_poisoned (t := t) hopen
      cases raw <;> exact hrun
    | false =>
      have hrun := run_exit_created hopen (h.accounted.hold _ hmem rfl)
      cases raw <;> exact congrArg Prod.fst hrun

end History

/-- One runtime refuses a thread. The other attaches two threads, of which the first enters it
again; an exception is raised, refuses a conversion and is drained; the scope that attached the
first thread is left before the other one, so that the context of the other can no longer be used
and the runtime is locked for good. The second thread leaves its scope in vain. -/
theorem events_exact_locked :
    ∃ w : World (Installation Bool Unit), ∃ history,
      Exact ⟨⟨⟨fun _ => {}, fun _ => {}⟩, []⟩, .zero⟩ w
        ⟨[⟨false, .worker 0, ⟨false⟩⟩], [⟨false, .worker 1, ⟨true⟩⟩]⟩ history ∧
      (w.backend.ledger false).poisoned = true ∧
      BridgeEvent.all.map w.events.get = [2, 1, 1, 1, 0, 0] := by
  have start : Run (ρ := Bool) (ι := Unit) (fun _ => Deed.Allowed)
    ⟨⟨⟨fun _ => {}, fun _ => {}⟩, []⟩, .zero⟩ _ _ _ := .start fun _ => rfl
  have refusing := start.step (.worker 0) (.setFlag true .rejectAttach true) trivial rfl
  have refused := refusing.step (.worker 0) (.enter true) trivial rfl
  have other := refused.step (.worker 1) (.enter false) trivial rfl
  have entered := other.step (.worker 0) (.enter false) trivial rfl
  have again := entered.step (.worker 0) (.enter false) trivial rfl
  have raised := again.step (.worker 0) (.use false (.throwException "thrown")) trivial rfl
  have failed := raised.step (.worker 0) (.use false (.toManaged stringCapabilities (some [104])))
    trivial rfl
  have drained := failed.step (.worker 0) (.use false .drain) trivial rfl
  have left := drained.step (.worker 0) (.exit ⟨false, .worker 0, ⟨true⟩⟩ true)
    ⟨by decide, rfl⟩ rfl
  have locked := left.step (.worker 0) (.use false .drain) trivial rfl
  have lost := locked.step (.worker 1) (.exit ⟨false, .worker 1, ⟨true⟩⟩ false)
    ⟨by decide, rfl⟩ rfl
  exact ⟨_, _, (events_exact lost).1, rfl, rfl⟩

/-- A thread is attached by its scope. Another one enters twice, leaves the scope that attached it
first and then uses the context of the other, which locks the runtime for good. When the first
thread now leaves its scope, the runtime counts that it is to detach it and panics: it has counted
two of those where one was an event, and no scope is live that attached its thread where there is
one such event more than those. -/
theorem detach_uncounted_locked :
    ∃ w : World (Installation Unit Unit), ∃ scopes history,
      Run (fun _ => Deed.Allowed) ⟨⟨⟨fun _ => {}, fun _ => {}⟩, []⟩, .zero⟩ w scopes history ∧
      w.events.get .detach = 1 ∧
      ∑ᶠ r, (w.backend.runtimes r).runtime.detachCalls = 2 ∧
      w.events.get .attach - w.events.get .detach = 1 ∧
      scopes.live.countP (·.attachment.created) = 0 := by
  have start : Run (ρ := Unit) (ι := Unit) (fun _ => Deed.Allowed)
    ⟨⟨⟨fun _ => {}, fun _ => {}⟩, []⟩, .zero⟩ _ _ _ := .start fun _ => rfl
  have first := start.step (.worker 1) (.enter ()) trivial rfl
  have outer := first.step (.worker 0) (.enter ()) trivial rfl
  have inner := outer.step (.worker 0) (.enter ()) trivial rfl
  have left := inner.step (.worker 0) (.exit ⟨(), .worker 0, ⟨true⟩⟩ false) ⟨by decide, rfl⟩ rfl
  have locked := left.step (.worker 0) (.use () .drain) trivial rfl
  have lost := locked.step (.worker 1) (.exit ⟨(), .worker 1, ⟨true⟩⟩ false) ⟨by decide, rfl⟩ rfl
  exact ⟨_, _, _, lost, rfl, (finsum_unique _).trans rfl, rfl, rfl⟩

end ManagedBridge.Installation
