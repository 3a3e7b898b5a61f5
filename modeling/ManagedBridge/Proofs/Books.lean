import ManagedBridge.Proofs.Counting
import ManagedBridge.Proofs.Installation
import ManagedBridge.Proofs.Preservation

/-!
# Books

The book of a runtime holds what it has counted and how its threads stand, whether or not its table
of threads is locked for good, and how many exceptions it has reported. Nothing that is done with a
context changes a book but a drain that finds an exception, be the thread attached or not.
-/

namespace ManagedBridge.InProcess

/-- What a runtime has counted and how its threads stand, whether or not its table of threads is
locked for good, with the number of its reports. -/
structure Book where
  ledger : Ledger
  reports : Nat

/-- The book with one report more. -/
def Book.report (b : Book) : Book := { b with reports := b.reports + 1 }

namespace Runtime

def book (r : Runtime) : Book := ⟨{ r.ledger with poisoned := false }, r.described.length⟩

theorem book_keepRecord (r : Runtime) (t : ThreadId) (record : ThreadRecord) :
    (r.keepRecord t record).book =
      { r.book with ledger := r.book.ledger.stand t record.standing } := by
  simp only [book, ledger_keepRecord, Ledger.stand]
  rfl

theorem book_eraseRecord (r : Runtime) (t : ThreadId) :
    (r.eraseRecord t).book = { r.book with ledger := r.book.ledger.stand t .detached } := by
  simp only [book, ledger_eraseRecord, Ledger.stand]
  rfl

/-- A thread whose record is put down with the same owner stands as it stood. -/
theorem book_keepRecord_of_standing {r : Runtime} {t : ThreadId} {old record : ThreadRecord}
    (hold : r.threads.get? t = some old) (h : record.external = old.external) :
    (r.keepRecord t record).book = r.book := by
  simp only [book, ledger_keepRecord_of_standing hold h]
  rfl

theorem book_attached {r : Runtime} {t : ThreadId} (h : r.standing t = .detached) :
    (r.attached t).book = { r.book with ledger := r.book.ledger.attach t } := by
  simp only [book, ledger_attached h]
  rfl

theorem book_detached (r : Runtime) (t : ThreadId) :
    (r.detached t).book = { r.book with ledger := r.book.ledger.detach t } := by
  simp only [book, ledger_detached]
  rfl

/-- The runtime after a thread's exception was reported. -/
def reported (r : Runtime) (t : ThreadId) (record : ThreadRecord) (message : String) : Runtime :=
  { r.keepRecord t record with described := r.described ++ [message] }

theorem book_reported {r : Runtime} {t : ThreadId} {record : ThreadRecord}
    (hrecord : r.threads.get? t = some record) (message : String) :
    (r.reported t record message).book = r.book.report := by
  have hkept := congrArg Book.ledger (book_keepRecord_of_standing hrecord rfl)
  have hreports : (r.described ++ [message]).length = r.described.length + 1 := List.length_append
  exact congrArg₂ Book.mk hkept hreports

theorem book_setFlag (r : Runtime) (flag : Flag) (value : Bool) :
    (r.setFlag flag value).book = r.book := by
  cases flag <;> rfl

/-- What is read off a runtime and shows neither the counts of calls, nor whether an allocation is
to fail or the table of threads is locked for good, and of a record no more than its owner. -/
structure Overlooks {π : Type} (view : Runtime → π) : Prop where
  resolveCalls : ∀ r n, view { r with resolveCalls := n } = view r
  runtimeCalls : ∀ r n, view { r with runtimeCalls := n } = view r
  failNextAllocation : ∀ r value, view { r with failNextAllocation := value } = view r
  poisoned : ∀ r value, view { r with poisoned := value } = view r
  record : ∀ {r : Runtime} {t : ThreadId} {old record : ThreadRecord},
    r.threads.get? t = some old → record.external = old.external →
      view (r.keepRecord t record) = view r

theorem overlooks_book : Overlooks book where
  resolveCalls _ _ := rfl
  runtimeCalls _ _ := rfl
  failNextAllocation _ _ := rfl
  poisoned _ _ := rfl
  record := book_keepRecord_of_standing

theorem overlooks_rejectAttach : Overlooks rejectAttach where
  resolveCalls _ _ := rfl
  runtimeCalls _ _ := rfl
  failNextAllocation _ _ := rfl
  poisoned _ _ := rfl
  record _ _ := rfl

/-- What is done with the table locked does not show, unless a standing is changed. If it ends in a
panic the table is locked for good, which does not show either. -/
theorem Overlooks.lockThreads {π α : Type} {view : Runtime → π} (hview : Overlooks view)
    {r : Runtime}
    {f : Table ThreadId ThreadRecord → Except String (α × Table ThreadId ThreadRecord)}
    (h : ∀ a threads, f r.threads = .ok (a, threads) → view { r with threads } = view r) :
    view (r.lockThreads f).2 = view r := by
  unfold Runtime.lockThreads
  split
  · rfl
  cases hf : f r.threads with
  | error message => exact hview.poisoned r true
  | ok changed => exact h _ _ hf

end Runtime

namespace Context

variable {α : Type} {t : ThreadId}

/-- What is read off the runtime. -/
abbrev viewOf {π : Type} (view : Runtime → π) (s : State) : π := view s.runtime

/-- The book of the runtime. -/
abbrev bookOf : State → Book := viewOf Runtime.book

section Overlooking

variable {π : Type} {view : Runtime → π} (hview : Runtime.Overlooks view)

theorem preserves_modifyRuntime {f : Runtime → Runtime} (h : ∀ r, view (f r) = view r) :
    (modifyRuntime f).Preserves (viewOf view) :=
  Call.preserves_step fun s => h s.runtime

theorem preserves_content (array : ArrayId) :
    (content array).Preserves (viewOf view) :=
  Call.preserves_step fun _ => rfl

include hview

/-- A change of the record does not show if it keeps the owner. -/
theorem preserves_onRecord {f : ThreadRecord → Except String (α × ThreadRecord)}
    (h : ∀ old a record, f old = .ok (a, record) → record.external = old.external) :
    (onRecord t f).Preserves (viewOf view) := by
  refine Routine.Preserves.bind (Call.preserves_step fun s => ?_) ?_
  · refine hview.lockThreads fun a threads hchanged => ?_
    cases hold : s.runtime.threads.get? t with
    | none => simp only [hold] at hchanged; cases hchanged
    | some old =>
      cases hf : f old with
      | error message => simp only [hold, hf] at hchanged; cases hchanged
      | ok changed =>
        simp only [hold, hf] at hchanged
        cases hchanged
        exact hview.record hold (h old _ _ hf)
  · rintro (message | a)
    · exact fun _ => rfl
    · exact .pure a

theorem preserves_readRecord (f : ThreadRecord → α) :
    (readRecord t f).Preserves (viewOf view) :=
  preserves_onRecord hview fun old a record hf => by cases hf; rfl

theorem preserves_modifyRecord {f : ThreadRecord → ThreadRecord}
    (h : ∀ old, (f old).external = old.external) :
    (modifyRecord t f).Preserves (viewOf view) :=
  preserves_onRecord hview fun old a record hf => by cases hf; exact h old

theorem preserves_throwException (message : String) :
    (throwException t message).Preserves (viewOf view) :=
  preserves_modifyRecord hview fun _ => rfl

theorem preserves_call : (call t).Preserves (viewOf view) := by
  refine Routine.Preserves.bind (preserves_modifyRuntime fun _ => hview.runtimeCalls _ _) ?_
  refine fun _ => (preserves_readRecord hview _).bind ?_
  rintro (_ | _) <;> exact .pure _

/-- An operation that starts with a call, and is refused where the call is. -/
theorem preserves_call_then
    {next : Except RuntimeError Unit → Call State (Except RuntimeError α)}
    (stops : ∀ e, next (.error e) = pure (.error e))
    (goes : (next (.ok ())).Preserves (viewOf view)) :
    (call t >>= next).Preserves (viewOf view) := by
  refine (preserves_call hview).bind ?_
  rintro (e | ⟨⟩)
  · rw [stops]
    exact .pure _
  · exact goes

theorem preserves_allocate (array : ZeroFilled UInt8) :
    (allocate t array).Preserves (viewOf view) := by
  refine Routine.Preserves.bind
    (Call.preserves_step fun _ => hview.failNextAllocation _ _) ?_
  rintro (_ | _)
  · refine Routine.Preserves.bind (preserves_modifyRecord hview fun _ => by rfl) fun _ => ?_
    exact Call.preserves_step fun _ => by rfl
  · exact (preserves_throwException hview _).bind fun _ => .pure _

end Overlooking

variable {s : Site State} {old : ThreadRecord} {message : String}

/-- A report of an exception that is pending is kept. -/
theorem run_describeException (hopen : s.backend.runtime.poisoned = false)
    (hold : s.backend.runtime.threads.get? t = some old) (hpending : old.pending = some message) :
    (describeException t).run s =
      (.ok (), { s with backend := onRuntime (·.reported t old message) s.backend }) := by
  refine (Routine.run_bind_ok (run_onRecord hopen hold rfl) _).trans ?_
  simp only [hpending]
  rfl

end Context

/-- Nothing that is overlooked is changed by the calls of a context; neither if they panic. -/
theorem context_preserves_of_overlooks {π : Type} {view : Runtime → π}
    (hview : Runtime.Overlooks view) (t : ThreadId) :
    (context t).Preserves (Context.viewOf view) where
  resolveCapabilities := by
    refine Routine.Preserves.bind
      (Context.preserves_modifyRuntime fun _ => hview.resolveCalls _ _) fun _ => ?_
    refine Context.preserves_call_then hview (fun _ => rfl) ?_
    refine Routine.Preserves.bind (fun _ => rfl) fun r => ?_
    split <;> exact .pure _
  stringBytes caps string :=
    Context.preserves_call_then hview (fun _ => rfl) (Context.preserves_allocate hview _)
  byteArrayLen array :=
    Context.preserves_call_then hview (fun _ => rfl)
      ((Context.preserves_content array).bind fun _ => .pure _)
  readByteArray array len := by
    refine Context.preserves_call_then hview (fun _ => rfl) ?_
    refine (Context.preserves_content array).bind fun bytes => ?_
    split <;> exact .pure _
  newByteArray len :=
    Context.preserves_call_then hview (fun _ => rfl) (Context.preserves_allocate hview _)
  writeByteArray array bytes := by
    refine Context.preserves_call_then hview (fun _ => rfl) ?_
    refine (Context.preserves_content array).bind fun old => ?_
    split
    · exact Call.preserves_step fun _ => rfl
    · exact .pure _
  newString caps array := by
    refine Context.preserves_call_then hview (fun _ => rfl) ?_
    refine Routine.Preserves.bind (fun _ => rfl) fun r => ?_
    split
    · exact (Context.preserves_throwException hview _).bind fun _ => .pure _
    · exact (Context.preserves_content array).bind fun _ => .pure _
  releaseBytes array := by
    refine Context.preserves_onRecord hview fun old a record hf => ?_
    unfold ThreadRecord.releaseArray at hf
    split at hf <;> cases hf
    rfl
  exceptionPending := Context.preserves_readRecord hview _
  clearException := Context.preserves_modifyRecord hview fun _ => rfl

/-- Only attaching, detaching and reporting change a book; neither do calls that end in a panic. -/
theorem context_preserves (t : ThreadId) : (context t).Preserves Context.bookOf :=
  context_preserves_of_overlooks Runtime.overlooks_book t

end ManagedBridge.InProcess

namespace ManagedBridge.Installation

open InProcess

variable {ρ ι α : Type} [DecidableEq ρ] {s : Installation ρ ι}

/-- The books of the runtimes. -/
def books (s : Installation ρ ι) (r : ρ) : Book := (s.runtimes r).runtime.book

/-- The ledgers in the books. -/
abbrev ledgers (books : ρ → Book) (r : ρ) : Ledger := (books r).ledger

theorem ledgers_update (books : ρ → Book) (r : ρ) (b : Book) :
    ledgers (Function.update books r b) = Function.update (ledgers books) r b.ledger := by
  funext q
  rw [ledgers, Function.update_apply, Function.update_apply]
  split <;> rfl

theorem books_onRuntime (r : ρ) (f : Runtime → Runtime) (s : Installation ρ ι) :
    (s.onRuntime r f).books = Function.update s.books r (f (s.runtimes r).runtime).book := by
  funext q
  show (Function.update s.runtimes r _ q).runtime.book = _
  rw [Function.update_apply, Function.update_apply]
  split <;> rfl

/-- A change of one runtime that leaves its book alone leaves all books alone. -/
theorem books_set {r : ρ} (s : Installation ρ ι) (x : State)
    (h : x.runtime.book = (s.runtimes r).runtime.book) :
    ((runtimeAt r).set x s).books = s.books := by
  funext q
  show (Function.update s.runtimes r x q).runtime.book = _
  by_cases hq : q = r
  · subst hq
    rw [Function.update_self, h]
    rfl
  · rw [Function.update_of_ne hq]
    rfl

theorem preserves_zoom {r : ρ} {call : Call State α} (h : call.Preserves Context.bookOf) :
    (call.zoom (runtimeAt r)).Preserves (books (ρ := ρ) (ι := ι)) :=
  h.zoom (lawful_runtimeAt r) books_set

theorem context_preserves (ref : ρ × ThreadId) :
    (context ref).Preserves (books (ρ := ρ) (ι := ι)) :=
  (InProcess.context_preserves ref.2).zoom (lawful_runtimeAt ref.1) books_set

/-- The runtime has this record of the thread, and can be asked for it. -/
structure Holds (s : Installation ρ ι) (r : ρ) (t : ThreadId) (record : ThreadRecord) : Prop where
  unlocked : (s.runtimes r).runtime.poisoned = false
  found : (s.runtimes r).runtime.threads.get? t = some record

namespace Holds

variable {r : ρ} {t : ThreadId} {old record : ThreadRecord} {log : List LogLine} {message : String}

theorem onRuntime (h : Holds s r t old) {f : Runtime → Runtime}
    (hlock : ∀ runtime, (f runtime).poisoned = runtime.poisoned)
    (hthreads : ∀ runtime, (f runtime).threads = runtime.threads.set t record) :
    Holds (s.onRuntime r f) r t record where
  unlocked := by
    rw [runtimes_onRuntime]
    exact (hlock _).trans h.unlocked
  found := by
    rw [runtimes_onRuntime]
    refine (congrArg (Table.get? · t) (hthreads _)).trans ?_
    rw [Table.get?_set, if_pos rfl]

theorem run_exceptionPending (h : Holds s r t old) :
    (context (r, t)).exceptionPending.run ⟨s, log⟩ =
      (.ok old.pending.isSome, ⟨s.onRuntime r (·.keepRecord t old), log⟩) :=
  run_zoom (InProcess.Context.run_onRecord h.unlocked h.found rfl)

theorem run_describeException (h : Holds s r t old) (hpending : old.pending = some message) :
    (context (r, t)).describeException.run ⟨s, log⟩ =
      (.ok (), ⟨s.onRuntime r (·.reported t old message), log⟩) :=
  run_zoom (InProcess.Context.run_describeException h.unlocked h.found hpending)

theorem run_clearException (h : Holds s r t old) :
    (context (r, t)).clearException.run ⟨s, log⟩ =
      (.ok (), ⟨s.onRuntime r (·.keepRecord t { old with pending := none }), log⟩) :=
  run_zoom (InProcess.Context.run_onRecord h.unlocked h.found rfl)

theorem books_keepRecord (h : Holds s r t old) (howner : record.external = old.external) :
    (s.onRuntime r (·.keepRecord t record)).books = s.books :=
  books_set s _ (Runtime.book_keepRecord_of_standing h.found howner)

theorem books_reported (h : Holds s r t old) :
    (s.onRuntime r (·.reported t old message)).books =
      Function.update s.books r (s.books r).report := by
  rw [books_onRuntime, Runtime.book_reported h.found]
  rfl

end Holds

/-- If a context says that an exception is pending, its thread has a record with one. -/
theorem exists_pending {r : ρ} {t : ThreadId} {log : List LogLine} {v : Site (Installation ρ ι)}
    (h : (context (r, t)).exceptionPending.run ⟨s, log⟩ = (.ok true, v)) :
    ∃ old message, Holds s r t old ∧ old.pending = some message ∧
      v = ⟨s.onRuntime r (·.keepRecord t old), log⟩ := by
  have settle {ended v'} (h' : (context (r, t)).exceptionPending.run ⟨s, log⟩ = (ended, v')) :
      ended = .ok true ∧ v = v' := by
    rw [h] at h'
    cases h'
    exact ⟨rfl, rfl⟩
  cases hopen : (s.runtimes r).runtime.poisoned with
  | true => cases (settle (run_zoom_same (InProcess.Context.run_onThreads_poisoned hopen _))).1
  | false =>
    cases hold : (s.runtimes r).runtime.threads.get? t with
    | none =>
      have hdetached := ((s.runtimes r).runtime.standing_eq_detached t).mpr hold
      cases (settle (run_zoom (InProcess.Context.run_exceptionPending_detached hopen
        hdetached))).1
    | some old =>
      have hholds : Holds s r t old := ⟨hopen, hold⟩
      obtain ⟨hsome, rfl⟩ := settle hholds.run_exceptionPending
      obtain ⟨message, hmessage⟩ := Option.isSome_iff_exists.mp (Except.ok.inj hsome)
      exact ⟨old, message, hholds, hmessage, rfl⟩

/-- A drain that finds an exception adds a report to the book of its runtime. Any other drain, be
the thread attached or not, changes no book. -/
theorem run_drain_books (r : ρ) (t : ThreadId) (w : World (Installation ρ ι)) :
    ∃ ended v, (drain (context (r, t))).run w = (ended, v) ∧
      (ended = .ok true ∧
          v.backend.books = Function.update w.backend.books r (w.backend.books r).report ∨
        ended ≠ .ok true ∧ v.backend.books = w.backend.books) := by
  have hpreserved := (context_preserves (ι := ι) (r, t)).exceptionPending w.toSite
  rcases hrun : (context (r, t)).exceptionPending.run w.toSite with ⟨panic | _ | _, v⟩ <;>
    rw [hrun] at hpreserved
  · exact ⟨_, _, run_drain_panicked hrun, .inr ⟨nofun, hpreserved⟩⟩
  · exact ⟨_, _, run_drain_none hrun, .inr ⟨nofun, hpreserved⟩⟩
  · obtain ⟨old, message, hholds, hpending, rfl⟩ := exists_pending hrun
    have hfound := hholds.onRuntime (f := (·.keepRecord t old)) (fun _ => rfl) fun _ => rfl
    have hreported :=
      hfound.onRuntime (f := (·.reported t old message)) (fun _ => rfl) fun _ => rfl
    refine ⟨_, _, run_drain_some hrun (hfound.run_describeException hpending)
      hreported.run_clearException, .inl ⟨rfl, ?_⟩⟩
    refine (hreported.books_keepRecord (by rfl)).trans ?_
    rw [hfound.books_reported, hholds.books_keepRecord rfl]

end ManagedBridge.Installation
