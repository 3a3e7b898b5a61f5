import Mathlib.Logic.Function.Basic
import ManagedBridge.InProcess.Step
import ManagedBridge.Proofs.Reliability

/-!
# The ledger of an in-process runtime

What a runtime knows of its attachments: how often one was asked for and undone, and how every
thread stands with it. Only attaching and detaching change the ledger. Whatever else is done on an
attached thread returns, as long as the table of threads is not locked for good.
-/

namespace ManagedBridge.InProcess

/-- How a thread stands with a runtime. -/
inductive Standing
  | detached
  /-- Attached by someone else than the bridge. -/
  | external
  /-- Attached for a scope of the bridge. -/
  | scoped
  deriving DecidableEq, Repr

/-- What a runtime knows of its attachments. -/
@[ext]
structure Ledger where
  /-- Whether the table of threads is locked for good. -/
  poisoned : Bool
  attachCalls : Nat
  detachCalls : Nat
  standing : ThreadId → Standing

/-- The ledger with a thread's standing changed. -/
def Ledger.stand (l : Ledger) (t : ThreadId) (standing : Standing) : Ledger :=
  { l with standing := Function.update l.standing t standing }

/-- The ledger after a thread was attached for a scope. -/
def Ledger.attach (l : Ledger) (t : ThreadId) : Ledger :=
  { l.stand t .scoped with attachCalls := l.attachCalls + 1 }

/-- The ledger with one more thread to detach. -/
def Ledger.countDetach (l : Ledger) : Ledger := { l with detachCalls := l.detachCalls + 1 }

/-- The ledger after a scope's thread was detached. -/
def Ledger.detach (l : Ledger) (t : ThreadId) : Ledger :=
  { l.stand t .detached with detachCalls := l.detachCalls + 1 }

def ThreadRecord.standing (record : ThreadRecord) : Standing :=
  if record.external then .external else .scoped

theorem ThreadRecord.standing_ne_detached (record : ThreadRecord) :
    record.standing ≠ .detached := by
  unfold standing
  split <;> nofun

namespace Runtime

def standing (r : Runtime) (t : ThreadId) : Standing :=
  ((r.threads.get? t).map ThreadRecord.standing).getD .detached

def ledger (r : Runtime) : Ledger where
  poisoned := r.poisoned
  attachCalls := r.attachCalls
  detachCalls := r.detachCalls
  standing := r.standing

theorem standing_eq_detached (r : Runtime) (t : ThreadId) :
    r.standing t = .detached ↔ r.threads.get? t = none := by
  unfold standing
  cases r.threads.get? t with
  | none => simp
  | some record => simpa using record.standing_ne_detached

theorem standing_eq_scoped (r : Runtime) (t : ThreadId) :
    r.standing t = .scoped ↔
      ∃ record, r.threads.get? t = some record ∧ record.external = false := by
  unfold standing
  cases r.threads.get? t with
  | none => simp
  | some record => cases howner : record.external <;> simp [ThreadRecord.standing, howner]

theorem contains_eq (r : Runtime) (t : ThreadId) :
    r.threads.contains t = decide (r.standing t ≠ .detached) := by
  rw [Bool.eq_iff_iff, decide_eq_true_iff, ne_eq, standing_eq_detached, Table.contains]
  cases r.threads.get? t <;> simp

/-- A runtime with a thread's record put into the table. -/
def keepRecord (r : Runtime) (t : ThreadId) (record : ThreadRecord) : Runtime :=
  { r with threads := r.threads.set t record }

theorem keepRecord_self {r : Runtime} {t : ThreadId} {record : ThreadRecord}
    (h : r.threads.get? t = some record) : r.keepRecord t record = r := by
  rw [keepRecord, Table.set_of_get? h]

def eraseRecord (r : Runtime) (t : ThreadId) : Runtime := { r with threads := r.threads.erase t }

theorem ledger_keepRecord (r : Runtime) (t : ThreadId) (record : ThreadRecord) :
    (r.keepRecord t record).ledger = r.ledger.stand t record.standing := by
  refine Ledger.ext rfl rfl rfl (funext fun u => ?_)
  show ((Table.get? (r.threads.set t record) u).map _).getD _ =
    Function.update r.standing t record.standing u
  rw [Table.get?_set, Function.update_apply]
  by_cases h : t = u
  · simp [h]
  · rw [if_neg h, if_neg (Ne.symm h)]
    rfl

theorem ledger_eraseRecord (r : Runtime) (t : ThreadId) :
    (r.eraseRecord t).ledger = r.ledger.stand t .detached := by
  refine Ledger.ext rfl rfl rfl (funext fun u => ?_)
  show ((Table.get? (r.threads.erase t) u).map _).getD _ =
    Function.update r.standing t .detached u
  rw [Table.get?_erase, Function.update_apply]
  by_cases h : t = u
  · simp [h]
  · rw [if_neg h, if_neg (Ne.symm h)]
    rfl

/-- A thread whose standing is put down as it is leaves the ledger as it is. -/
theorem ledger_keepRecord_of_standing {r : Runtime} {t : ThreadId} {old record : ThreadRecord}
    (hold : r.threads.get? t = some old) (h : record.external = old.external) :
    (r.keepRecord t record).ledger = r.ledger := by
  have hstanding : r.standing t = record.standing := by
    simp [standing, hold, ThreadRecord.standing, h]
  rw [ledger_keepRecord, Ledger.stand, ← hstanding]
  exact Ledger.ext rfl rfl rfl (Function.update_eq_self t r.standing)

/-- The runtime after a thread was attached for a scope. -/
def attached (r : Runtime) (t : ThreadId) : Runtime :=
  { r.keepRecord t (r.threads.getD t {}) with attachCalls := r.attachCalls + 1 }

/-- The runtime with one more thread to detach. -/
def countDetach (r : Runtime) : Runtime := { r with detachCalls := r.detachCalls + 1 }

/-- The runtime after a scope's thread was detached. -/
def detached (r : Runtime) (t : ThreadId) : Runtime :=
  { r.eraseRecord t with detachCalls := r.detachCalls + 1 }

theorem ledger_attached {r : Runtime} {t : ThreadId} (h : r.standing t = .detached) :
    (r.attached t).ledger = r.ledger.attach t := by
  have hnone := (r.standing_eq_detached t).mp h
  have hkept := r.ledger_keepRecord t {}
  rw [Ledger.attach, ← show _ = r.ledger.stand t .scoped from hkept, attached, Table.getD, hnone]
  rfl

theorem ledger_detached (r : Runtime) (t : ThreadId) :
    (r.detached t).ledger = r.ledger.detach t := by
  rw [Ledger.detach, ← ledger_eraseRecord]
  rfl

end Runtime

/-- A site of the same log over a changed runtime. -/
def onRuntime (f : Runtime → Runtime) (s : State) : State := { s with runtime := f s.runtime }

namespace Context

variable {α : Type} {s : Site State} {t : ThreadId}

theorem run_modifyRuntime (f : Runtime → Runtime) :
    (modifyRuntime f).run s = (.ok (), { s with backend := onRuntime f s.backend }) :=
  rfl

theorem run_onThreads (h : s.backend.runtime.poisoned = false)
    {f : Table ThreadId ThreadRecord → Except String (α × Table ThreadId ThreadRecord)} {a : α}
    {threads : Table ThreadId ThreadRecord} (hf : f s.backend.runtime.threads = .ok (a, threads)) :
    (onThreads f).run s =
      (.ok a, { s with
        backend := { s.backend with runtime := { s.backend.runtime with threads } } }) := by
  rw [onThreads, Routine.run_bind, Call.run_step]
  simp only [Runtime.lockThreads, h, hf, if_false, Bool.false_eq_true, Routine.run_pure]

/-- A change that cannot end in a panic is made. -/
theorem run_onThreads_ok (h : s.backend.runtime.poisoned = false)
    (g : Table ThreadId ThreadRecord → α × Table ThreadId ThreadRecord) :
    (onThreads fun threads => .ok (g threads)).run s =
      (.ok (g s.backend.runtime.threads).1,
        { s with
          backend := onRuntime (fun r => { r with threads := (g r.threads).2 }) s.backend }) :=
  run_onThreads h rfl

theorem run_modifyThreads (h : s.backend.runtime.poisoned = false)
    (f : Table ThreadId ThreadRecord → Table ThreadId ThreadRecord) :
    (modifyThreads f).run s =
      (.ok (), { s with
        backend := onRuntime (fun r => { r with threads := f r.threads }) s.backend }) :=
  run_onThreads_ok h fun threads => ((), f threads)

theorem run_onRecord (h : s.backend.runtime.poisoned = false)
    {f : ThreadRecord → Except String (α × ThreadRecord)} {old record : ThreadRecord} {a : α}
    (hold : s.backend.runtime.threads.get? t = some old) (hf : f old = .ok (a, record)) :
    (onRecord t f).run s =
      (.ok a, { s with backend := onRuntime (·.keepRecord t record) s.backend }) := by
  refine run_onThreads h ?_
  simp only [hold, hf]
  rfl

theorem run_onThreads_poisoned (h : s.backend.runtime.poisoned = true)
    (f : Table ThreadId ThreadRecord → Except String (α × Table ThreadId ThreadRecord)) :
    (onThreads f).run s = (.error (.raised poisonedLock), s) := by
  rw [onThreads, Routine.run_bind, Call.run_step]
  simp only [Runtime.lockThreads, h, if_true]
  rfl

/-- A change of the table that ends in a panic leaves the table locked. -/
theorem run_onThreads_error (h : s.backend.runtime.poisoned = false)
    {f : Table ThreadId ThreadRecord → Except String (α × Table ThreadId ThreadRecord)}
    {message : String} (hf : f s.backend.runtime.threads = .error message) :
    (onThreads f).run s =
      (.error (.raised message),
        { s with backend := onRuntime ({ · with poisoned := true }) s.backend }) := by
  rw [onThreads, Routine.run_bind, Call.run_step]
  simp only [Runtime.lockThreads, h, hf, if_false, Bool.false_eq_true]
  rfl

theorem run_exceptionPending_detached (h : s.backend.runtime.poisoned = false)
    (hdetached : s.backend.runtime.standing t = .detached) :
    (exceptionPending t).run s =
      (.error (.raised usedAfterDetach),
        { s with backend := onRuntime ({ · with poisoned := true }) s.backend }) := by
  have hnone := (s.backend.runtime.standing_eq_detached t).mp hdetached
  refine run_onThreads_error h ?_
  simp only [hnone]

theorem run_isAttached (h : s.backend.runtime.poisoned = false) :
    (isAttached t).run s = (.ok (decide (s.backend.runtime.standing t ≠ .detached)), s) := by
  rw [isAttached, readThreads, run_onThreads_ok h, Runtime.contains_eq]
  rfl

theorem run_isAttached_poisoned (h : s.backend.runtime.poisoned = true) :
    (isAttached t).run s = (.error (.raised poisonedLock), s) :=
  run_onThreads_poisoned h _

theorem run_attach_rejected (h : s.backend.runtime.rejectAttach = true) :
    (attach t).run s = (.ok (.error (.other "attach rejected")), s) := by
  rw [attach, Routine.run_bind, getRuntime, Call.run_step]
  simp only [h, if_true, Routine.run_pure]

theorem run_attach (hopen : s.backend.runtime.poisoned = false)
    (h : s.backend.runtime.rejectAttach = false) :
    (attach t).run s =
      (.ok (.ok ()), { s with backend := onRuntime (·.attached t) s.backend }) := by
  rw [attach, Routine.run_bind, getRuntime, Call.run_step]
  simp only [h, if_false, Bool.false_eq_true]
  refine (Routine.run_bind_ok (run_modifyRuntime _) _).trans ?_
  exact Routine.run_bind_ok (run_modifyThreads (by exact hopen) _) _

theorem run_detach (hopen : s.backend.runtime.poisoned = false)
    (h : s.backend.runtime.standing t = .scoped) :
    (detach t).run s = (.ok (), { s with backend := onRuntime (·.detached t) s.backend }) := by
  obtain ⟨record, hrecord, howner⟩ := (s.backend.runtime.standing_eq_scoped t).mp h
  refine (Routine.run_bind_ok (run_modifyRuntime _) _).trans ?_
  refine (Routine.run_bind_ok (run_onThreads_ok (by exact hopen) _) _).trans ?_
  simp only [onRuntime, hrecord, howner, if_false, Bool.false_eq_true, Routine.run_pure]
  rfl

end Context

/-- The thread can use a context: it is attached to a runtime with the ledger `l` that is not locked
for good, and `n` of its arrays are out. -/
structure Usable (t : ThreadId) (l : Ledger) (n : Nat) (s : State) : Prop where
  ledger : s.runtime.ledger = l
  unlocked : s.runtime.poisoned = false
  attached : ∃ record, s.runtime.threads.get? t = some record ∧ record.liveArrays = n

/-- An attached thread can use a context, with as many arrays out as are. -/
theorem Usable.of_standing {s : State} {t : ThreadId} (hopen : s.runtime.poisoned = false)
    (h : s.runtime.standing t ≠ .detached) : ∃ n, Usable t s.runtime.ledger n s := by
  rw [ne_eq, Runtime.standing_eq_detached] at h
  obtain ⟨record, hrecord⟩ := Option.ne_none_iff_exists'.mp h
  exact ⟨record.liveArrays, rfl, hopen, record, hrecord, rfl⟩

namespace Context

variable {α : Type} {t : ThreadId} {l : Ledger} {n m : Nat}

/-- What leaves ledger and records alone leaves the context usable. -/
theorem returns_step {f : State → α × State}
    (h : ∀ s, (f s).2.runtime.ledger = s.runtime.ledger ∧
      (f s).2.runtime.threads = s.runtime.threads) :
    (Call.step f).Returns (Usable t l n) fun _ => Usable t l n := by
  refine Call.returns_step fun s hs => ?_
  obtain ⟨hledger, hthreads⟩ := h s
  exact ⟨hledger.trans hs.ledger, (congrArg Ledger.poisoned hledger).trans hs.unlocked,
    by rw [hthreads]; exact hs.attached⟩

/-- A change of the record keeps the context usable, if it returns and keeps the owner. -/
theorem returns_onRecord {f : ThreadRecord → Except String (α × ThreadRecord)}
    (h : ∀ old : ThreadRecord, old.liveArrays = n → ∃ a record, f old = .ok (a, record) ∧
      record.external = old.external ∧ record.liveArrays = m) :
    (onRecord t f).Returns (Usable t l n) fun _ => Usable t l m := by
  intro s hs
  obtain ⟨old, hold, hn⟩ := hs.attached
  obtain ⟨a, record, hf, howner, hm⟩ := h old hn
  refine ⟨a, _, run_onRecord hs.unlocked hold hf, ?_, hs.unlocked, record, ?_, hm⟩
  · exact (Runtime.ledger_keepRecord_of_standing hold howner).trans hs.ledger
  · exact (Table.get?_set ..).trans (if_pos rfl)

theorem returns_readRecord (f : ThreadRecord → α) :
    (readRecord t f).Returns (Usable t l n) fun _ => Usable t l n :=
  returns_onRecord fun old hold => ⟨f old, old, rfl, rfl, hold⟩

theorem returns_modifyRecord {f : ThreadRecord → ThreadRecord}
    (h : ∀ old, old.liveArrays = n → (f old).external = old.external ∧ (f old).liveArrays = m) :
    (modifyRecord t f).Returns (Usable t l n) fun _ => Usable t l m :=
  returns_onRecord fun old hold => ⟨(), f old, rfl, h old hold⟩

theorem returns_throwException (message : String) :
    (throwException t message).Returns (Usable t l n) fun _ => Usable t l n :=
  returns_modifyRecord fun _ hold => ⟨rfl, hold⟩

theorem returns_call : (call t).Returns (Usable t l n) fun _ => Usable t l n := by
  refine (returns_step fun _ => ⟨rfl, rfl⟩).bind fun _ => ?_
  refine (returns_readRecord _).bind ?_
  rintro (_ | _) <;> exact .pure fun _ => id

theorem returns_content (array : ArrayId) :
    (content array).Returns (Usable t l n) fun _ => Usable t l n :=
  returns_step fun _ => ⟨rfl, rfl⟩

/-- An array that is allocated is out. -/
theorem returns_allocate (array : ZeroFilled UInt8) :
    (allocate t array).Returns (Usable t l n) (HandedOut (Usable t l) n) := by
  refine (returns_step fun _ => ⟨rfl, rfl⟩).bind ?_
  rintro (_ | _)
  · refine (returns_modifyRecord (m := n + 1) fun old hold => by exact ⟨rfl, by rw [hold]⟩).bind
      fun _ => ?_
    exact Call.returns_step fun _ hs => ⟨hs.ledger, hs.unlocked, hs.attached⟩
  · exact (returns_throwException _).bind fun _ => .pure fun _ => id

/-- An operation that starts with a call, and is refused where the call is. -/
theorem returns_call_then {P : Except RuntimeError α → State → Prop}
    {next : Except RuntimeError Unit → Call State (Except RuntimeError α)}
    (stops : ∀ e, next (.error e) = pure (.error e)) (hP : ∀ e s, Usable t l n s → P (.error e) s)
    (goes : (next (.ok ())).Returns (Usable t l n) P) :
    (call t >>= next).Returns (Usable t l n) P := by
  refine returns_call.bind ?_
  rintro (e | ⟨⟩)
  · rw [stops]
    exact .pure fun s => hP e s.backend
  · exact goes

end Context

/-- The context of an attached thread is reliable, and does not change the ledger. -/
theorem context_reliable (t : ThreadId) (l : Ledger) : (context t).Reliable (Usable t l) where
  resolveCapabilities n := by
    refine (Context.returns_step fun _ => ⟨rfl, rfl⟩).bind fun _ => ?_
    refine Context.returns_call_then (fun _ => rfl) (fun _ _ => id) ?_
    refine (Context.returns_step fun _ => ⟨rfl, rfl⟩).bind fun r => ?_
    dsimp only
    split <;> exact .pure fun _ => id
  stringBytes n caps string := by
    refine Context.returns_call_then (fun _ => rfl) (fun _ _ => id) ?_
    exact Context.returns_allocate _
  byteArrayLen n array :=
    Context.returns_call_then (fun _ => rfl) (fun _ _ => id)
      ((Context.returns_content array).bind fun _ => .pure fun _ => id)
  readByteArray n array len := by
    refine Context.returns_call_then (fun _ => rfl) (fun _ _ => id) ?_
    refine (Context.returns_content array).bind fun bytes => ?_
    dsimp only
    split <;> exact .pure fun _ => id
  newByteArray n len := by
    refine Context.returns_call_then (fun _ => rfl) (fun _ _ => id) ?_
    exact Context.returns_allocate _
  writeByteArray n array bytes := by
    refine Context.returns_call_then (fun _ => rfl) (fun _ _ => id) ?_
    refine (Context.returns_content array).bind fun old => ?_
    dsimp only
    split
    · exact Context.returns_step fun _ => ⟨rfl, rfl⟩
    · exact .pure fun _ => id
  newString n caps array := by
    refine Context.returns_call_then (fun _ => rfl) (fun _ _ => id) ?_
    refine (Context.returns_step fun _ => ⟨rfl, rfl⟩).bind fun r => ?_
    dsimp only
    split
    · exact (Context.returns_throwException _).bind fun _ => .pure fun _ => id
    · exact (Context.returns_content array).bind fun _ => .pure fun _ => id
  releaseBytes n array := by
    refine Context.returns_onRecord fun old hold => ⟨(), { old with liveArrays := n }, ?_, rfl, rfl⟩
    rw [ThreadRecord.releaseArray, hold]
    rfl
  exceptionPending n := Context.returns_readRecord _
  describeException n := by
    refine (Context.returns_readRecord _).bind ?_
    rintro (_ | message)
    · exact .pure fun _ => id
    · exact Context.returns_step fun _ => ⟨rfl, rfl⟩
  clearException n := Context.returns_modifyRecord fun _ hold => ⟨rfl, hold⟩

end ManagedBridge.InProcess
