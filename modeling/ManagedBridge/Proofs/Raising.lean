import ManagedBridge.Proofs.Outcomes
import ManagedBridge.Proofs.Unreported

/-!
# Conversions fail as exceptions are raised

A conversion over an in-process runtime fails exactly if it leaves an exception pending on its
thread. The exception is all that it leaves: a drain takes it away and reports it, and from then on
threads come to the same as if it had never been raised.
-/

namespace ManagedBridge

open Text.Utf8

namespace InProcess

namespace Runtime

/-- The runtime as it would be if no exception had been raised on the thread. -/
def withoutException (r : Runtime) (t : ThreadId) : Runtime :=
  match r.threads.get? t with
  | some record => r.keepRecord t { record with pending := none }
  | none => r

theorem withoutException_eq {r : Runtime} {t : ThreadId} {record : ThreadRecord}
    (h : r.threads.get? t = some record) :
    r.withoutException t = r.keepRecord t { record with pending := none } := by
  rw [withoutException, h]

/-- The runtime after an exception on the thread was drained, if there was one. -/
def drained (r : Runtime) (t : ThreadId) (raised : Option String) : Runtime :=
  { r.withoutException t with described := r.described ++ raised.toList }

/-- One call more is counted. -/
def counted (r : Runtime) : Runtime := { r with runtimeCalls := r.runtimeCalls + 1 }

end Runtime

/-- While the table of threads is locked for good, every call ends in a panic. -/
theorem Context.run_call_poisoned {α : Type} {s : Site State} {t : ThreadId}
    (h : s.backend.runtime.poisoned = true) (next : Except RuntimeError Unit → Call State α) :
    (call t >>= next).run s =
      (.error (.raised poisonedLock),
        { s with backend := onRuntime Runtime.counted s.backend }) := by
  refine Routine.run_bind_error ?_ next
  refine (Routine.run_bind_ok (run_modifyRuntime Runtime.counted) _).trans ?_
  exact Routine.run_bind_error (run_onThreads_poisoned (by exact h) _) _

/-- How a conversion ends that comes to `value` if no exception stands in its way, on a thread whose
record is `old`: with this result, and with `raised` pending on the thread. The value is an error
where the memory for it is refused. -/
structure Converted {α : Type} (old : ThreadRecord) (value result : Except BridgeError α)
    (raised : Option String) : Prop where
  /-- An exception that is pending already stays as it is. -/
  kept : ∀ message, old.pending = some message → raised = some message
  failed : (∃ e, result = .error e) ↔ raised.isSome ∨ ∃ e, value = .error e
  returned : raised = none → result = value
  /-- The error says that an exception was pending or that memory was refused. -/
  error : ∀ e, result = .error e →
    e.isFatal = false ∧ ((∃ op, e = .pendingException op) ∨ ∃ op len, e = .allocation op len)

section Converted

variable {α : Type} {r : Runtime} {old : ThreadRecord} {op : String} {len : Nat}
  {value : Except BridgeError (Option α)} {rest : Outcome α}

/-- If a conversion is refused by an exception, or raises one, it fails. -/
theorem Converted.of_raised {e : BridgeError} {message : String}
    (kept : ∀ pending, old.pending = some pending → message = pending)
    (error : (∃ op, e = .pendingException op) ∨ ∃ op len, e = .allocation op len) :
    Converted old value (.error e) (some message) where
  kept pending h := congrArg some (kept pending h)
  failed := by simp
  returned := nofun
  error := by
    rintro _ ⟨⟩
    refine ⟨?_, error⟩
    rcases error with ⟨op, rfl⟩ | ⟨op, len, rfl⟩ <;> rfl

/-- What stands in the way of any conversion is an exception. -/
theorem converted_outcome (h : old.pending = none → Converted old value rest.result rest.pending) :
    Converted old value (r.outcome old op len rest).result (r.outcome old op len rest).pending := by
  unfold Runtime.outcome
  cases hpending : old.pending with
  | some message =>
    refine .of_raised (fun pending hold => ?_) (.inl ⟨op, rfl⟩)
    exact Option.some.inj (hpending.symm.trans hold)
  | none =>
    cases r.failNextAllocation with
    | true => exact .of_raised (by simp [hpending]) (.inr ⟨op, len, rfl⟩)
    | false => exact h hpending

theorem converted_copying [Memory] (r : Runtime) (old : ThreadRecord) (string : String) :
    Converted old
      (if ByteBuffer.fits (encode string).length then .ok (some (.ofBytes (encode string)))
        else .error (.allocation "to_native" (encode string).length))
      (r.copying old string).result (r.copying old string).pending := by
  rw [← map_copied some, Runtime.copying]
  refine converted_outcome fun hcalm => ⟨by simp [hcalm], by simp, fun _ => rfl, ?_⟩
  intro e he
  rw [map_copied] at he
  split at he
  · cases he
  · cases he
    exact ⟨rfl, .inr ⟨_, _, rfl⟩⟩

theorem converted_building (r : Runtime) (old : ThreadRecord) (bytes : List UInt8) :
    Converted old (.ok (some (decodeLossy bytes))) (r.building old bytes).result
      (r.building old bytes).pending := by
  refine converted_outcome fun hcalm => ?_
  split
  · exact .of_raised (by simp [hcalm]) (.inl ⟨_, rfl⟩)
  · exact ⟨by simp [hcalm], by simp, fun _ => rfl, nofun⟩

end Converted

end InProcess

open InProcess

namespace Installation

variable {ρ ι α : Type} [DecidableEq ρ] {r : ρ} {t : ThreadId} {s : Installation ρ ι}

/-- The world as it would be if no exception had been raised on the thread. -/
def withoutException (r : ρ) (t : ThreadId) (w : World (Installation ρ ι)) :
    World (Installation ρ ι) :=
  { w with backend := w.backend.onRuntime r (·.withoutException t) }

variable [DecidableEq ι]

/-- A drain on an attached thread takes its exception away and reports it. -/
theorem run_drain [Memory] {v : World (Installation ρ ι)} {record : ThreadRecord}
    (h : Holds v.backend r t record) :
    ∃ x, (use (r, t) (.drain : ContextUse ι Bool)).run v = (.ok record.pending.isSome, x) ∧
      x.backend = v.backend.onRuntime r (·.drained t record.pending) := by
  have hlook : (context (r, t)).exceptionPending.run v.toSite =
      (.ok record.pending.isSome, ⟨v.backend.onRuntime r (·.keepRecord t record), v.log⟩) :=
    h.run_exceptionPending
  have hsame := Runtime.keepRecord_self h.found
  cases hpending : record.pending with
  | none =>
    rw [hpending] at hlook
    refine ⟨_, run_drain_none hlook, onRuntime_congr ?_⟩
    rw [Runtime.drained, Runtime.withoutException_eq h.found, ThreadRecord.keep_pending hpending,
      hsame]
    simp
  | some message =>
    rw [hpending] at hlook
    have hfound := h.onRuntime (f := (·.keepRecord t record)) (fun _ => rfl) fun _ => rfl
    have hreported :=
      hfound.onRuntime (f := (·.reported t record message)) (fun _ => rfl) fun _ => rfl
    refine ⟨_, run_drain_some hlook (hfound.run_describeException hpending)
      hreported.run_clearException, ?_⟩
    dsimp only
    rw [onRuntime_onRuntime, onRuntime_onRuntime]
    refine onRuntime_congr ?_
    rw [hsame, Runtime.drained, Runtime.withoutException_eq h.found]
    simp [Runtime.reported, Runtime.keepRecord]

omit [DecidableEq ι] in
theorem Aftermath.holds {old : ThreadRecord} {pending : Option String} {v : Installation ρ ι}
    (hopen : (s.runtimes r).runtime.poisoned = false) (h : Aftermath r t old pending s v) :
    Holds v r t { old with pending } := by
  obtain ⟨calls, made, rfl⟩ := h
  refine ⟨?_, ?_⟩ <;> rw [runtimes_set]
  · exact hopen
  · exact Runtime.get?_called ..

/-- After a drain that found `raised`, or nothing, threads come to the same as if no exception had
been raised, and the drain has reported what it found. -/
structure DrainedAway [Memory] (r : ρ) (t : ThreadId) (raised : Option String)
    (v x : World (Installation ρ ι)) : Prop where
  left : x.backend = v.backend.onRuntime r (·.drained t raised)
  after : ∀ {δ : Type} {act : Act (Installation ρ ι) δ}, Conduct act →
    (act.run x).1 = (act.run (withoutException r t v)).1 ∧
      (act.run x).2.backend.unreported = (act.run (withoutException r t v)).2.backend.unreported

omit [DecidableEq ι] in
theorem unreported_drained (r : ρ) (t : ThreadId) (raised : Option String)
    (s : Installation ρ ι) :
    (s.onRuntime r (·.drained t raised)).unreported =
      (s.onRuntime r (·.withoutException t)).unreported := by
  show ((runtimeAt r).set _ s).unreported = ((runtimeAt r).set _ s).unreported
  rw [unreported_set, unreported_set]
  rfl

/-- What a conversion of an attached thread does, if it comes to `value` when nothing stands in its
way. -/
structure FailsAsRaised [Memory] (r : ρ) (t : ThreadId) (old : ThreadRecord)
    (w : World (Installation ρ ι)) (act : Act (Installation ρ ι) (Except BridgeError α))
    (value : Except BridgeError α) : Prop where
  /-- If the table of threads is locked for good, the panic says so, and a call is counted. -/
  locked : (w.backend.runtimes r).runtime.poisoned = true →
    act.run w = (.error (.raised poisonedLock),
      { w with backend := w.backend.onRuntime r Runtime.counted })
  /-- Otherwise it returns, with `raised` pending on the thread. -/
  returns : (w.backend.runtimes r).runtime.poisoned = false → ∃ result v raised,
    act.run w = (.ok result, v) ∧ Converted old value result raised ∧
      Aftermath r t old raised w.backend v.backend ∧
      ∃ x, (use (r, t) (.drain : ContextUse ι Bool)).run v = (.ok raised.isSome, x) ∧
        DrainedAway r t raised v x

section Conversions

variable {old : ThreadRecord} {w v : World (Installation ρ ι)} {b : ι}

/-- Whatever a conversion has left pending is drained. -/
theorem Aftermath.drained [Memory] {raised : Option String}
    (hopen : (w.backend.runtimes r).runtime.poisoned = false)
    (h : Aftermath r t old raised w.backend v.backend) :
    ∃ x, (use (r, t) (.drain : ContextUse ι Bool)).run v = (.ok raised.isSome, x) ∧
      DrainedAway r t raised v x := by
  obtain ⟨x, hrun, hx⟩ := run_drain (h.holds hopen)
  refine ⟨x, hrun, hx, fun {_ _} hact => hact.confined x (withoutException r t v) ?_⟩
  show x.backend.unreported = (v.backend.onRuntime r (·.withoutException t)).unreported
  rw [hx, unreported_drained]

omit [DecidableEq ι] in
/-- A conversion that cannot make its first call ends in the panic of that call. -/
theorem run_bind_locked {γ δ : Type} (hlocked : (w.backend.runtimes r).runtime.poisoned = true)
    {next : Except RuntimeError Unit → Call State γ} (rest : γ → Act (Installation ρ ι) δ) :
    ((liftM (Call.zoom (runtimeAt r) (Context.call t >>= next) : Call (Installation ρ ι) γ) :
        Act (Installation ρ ι) γ) >>= rest).run w =
      (.error (.raised poisonedLock),
        { w with backend := w.backend.onRuntime r Runtime.counted }) := by
  refine Routine.run_bind_error ?_ rest
  rw [Call.run_monadLift, run_zoom (Context.run_call_poisoned hlocked next)]

/-- For an attached thread and a bridge that is initialized, whatever flags are set, whatever is
pending, however many arrays are out and whatever memory there is: a conversion fails exactly if an
exception is pending on the thread afterwards, or if the memory for the copy of a text is refused.
It says then that an exception was pending or that memory was refused, and an exception that was
pending before is the one that is pending. Nothing else is left of it. A drain finds what is
pending, reports it, and from then on threads come to the same as if no exception had been
raised. -/
theorem conversions_fail_as_raised [Memory]
    (attached : (w.backend.runtimes r).runtime.threads.get? t = some old)
    (initialized : (w.backend.bridges b).isInitialized = true) :
    (∀ bytes, FailsAsRaised r t old w (use (r, t) (.managedFromNative b (some bytes)))
      (.ok (some (decodeLossy bytes)))) ∧
    ∀ string, FailsAsRaised r t old w (use (r, t) (.nativeFromManaged b (some string)))
      (if ByteBuffer.fits (encode string).length then .ok (some (.ofBytes (encode string)))
        else .error (.allocation "to_native" (encode string).length)) := by
  obtain ⟨caps, hcaps⟩ := Bridge.exists_capabilities initialized
  refine ⟨fun bytes => ⟨fun hlocked => ?_, fun hopen => ?_⟩,
    fun string => ⟨fun hlocked => ?_, fun hopen => ?_⟩⟩
  · rw [use, Bridge.run_managedFromNative hcaps]
    exact run_bind_locked hlocked _
  · obtain ⟨v, hrun, hleft⟩ := run_managedFromNative ⟨hopen, attached⟩ initialized bytes
    exact ⟨_, v, _, hrun, converted_building _ old bytes, hleft, hleft.drained hopen⟩
  · rw [use, Bridge.run_nativeFromManaged hcaps]
    exact run_bind_locked hlocked _
  · obtain ⟨v, hrun, hleft⟩ := run_nativeFromManaged ⟨hopen, attached⟩ initialized string
    exact ⟨_, v, _, hrun, converted_copying _ old string, hleft, hleft.drained hopen⟩

end Conversions

/-- The runtime throws where a string is built, while two arrays of the thread are out: the
conversion fails with that exception, which is drained. -/
theorem conversions_fail_as_raised_building :
    let ref : Unit × ThreadId := ((), .named "main")
    let thrown := "java/lang/IllegalArgumentException"
    ∃ w v x : World (Installation Unit Unit),
      (use ref (.managedFromNative () (some [104, 105]))).run w =
        (.ok (.error (.pendingException "new_string")), v) ∧
      (v.backend.runtimes ()).runtime.threads.get? (.named "main") =
        some { pending := some thrown, liveArrays := 2, external := true } ∧
      (use ref (.drain : ContextUse Unit Bool)).run v = (.ok true, x) ∧
      (x.backend.runtimes ()).runtime.described = ["before", thrown] := by
  intro ref thrown
  let record : ThreadRecord := { liveArrays := 2, external := true }
  let runtime : Runtime :=
    { threads := ⟨[(.named "main", record)]⟩, described := ["before"], throwOnConstruct := true }
  let w : World (Installation Unit Unit) :=
    ⟨⟨⟨fun _ => { runtime }, fun _ => ⟨⟨some ()⟩, ⟨some stringCapabilities⟩⟩⟩, []⟩, .zero⟩
  have attached : (w.backend.runtimes ()).runtime.threads.get? (.named "main") = some record := rfl
  obtain ⟨result, v, raised, hrun, -, hleft, x, hdrain, hdrained⟩ :=
    ((conversions_fail_as_raised (b := ()) attached rfl).1 [104, 105]).returns rfl
  obtain ⟨v', hrun', hleft'⟩ :=
    run_managedFromNative (b := ()) ⟨rfl, attached⟩ rfl [104, 105]
  cases hrun.symm.trans hrun'
  have hthrown : Holds v.backend () (.named "main") { record with pending := some thrown } :=
    hleft'.holds rfl
  have hrecord := (hleft.holds rfl).found.symm.trans hthrown.found
  obtain rfl : raised = some thrown := congrArg ThreadRecord.pending (Option.some.inj hrecord)
  refine ⟨w, v, x, hrun, hthrown.found, hdrain, ?_⟩
  obtain ⟨calls, made, hv⟩ := hleft
  rw [hdrained.left, runtimes_onRuntime, hv, runtimes_set]
  rfl

end Installation

end ManagedBridge
