import ManagedBridge.Proofs.Ledger

/-!
# What the calls of a context leave

From a runtime that a thread is attached to, the calls of the thread's context lead to that runtime
with another record of the thread, and with other arrays. What a call answers and what it leaves can
be told from the record, from the arrays and from the flags of the runtime.
-/

namespace ManagedBridge.InProcess

open Text.Utf8

/-- The runtime after calls of a thread's context: with the thread's record and the flag for the
next allocation as given, and with another count of calls. -/
def Runtime.called (r : Runtime) (t : ThreadId) (record : ThreadRecord) (armed : Bool)
    (calls : Nat) : Runtime :=
  { r.keepRecord t record with failNextAllocation := armed, runtimeCalls := calls }

theorem Runtime.keepRecord_called (r : Runtime) (t : ThreadId) (old record : ThreadRecord)
    (armed : Bool) (calls : Nat) :
    (r.called t old armed calls).keepRecord t record = r.called t record armed calls := by
  simp [called, keepRecord]

theorem Runtime.get?_called (r : Runtime) (t : ThreadId) (record : ThreadRecord) (armed : Bool)
    (calls : Nat) : (r.called t record armed calls).threads.get? t = some record := by
  simp [called, keepRecord]

/-- From a runtime `start`, calls of the thread's context have led to this state, in which `made`
are the arrays. -/
structure Called (start : Runtime) (t : ThreadId) (record : ThreadRecord) (armed : Bool)
    (made : List (ZeroFilled UInt8)) (s : State) : Prop where
  runtime : ∃ calls, s.runtime = start.called t record armed calls
  arrays : s.arrays = made

/-- The record with an exception raised. -/
def ThreadRecord.raise (record : ThreadRecord) (message : String) : ThreadRecord :=
  { record with pending := some message }

/-- The record with one array more. -/
def ThreadRecord.handOut (record : ThreadRecord) : ThreadRecord :=
  { record with liveArrays := record.liveArrays + 1 }

/-- No call has been made yet. -/
theorem Called.refl {s : State} {t : ThreadId} {record : ThreadRecord}
    (h : s.runtime.threads.get? t = some record) :
    Called s.runtime t record s.runtime.failNextAllocation s.arrays s := by
  refine ⟨⟨s.runtime.runtimeCalls, ?_⟩, rfl⟩
  simp [Runtime.called, Runtime.keepRecord, Table.set_of_get? h]

namespace Context

variable {α : Type} {start : Runtime} {t : ThreadId} {record : ThreadRecord} {armed : Bool}
  {made : List (ZeroFilled UInt8)} {message : String}

/-- What changes the runtime in its count of calls only. -/
theorem called_count :
    (modifyRuntime fun r => { r with runtimeCalls := r.runtimeCalls + 1 }).Returns
      (Called start t record armed made) fun _ => Called start t record armed made := by
  refine Call.returns_step fun s hs => ⟨?_, hs.arrays⟩
  obtain ⟨calls, hr⟩ := hs.runtime
  exact ⟨calls + 1, by simp [hr, Runtime.called]⟩

theorem called_content {array : ArrayId} {stored : ZeroFilled UInt8}
    (h : made[array]? = some stored) :
    (content array).Returns (Called start t record armed made)
      fun found s => found = stored ∧ Called start t record armed made s := by
  refine Call.returns_step fun s hs => ⟨?_, hs⟩
  simp [List.getD_eq_getElem?_getD, hs.arrays, h]

theorem called_takeAllocationFailure :
    takeAllocationFailure.Returns (Called start t record armed made)
      fun fails s => fails = armed ∧ Called start t record false made s := by
  refine Call.returns_step fun s hs => ?_
  obtain ⟨calls, hr⟩ := hs.runtime
  exact ⟨by simp [hr, Runtime.called], ⟨calls, by simp [hr, Runtime.called]⟩, hs.arrays⟩

theorem called_getRuntime :
    getRuntime.Returns (Called start t record armed made) fun r s =>
      r.throwOnConstruct = start.throwOnConstruct ∧ Called start t record armed made s := by
  refine Call.returns_step fun s hs => ⟨?_, hs⟩
  obtain ⟨calls, hr⟩ := hs.runtime
  rw [hr]
  rfl

variable (hopen : start.poisoned = false)

include hopen

/-- A change of the record is one of the record that was kept last. -/
theorem called_onRecord {f : ThreadRecord → Except String (α × ThreadRecord)} {a : α}
    {changed : ThreadRecord} (hf : f record = .ok (a, changed)) :
    (onRecord t f).Returns (Called start t record armed made)
      fun b s => b = a ∧ Called start t changed armed made s := by
  intro s hs
  obtain ⟨calls, hr⟩ := hs.runtime
  have hopen' : s.backend.runtime.poisoned = false := by
    rw [hr]
    exact hopen
  have hfound : s.backend.runtime.threads.get? t = some record := by
    rw [hr, Runtime.get?_called]
  refine ⟨a, _, run_onRecord hopen' hfound hf, rfl, ⟨calls, ?_⟩, hs.arrays⟩
  rw [← Runtime.keepRecord_called start t record changed, ← hr]
  rfl

/-- A call is refused while an exception is pending. -/
theorem called_call :
    (call t).Returns (Called start t record armed made) fun r s =>
      r = (if record.pending.isSome then .error .exceptionPending else .ok ()) ∧
        Called start t record armed made s := by
  refine called_count.bind fun _ => ?_
  refine (called_onRecord hopen rfl).bind_value ?_
  dsimp only
  split <;> exact .pure_value _

theorem called_throwException (message : String) :
    (throwException t message).Returns (Called start t record armed made)
      fun _ => Called start t (record.raise message) armed made :=
  (called_onRecord hopen rfl).mono fun _ _ hs => hs.2

theorem called_allocate (array : ZeroFilled UInt8) :
    (allocate t array).Returns (Called start t record false made)
      fun r s => r = .ok made.length ∧
        Called start t record.handOut false (made ++ [array]) s := by
  have hcount : (modifyRecord t fun old => { old with liveArrays := old.liveArrays + 1 }).Returns
      (Called start t record false made)
      fun b s => b = () ∧ Called start t record.handOut false made s :=
    called_onRecord hopen rfl
  refine called_takeAllocationFailure.bind_value (hcount.bind_value ?_)
  intro s hs
  exact ⟨_, _, rfl, by simp [hs.arrays], hs.runtime, by simp [hs.arrays]⟩

/-- The allocation that is to fail raises an exception, and the next is not to fail. -/
theorem called_allocate_refused (array : ZeroFilled UInt8) :
    (allocate t array).Returns (Called start t record true made)
      fun r s => r = .error .outOfMemory ∧
        Called start t (record.raise "java/lang/OutOfMemoryError") false made s := by
  refine called_takeAllocationFailure.bind_value ?_
  exact (called_throwException hopen _).bind fun _ => .pure fun _ hs => ⟨rfl, hs⟩

theorem called_call_then (hcalm : record.pending = none)
    {next : Except RuntimeError Unit → Call State (Except RuntimeError α)}
    {Q : Except RuntimeError α → State → Prop}
    (goes : (next (.ok ())).Returns (Called start t record armed made) Q) :
    (call t >>= next).Returns (Called start t record armed made) Q := by
  refine (called_call hopen).bind_value ?_
  simpa [hcalm] using goes

theorem called_call_refused (hpending : record.pending.isSome)
    {next : Except RuntimeError Unit → Call State (Except RuntimeError α)}
    (stops : ∀ e, next (.error e) = pure (.error e)) :
    (call t >>= next).Returns (Called start t record armed made)
      fun r s => r = .error .exceptionPending ∧ Called start t record armed made s := by
  refine (called_call hopen).bind_value ?_
  rw [if_pos hpending, stops]
  exact .pure_value _

end Context

open Context

section Steps

variable {start : Runtime} {t : ThreadId} {record : ThreadRecord} {armed : Bool}
  {made : List (ZeroFilled UInt8)} {array : ArrayId} {stored : ZeroFilled UInt8}
  (hopen : start.poisoned = false) (hcalm : record.pending = none)

include hopen hcalm

theorem called_stringBytes (caps : Capabilities) (string : String) :
    ((context t).stringBytes caps string).Returns (Called start t record false made)
      fun r s => r = .ok made.length ∧
        Called start t record.handOut false (made ++ [.ofList (encode string)]) s :=
  called_call_then hopen hcalm (called_allocate hopen _)

theorem called_newByteArray (len : Nat) :
    ((context t).newByteArray len).Returns (Called start t record false made)
      fun r s => r = .ok made.length ∧
        Called start t record.handOut false (made ++ [.zeros len]) s :=
  called_call_then hopen hcalm (called_allocate hopen _)

theorem called_byteArrayLen (h : made[array]? = some stored) :
    ((context t).byteArrayLen array).Returns (Called start t record armed made)
      fun r s => r = .ok stored.length ∧ Called start t record armed made s :=
  called_call_then hopen hcalm ((called_content h).bind_value (.pure_value _))

theorem called_readByteArray (h : made[array]? = some stored) :
    ((context t).readByteArray array stored.length).Returns (Called start t record armed made)
      fun r s => r = .ok stored.toList ∧ Called start t record armed made s := by
  refine called_call_then hopen hcalm ((called_content h).bind_value ?_)
  rw [if_pos (Nat.le_refl _), ZeroFilled.slice_eq, List.drop_zero, ← ZeroFilled.length_toList,
    List.take_length]
  exact .pure_value _

theorem called_writeByteArray {bytes : List UInt8} (h : made[array]? = some stored)
    (same : stored.length = bytes.length) :
    ((context t).writeByteArray array bytes).Returns (Called start t record armed made)
      fun r s => r = .ok () ∧
        Called start t record armed (made.set array (stored.write 0 bytes)) s := by
  refine called_call_then hopen hcalm ((called_content h).bind_value ?_)
  rw [if_pos (Nat.le_of_eq same.symm)]
  intro s hs
  exact ⟨_, _, rfl, rfl, hs.runtime, by simp [hs.arrays]⟩

theorem called_newString (constructs : start.throwOnConstruct = false)
    (h : made[array]? = some stored) (caps : Capabilities) :
    ((context t).newString caps array).Returns (Called start t record armed made)
      fun r s => r = .ok (decodeLossy stored.toList) ∧ Called start t record armed made s := by
  refine called_call_then hopen hcalm (called_getRuntime.bind fun r => ?_)
  rintro s ⟨hr, hs⟩
  simp only [hr, constructs, Bool.false_eq_true, if_false]
  refine ((called_content h).bind_value ?_) s hs
  exact .pure_value _

theorem called_newString_throws (throws : start.throwOnConstruct = true) (caps : Capabilities) :
    ((context t).newString caps array).Returns (Called start t record armed made)
      fun r s => r = .error .exceptionPending ∧
        Called start t (record.raise "java/lang/IllegalArgumentException") armed made s := by
  refine called_call_then hopen hcalm (called_getRuntime.bind fun r => ?_)
  rintro s ⟨hr, hs⟩
  simp only [hr, throws, if_true]
  refine ((called_throwException hopen _).bind fun _ => ?_) s hs
  exact .pure fun _ hs => ⟨rfl, hs⟩

omit hcalm in
/-- The array is released, whatever the arrays are by then. -/
theorem called_releaseBytes (record : ThreadRecord) (array : ArrayId) :
    ((context t).releaseBytes array).Returns
      (fun s => ∃ made, Called start t record.handOut armed made s)
      fun _ s => ∃ made, Called start t record armed made s := by
  rintro s ⟨made, hs⟩
  have hrelease : ((context t).releaseBytes array).Returns
      (Called start t record.handOut armed made)
      fun u s => u = () ∧ Called start t record armed made s :=
    called_onRecord hopen rfl
  obtain ⟨a, v, hrun, -, hv⟩ := hrelease s hs
  exact ⟨a, v, hrun, made, hv⟩

end Steps

end ManagedBridge.InProcess
