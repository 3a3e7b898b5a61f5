import ManagedBridge.Proofs.Blocks
import ManagedBridge.Proofs.Provenance

/-!
# Lengths on their way through a machine

A length is a word of the process, a signed half word of the machine and, with one byte more, the
size of a block. On the way from one to the other it stays what it is: what would not fit is refused
before anything is asked of the machine, and a report that is no length before memory is asked for.
-/

namespace ManagedBridge

variable {σ κ ς β α γ ω : Type}

/-- The routine returns, and what it adds to the record and what it returns are as `P` says. -/
def Routine.Adds (record : σ → List ω) (r : Routine σ α) (P : List ω → α → Prop) : Prop :=
  ∀ s, ∃ a t added, r.run s = (.ok a, t) ∧ record t = record s ++ added ∧ P added a

namespace Routine.Adds

variable {record : σ → List ω} {r : Routine σ α} {P : List ω → α → Prop}

theorem pure {a : α} (h : P [] a) : Adds record (Pure.pure a) P :=
  fun s => ⟨a, s, [], rfl, (List.append_nil _).symm, h⟩

theorem bind {f : α → Routine σ γ} {Q : List ω → γ → Prop} (h : Adds record r P)
    (hf : ∀ added a, P added a → Adds record (f a) fun more c => Q (added ++ more) c) :
    Adds record (r >>= f) Q := by
  intro s
  obtain ⟨a, t, added, hrun, hadded, hP⟩ := h s
  obtain ⟨c, u, more, hnext, hmore, hQ⟩ := hf added a hP t
  refine ⟨c, u, added ++ more, (run_bind_ok hrun f).trans hnext, ?_, hQ⟩
  rw [hmore, hadded, List.append_assoc]

theorem mono {Q : List ω → α → Prop} (h : Adds record r P)
    (hPQ : ∀ added a, P added a → Q added a) : Adds record r Q := by
  intro s
  obtain ⟨a, t, added, hrun, hadded, hP⟩ := h s
  exact ⟨a, t, added, hrun, hadded, hPQ added a hP⟩

theorem map {Q : List ω → γ → Prop} (h : Adds record r P) (f : α → γ)
    (hf : ∀ added a, P added a → Q added (f a)) : Adds record (f <$> r) Q := by
  rw [map_eq_pure_bind]
  refine h.bind fun added a ha => .pure ?_
  rw [List.append_nil]
  exact hf added a ha

end Routine.Adds

abbrev Call.Adds (record : σ → List ω) (call : Call σ α) (P : List ω → α → Prop) : Prop :=
  Routine.Adds (fun s => record s.backend) call P

abbrev Act.Adds (record : σ → List ω) (act : Act σ α) (P : List ω → α → Prop) : Prop :=
  Routine.Adds (fun w => record w.backend) act P

theorem Call.Adds.monadLift {record : σ → List ω} {call : Call σ α} {P : List ω → α → Prop}
    (h : call.Adds record P) : Act.Adds record (liftM call) P := by
  intro w
  obtain ⟨a, s, added, hrun, hadded, hP⟩ := h w.toSite
  exact ⟨a, { w with toSite := s }, added, by rw [run_monadLift, hrun], hadded, hP⟩

theorem Act.adds_count {record : σ → List ω} (event : BridgeEvent) :
    (Act.count event : Act σ Unit).Adds record fun added _ => added = [] :=
  fun w => ⟨(), { w with events := w.events.increment event }, [], rfl, by simp, rfl⟩

theorem Act.adds_note {record : σ → List ω} (line : LogLine) :
    (Act.note line : Act σ Unit).Adds record fun added _ => added = [] :=
  fun w => ⟨(), { w with log := line :: w.log }, [], rfl, by simp, rfl⟩

/-- What is put together adds what its parts add, up to the first that fails. -/
theorem adds_bind_except {e : Type} {record : σ → List ω} {x : ExceptT e (Call σ) α}
    {f : α → ExceptT e (Call σ) γ} {P : List ω → Except e α → Prop}
    {Q : List ω → Except e γ → Prop} (hx : x.run.Adds record P)
    (fails : ∀ added error, P added (.error error) → Q added (.error error))
    (goes : ∀ added a, P added (.ok a) →
      (f a).run.Adds record fun more r => Q (added ++ more) r) :
    (x >>= f).run.Adds record Q := by
  show Routine.Adds _ (x.run >>= ExceptT.bindCont f) Q
  refine Routine.Adds.bind hx fun added r hr => ?_
  cases r with
  | error error => exact .pure (by simpa using fails added error hr)
  | ok a => exact goes added a hr

namespace Marshal

/-- A conversion adds to a record what getting its array and using it add, if giving it back adds
nothing. -/
theorem throughArray_adds {record : σ → List ω} {ctx : CallContext σ κ ς β} {event : BridgeEvent}
    {line : α → LogLine} {classify : RuntimeError → BridgeError}
    {acquire : Call σ (Except RuntimeError β)} {use : β → Call σ (Except BridgeError α)}
    {P : List ω → Except RuntimeError β → Prop}
    {Q : List ω → Except BridgeError (Option α) → Prop}
    (hrelease : ∀ array, (ctx.releaseBytes array).Adds record fun added _ => added = [])
    (hacquire : acquire.Adds record P)
    (hrefused : ∀ added e, P added (.error e) → Q added (.error (classify e)))
    (huse : ∀ added array, P added (.ok array) →
      (use array).Adds record fun more used => Q (added ++ more) (used.map some)) :
    (throughArray ctx event line classify acquire use).Adds record Q := by
  rw [throughArray]
  refine hacquire.monadLift.bind fun added acquired hacquired => ?_
  cases acquired with
  | error e => exact .pure (by simpa using hrefused added e hacquired)
  | ok array =>
    refine (huse added array hacquired).monadLift.bind fun more used hused => ?_
    refine (hrelease array).monadLift.bind fun _ _ hnone => ?_
    subst hnone
    cases used with
    | error e =>
      have hended : Q (added ++ more) (.error e) := hused
      exact .pure (by simpa using hended)
    | ok a =>
      have hended : Q (added ++ more) (.ok (some a)) := hused
      refine (Act.adds_count event).bind fun _ _ hnone => ?_
      subst hnone
      refine (Act.adds_note (line a)).bind fun _ _ hnone => ?_
      subst hnone
      exact .pure (by simpa using hended)

end Marshal

namespace Jvm

variable {μ ε e e' : Type}

/-- A length that passes between the bridge and a machine. -/
inductive Measure
  /-- An array of the length is asked for. -/
  | asked (len : Int32)
  /-- The machine reports the length of an array. -/
  | reported (len : Int32)
  /-- So many bytes are read from a position on. -/
  | read (start len : Int32)
  /-- These bytes are written from a position on, and their number is given beside them. -/
  | written (start len : Int32) (bytes : List Int8)
  deriving DecidableEq

def NativeInterface.measure? (jni : NativeInterface μ) : Note μ → Option Measure
  | (_, .newByteArray len) => some (.asked len)
  | (m, .getArrayLength array) => some (.reported (jni.getArrayLength array m).1)
  | (_, .getByteArrayRegion _ start len) => some (.read start len)
  | (_, .setByteArrayRegion _ start len bytes) => some (.written start len bytes)
  | _ => none

/-- The lengths that have passed, in their order. -/
def measures (jni : NativeInterface μ) (l : NotedLink μ) : List Measure :=
  l.machine.2.filterMap jni.measure?

section Calls

variable {jni : NativeInterface μ} {entry : Entry} {call : NativeCall}

theorem adds_enter {f : StateM μ α} :
    (Checked.enter (jni.recorded Prod.mk) entry (call.recorded Prod.mk f)).run.Adds (measures jni)
      fun added r =>
        (jni.provides entry = true ∧
          ∃ m, added = (jni.measure? (m, call)).toList ∧ r = .ok (f m).1) ∨
        jni.provides entry = false ∧ added = [] ∧ r = .error (.missingEntry entry) := by
  unfold Checked.enter
  split
  case isTrue hprovided =>
    intro s
    refine ⟨_, _, _, rfl, ?_, .inl ⟨hprovided, s.backend.machine.1, rfl, rfl⟩⟩
    show List.filterMap _ (_ ++ [_]) = _
    rw [List.filterMap_append]
    refine congrArg _ ?_
    cases h : jni.measure? (s.backend.machine.1, call) <;> simp [h]
  case isFalse hlacking =>
    exact .pure (.inr ⟨eq_false_of_ne_true hlacking, rfl, rfl⟩)

/-- If the table has the function, the machine is told this, and otherwise the call fails before
anything is told. -/
def Tells (jni : NativeInterface μ) (entry : Entry) (told added : List Measure)
    (r : Except e α) : Prop :=
  jni.provides entry = true ∧ added = told ∨
    jni.provides entry = false ∧ added = [] ∧ ∃ error, r = .error error

theorem Tells.eq_nil {added : List Measure} {r : Except e α} (h : Tells jni entry [] added r) :
    added = [] :=
  h.elim And.right fun h => h.2.1

theorem Tells.isPrefix {told added : List Measure} {r : Except e α}
    (h : Tells jni entry told added r) : added <+: told := by
  rcases h with ⟨-, rfl⟩ | ⟨-, rfl, -⟩
  · exact List.prefix_rfl
  · exact List.nil_prefix

theorem Tells.ne_nil {told added : List Measure} {r : Except e α}
    (h : Tells jni entry told added r) (hprovided : jni.provides entry = true) (htold : told ≠ []) :
    added ≠ [] := by
  rcases h with ⟨-, rfl⟩ | ⟨hlacking, -⟩
  · exact htold
  · rw [hprovided] at hlacking
    cases hlacking

/-- What has gone well so far has told what there is to tell, whatever comes of it. -/
theorem Tells.of_ok {told added : List Measure} {a : α} {r : Except e' β}
    (h : Tells jni entry told added (.ok a : Except e α)) : Tells jni entry told added r := by
  rcases h with h | ⟨-, -, error, hr⟩
  · exact .inl h
  · cases hr

theorem Tells.of_error {told added : List Measure} {error : e} {error' : e'}
    (h : Tells jni entry told added (.error error : Except e α)) :
    Tells jni entry told added (.error error' : Except e' β) :=
  h.imp_right fun h => ⟨h.1, h.2.1, error', rfl⟩

theorem adds_exceptionCheck :
    (Checked.exceptionCheck (jni.recorded Prod.mk)).run.Adds (measures jni)
      fun added r => added = [] ∧ r ≠ .error (.failed .noMemory) := by
  refine (adds_enter (f := jni.exceptionCheck)).mono fun added r h => ?_
  rcases h with ⟨-, m, rfl, rfl⟩ | ⟨-, rfl, rfl⟩
  · exact ⟨rfl, nofun⟩
  · exact ⟨rfl, nofun⟩

/-- Lack of memory is never what a checked call is refused for. -/
theorem adds_orException {f : StateM μ α} {told : List Measure}
    (hcall : ∀ m, (jni.measure? (m, call)).toList = told) :
    (Checked.orException (jni.recorded Prod.mk) entry (call.recorded Prod.mk f)).run.Adds
      (measures jni) fun added r =>
        Tells jni entry told added r ∧ r ≠ .error (.failed .noMemory) := by
  refine adds_bind_except adds_enter ?_ ?_
  · rintro added error (⟨-, m, -, hr⟩ | ⟨hlacking, rfl, hr⟩)
    · cases hr
    · exact ⟨.inr ⟨hlacking, rfl, error, rfl⟩, by rw [hr]; nofun⟩
  · rintro added a (⟨hprovided, m, rfl, -⟩ | ⟨-, -, hr⟩)
    · refine adds_bind_except adds_exceptionCheck ?_ ?_
      · rintro _ error ⟨rfl, hmemory⟩
        exact ⟨.inl ⟨hprovided, by simp [hcall]⟩, by simpa using hmemory⟩
      · rintro _ pending ⟨rfl, -⟩
        cases pending with
        | true => exact .pure ⟨.inl ⟨hprovided, by simp [hcall]⟩, nofun⟩
        | false => exact .pure ⟨.inl ⟨hprovided, by simp [hcall]⟩, nofun⟩
    · cases hr

theorem adds_orNull {f : StateM μ (Option α)} {told : List Measure}
    (hcall : ∀ m, (jni.measure? (m, call)).toList = told) :
    (Checked.orNull (jni.recorded Prod.mk) entry (call.recorded Prod.mk f)).run.Adds
      (measures jni) fun added r =>
        Tells jni entry told added r ∧ r ≠ .error (.failed .noMemory) := by
  refine adds_bind_except (adds_orException hcall) ?_ ?_
  · rintro added error ⟨htold, hmemory⟩
    exact ⟨htold.of_error, by simpa using hmemory⟩
  · rintro added a? ⟨htold, -⟩
    cases a? with
    | none => exact .pure ⟨by simpa using htold.of_ok, nofun⟩
    | some a => exact .pure ⟨by simpa using htold.of_ok, nofun⟩

end Calls

theorem CallError.toRuntime_eq_outOfMemory {error : CallError}
    (h : error.toRuntime = .outOfMemory) : error = .failed .noMemory := by
  rcases error with _ | _ | _ | _ | status
  case failed => cases status <;> first | rfl | cases h
  all_goals cases h

namespace Context

variable {jni : NativeInterface μ}

/-- What a checked call tells is told as well if its error is read as one of the bridge. -/
theorem adds_ofChecked {entry : Entry} {told : List Measure} {x : Checked (μ × List (Note μ)) α}
    (h : x.run.Adds (measures jni) fun added r =>
      Tells jni entry told added r ∧ r ≠ .error (.failed .noMemory)) :
    (Mapped.ofChecked x).run.Adds (measures jni) fun added r =>
      Tells jni entry told added r ∧ r ≠ .error .outOfMemory := by
  refine h.map _ fun added r ⟨htold, hmemory⟩ => ?_
  cases r with
  | ok a => exact ⟨htold.of_ok, nofun⟩
  | error error =>
    refine ⟨htold.of_error, fun heq => hmemory ?_⟩
    rw [CallError.toRuntime_eq_outOfMemory (Except.error.inj heq)]

theorem adds_stringBytes (caps : Capabilities) (string : Ref) :
    (stringBytes (jni.recorded Prod.mk) caps string).run.Adds (measures jni)
      fun added _ => added = [] := by
  refine adds_bind_except (adds_ofChecked (adds_orException fun _ => rfl))
    (fun _ _ h => h.1.eq_nil) ?_
  rintro added (_ | _) ⟨htold, -⟩
  · exact .pure (by simpa using htold.eq_nil)
  · exact .pure (by simpa using htold.eq_nil)

/-- The length is that which the machine reports, and an error if it is negative. -/
theorem adds_byteArrayLen (array : Handle) :
    (byteArrayLen (jni.recorded Prod.mk) array).run.Adds (measures jni) fun added r =>
      (∃ error, added = [] ∧ r = .error error) ∨
        ∃ len : Int32, added = [.reported len] ∧
          r = if len < 0 then .error (.other ("negative array length " ++ toString len.toInt))
            else .ok len.toInt.toNat := by
  have hcalled : (Mapped.ofChecked (Checked.getArrayLength (jni.recorded Prod.mk)
      (some array))).run.Adds (measures jni) fun added r =>
        (∃ error, added = [] ∧ r = .error error) ∨
          ∃ len : Int32, added = [.reported len] ∧ r = .ok len := by
    refine (adds_enter (f := jni.getArrayLength (some array))).map _ ?_
    rintro added r (⟨-, m, rfl, rfl⟩ | ⟨-, rfl, rfl⟩)
    · exact .inr ⟨_, rfl, rfl⟩
    · exact .inl ⟨_, rfl, rfl⟩
  refine adds_bind_except hcalled ?_ ?_
  · rintro added error (⟨_, hadded, -⟩ | ⟨_, -, hr⟩)
    · exact .inl ⟨error, hadded, rfl⟩
    · cases hr
  · rintro added len (⟨_, -, hr⟩ | ⟨_, rfl, hr⟩)
    · cases hr
    · cases hr
      by_cases hnegative : len < 0
      · rw [if_pos hnegative]
        exact .pure (.inr ⟨len, rfl, by rw [if_pos hnegative]⟩)
      · rw [if_neg hnegative]
        exact .pure (.inr ⟨len, rfl, by rw [if_neg hnegative]⟩)

theorem adds_readByteArray (array : Handle) (len : Nat) :
    (readByteArray (jni.recorded Prod.mk) array len).run.Adds (measures jni)
      (Tells jni .getByteArrayRegion [.read 0 (.ofNat len)]) := by
  refine adds_bind_except (adds_ofChecked (adds_orException fun _ => rfl)) ?_ ?_
  · rintro added error ⟨htold, -⟩
    exact htold.of_error
  · rintro added bytes ⟨htold, -⟩
    exact .pure (by simpa using htold.of_ok)

/-- A length that an array can have is asked for as it is. -/
theorem adds_newByteArray {len : Nat} (h : len ≤ maxArrayLen) :
    (newByteArray (jni.recorded Prod.mk) len).run.Adds (measures jni) fun added r =>
      Tells jni .newByteArray [.asked (.ofNat len)] added r ∧ r ≠ .error .outOfMemory := by
  rw [newByteArray, if_pos h]
  exact adds_ofChecked (adds_orNull fun _ => rfl)

theorem adds_writeByteArray (array : Handle) (bytes : List UInt8) :
    (writeByteArray (jni.recorded Prod.mk) array bytes).run.Adds (measures jni)
      (Tells jni .setByteArrayRegion
        [.written 0 (.ofNat bytes.length) (bytes.map UInt8.toInt8)]) := by
  refine (adds_ofChecked (adds_orException fun _ => ?_)).mono fun _ _ h => h.1
  simp [NativeInterface.measure?]

theorem adds_newString (caps : Capabilities) (array : Handle) :
    (newString (jni.recorded Prod.mk) caps array).run.Adds (measures jni)
      fun added _ => added = [] := by
  refine adds_bind_except (adds_ofChecked (adds_orNull fun _ => rfl)) (fun _ _ h => h.1.eq_nil) ?_
  rintro added string ⟨htold, -⟩
  exact .pure (by simpa using htold.eq_nil)

theorem adds_dropLocal (ref : Ref) :
    (dropLocal (jni.recorded Prod.mk) ref).Adds (measures jni) fun added _ => added = [] := by
  refine Routine.Adds.bind (adds_enter (f := jni.deleteLocalRef ref)) ?_
  rintro added r (⟨-, m, rfl, rfl⟩ | ⟨-, rfl, rfl⟩)
  · exact .pure rfl
  · exact fun s => ⟨(), _, [], rfl, (List.append_nil _).symm, rfl⟩

end Context

theorem ofRuntime_eq_allocation {op op' : String} {len len' : Nat} {error : RuntimeError}
    (h : BridgeError.ofRuntime op len error = .allocation op' len') :
    op = op' ∧ error = .outOfMemory := by
  cases error <;> cases h
  exact ⟨rfl, rfl⟩

theorem error_ofRuntime_ne {op op' : String} (hop : op ≠ op') {len len' : Nat}
    {error : RuntimeError} :
    (.error (.ofRuntime op len error) : Except BridgeError α) ≠ .error (.allocation op' len') :=
  fun h => hop (ofRuntime_eq_allocation (Except.error.inj h)).1

/-- A report that is a length goes back to the machine as it came. -/
theorem ofNat_toNat_toInt {len : Int32} (h : 0 ≤ len) : Int32.ofNat len.toInt.toNat = len := by
  have hnonneg : 0 ≤ len.toInt := Int32.le_iff_toInt_le.mp h
  have hlt : len.toInt < 2 ^ 31 := len.toInt_lt
  apply Int32.toInt_inj.mp
  rw [Int32.toInt_ofNat_of_lt (by omega)]
  omega

/-- Memory is what decides about a report that is a length. -/
theorem fits_eq_grants [Memory] (len : Int32) :
    ByteBuffer.fits len.toInt.toNat = Memory.grants (len.toInt.toNat + 1) := by
  have hlt : len.toInt < 2 ^ 31 := len.toInt_lt
  have hlarge : 2 ^ 31 ≤ ByteBuffer.maxRequest := by decide
  have hrequest : len.toInt.toNat + 1 ≤ ByteBuffer.maxRequest := by omega
  rw [ByteBuffer.fits, decide_eq_true hrequest, Bool.true_and]

/-- How the lengths go while a string is copied out. -/
inductive Copies [Memory] (jni : NativeInterface μ) :
    List Measure → Except BridgeError (Option ByteBuffer) → Prop
  /-- No length has been reported. -/
  | unreported (error : BridgeError) : Copies jni [] (.error error)
  /-- A negative one is refused, before memory is asked for and before anything is read. -/
  | negative {len : Int32} (negative : len < 0) : Copies jni [.reported len]
      (.error (.runtime "byte_array_len"
        (.other ("negative array length " ++ toString len.toInt))))
  /-- There is no memory. -/
  | refused {len : Int32} (isLength : 0 ≤ len)
    (refused : Memory.grants (len.toInt.toNat + 1) = false) :
    Copies jni [.reported len] (.error (.allocation "to_native" len.toInt.toNat))
  /-- There is a buffer of this length, but the machine does not have the function that reads. -/
  | unread {len : Int32} {b : ByteBuffer} (isLength : 0 ≤ len)
    (granted : ByteBuffer.zeroed? len.toInt.toNat = some b)
    (exact : b.len = len.toInt.toNat) (lacking : jni.provides .getByteArrayRegion = false)
    (error : BridgeError) : Copies jni [.reported len] (.error error)
  /-- There is a buffer of this length, and just as much is read. -/
  | read {len : Int32} {b : ByteBuffer} {r : Except BridgeError (Option ByteBuffer)}
    (isLength : 0 ≤ len) (granted : ByteBuffer.zeroed? len.toInt.toNat = some b)
    (exact : b.len = len.toInt.toNat)
    (made : ∀ b', r = .ok (some b') → b'.len = len.toInt.toNat) :
    Copies jni [.reported len, .read 0 len] r

/-- How the length goes while a string is built from some bytes. -/
structure Hands (jni : NativeInterface μ) (bytes : List UInt8)
    (act : Act (NotedLink μ) (Except BridgeError (Option Ref))) : Prop where
  /-- Bytes are refused without any call exactly if they are more than an array can have. -/
  refused_iff : ∀ w, act.run w =
    (.ok (.error (.allocation "new_byte_array" bytes.length)), w) ↔
      Nat.pow 2 31 - 1 < bytes.length
  handed : bytes.length ≤ Nat.pow 2 31 - 1 → act.Adds (measures jni) fun added r =>
    ∃ len : Int32, len.toInt = bytes.length ∧
      added <+: [.asked len, .written 0 len (bytes.map UInt8.toInt8)] ∧
      (jni.provides .newByteArray = true → added ≠ []) ∧
      r ≠ .error (.allocation "new_byte_array" bytes.length)

section Conversions

variable {vm : InvocationInterface μ ε} {t : ThreadId} {c : Context ε}

theorem copyOut_adds [Memory] (array : Handle) :
    (Marshal.copyOut (c.operations (vm.recorded Prod.mk) t) array).Adds
      (measures (vm.functions c.env)) fun added r =>
        Copies (vm.functions c.env) added (r.map some) := by
  refine Routine.Adds.bind (Context.adds_byteArrayLen array) ?_
  rintro added r (⟨error, rfl, rfl⟩ | ⟨len, rfl, rfl⟩)
  · exact .pure (.unreported _)
  · by_cases hnegative : len < 0
    · rw [if_pos hnegative]
      exact .pure (.negative hnegative)
    · have hlength : 0 ≤ len := Int32.not_lt.mp hnegative
      rw [if_neg hnegative]
      dsimp only
      cases hfits : ByteBuffer.fits len.toInt.toNat with
      | false => exact .pure (.refused hlength ((fits_eq_grants len).symm.trans hfits))
      | true =>
        have hgranted : ByteBuffer.zeroed? len.toInt.toNat =
            some (.ofBytes (List.replicate len.toInt.toNat 0)) := if_pos hfits
        have hlen : (ByteBuffer.ofBytes (List.replicate len.toInt.toNat 0)).len =
            len.toInt.toNat := by
          rw [ByteBuffer.len_ofBytes, List.length_replicate]
        refine Routine.Adds.bind (Context.adds_readByteArray array len.toInt.toNat) ?_
        rw [ofNat_toNat_toInt hlength]
        rintro added r (⟨-, rfl⟩ | ⟨hlacking, rfl, error, rfl⟩)
        · cases r with
          | error error => exact .pure (.read hlength hgranted hlen nofun)
          | ok bytes =>
            refine .pure (.read hlength hgranted hlen ?_)
            rintro _ ⟨⟩
            rw [ByteBuffer.filled, ByteBuffer.len_write, hlen]
        · exact .pure (.unread hlength hgranted hlen hlacking _)

theorem construct_adds (caps : Capabilities) (array : Handle) (bytes : List UInt8) :
    (Marshal.construct (c.operations (vm.recorded Prod.mk) t) caps array bytes).Adds
      (measures (vm.functions c.env)) fun added r =>
        added <+: [.written 0 (.ofNat bytes.length) (bytes.map UInt8.toInt8)] ∧
          r ≠ .error (.allocation "new_byte_array" bytes.length) := by
  refine Routine.Adds.bind (Context.adds_writeByteArray array bytes) ?_
  intro added r htold
  cases r with
  | error error =>
    exact .pure ⟨by simpa using htold.isPrefix, error_ofRuntime_ne (by decide)⟩
  | ok written =>
    refine Routine.Adds.bind (Context.adds_newString caps array) ?_
    rintro _ r rfl
    cases r with
    | error error =>
      exact .pure ⟨by simpa using htold.isPrefix, error_ofRuntime_ne (by decide)⟩
    | ok string => exact .pure ⟨by simpa using htold.isPrefix, nofun⟩

/-- Bytes for which there can be no array are refused without any call. -/
theorem toManaged_tooLong (caps : Capabilities) {bytes : List UInt8}
    (long : Context.maxArrayLen < bytes.length) :
    Marshal.toManaged (c.operations vm t) caps (some bytes) =
      pure (.error (.allocation "new_byte_array" bytes.length)) := by
  have hrefused : (c.operations vm t).newByteArray bytes.length = pure (.error .outOfMemory) := by
    show Context.newByteArray _ _ = _
    rw [Context.newByteArray, if_neg (Nat.not_le_of_lt long)]
    rfl
  rw [Marshal.toManaged_some, Marshal.throughArray, hrefused]
  rfl

theorem toManaged_adds (caps : Capabilities) {bytes : List UInt8}
    (h : bytes.length ≤ Context.maxArrayLen) :
    (Marshal.toManaged (c.operations (vm.recorded Prod.mk) t) caps (some bytes)).Adds
      (measures (vm.functions c.env)) fun added r => ∃ len : Int32, len.toInt = bytes.length ∧
        added <+: [.asked len, .written 0 len (bytes.map UInt8.toInt8)] ∧
        ((vm.functions c.env).provides .newByteArray = true → added ≠ []) ∧
        r ≠ .error (.allocation "new_byte_array" bytes.length) := by
  rw [Marshal.toManaged_some]
  refine Marshal.throughArray_adds (fun array => Context.adds_dropLocal (some array))
    (Context.adds_newByteArray h) ?_ ?_
  · rintro added error ⟨htold, hmemory⟩
    refine ⟨.ofNat bytes.length, toInt_ofNat h, ?_, ?_, ?_⟩
    · exact htold.isPrefix.trans (List.prefix_append ..)
    · exact fun hprovided => htold.ne_nil hprovided nofun
    · intro hrefused
      exact hmemory (congrArg _ (ofRuntime_eq_allocation (Except.error.inj hrefused)).2)
  · rintro added array ⟨⟨hprovided, rfl⟩ | ⟨-, -, _, hr⟩, -⟩
    · refine (construct_adds caps array bytes).mono ?_
      rintro more r ⟨hmore, hr⟩
      refine ⟨.ofNat bytes.length, toInt_ofNat h, ?_, nofun, ?_⟩
      · exact (List.prefix_cons_inj _).mpr hmore
      · cases r with
        | error error => exact fun hrefused => hr (congrArg _ (Except.error.inj hrefused))
        | ok string => exact nofun
    · cases hr

theorem toManaged_hands (caps : Capabilities) (bytes : List UInt8) :
    Hands (vm.functions c.env) bytes
      (Marshal.toManaged (c.operations (vm.recorded Prod.mk) t) caps (some bytes)) where
  refused_iff w := by
    constructor
    · intro hrun
      by_contra hshort
      have hadds : (Marshal.toManaged (c.operations (vm.recorded Prod.mk) t) caps
          (some bytes)).Adds _ _ := toManaged_adds caps (Nat.le_of_not_lt hshort)
      obtain ⟨r, v, added, hreturned, -, -, -, -, -, hr⟩ := hadds w
      rw [hreturned] at hrun
      exact hr (Except.ok.inj (Prod.mk.inj hrun).1)
    · intro hlong
      rw [toManaged_tooLong caps hlong]
      rfl
  handed h := toManaged_adds caps h

theorem toNative_adds [Memory] (caps : Capabilities) (string : Ref) :
    (Marshal.toNative (c.operations (vm.recorded Prod.mk) t) caps (some string)).Adds
      (measures (vm.functions c.env)) (Copies (vm.functions c.env)) := by
  rw [Marshal.toNative_some]
  refine Marshal.throughArray_adds (fun array => Context.adds_dropLocal (some array))
    (Context.adds_stringBytes caps string) ?_ ?_
  · rintro _ error rfl
    exact .unreported _
  · rintro _ array rfl
    exact copyOut_adds array

end Conversions

/-- On the way through a machine every length stays what it is, whatever the machine answers and
whatever memory there is: bytes that are too many are refused at once, other lengths are told as
they are, a report is read as it is or refused, and a block is one byte longer than what it is asked
for. -/
theorem lengths_exact [Memory] (vm : InvocationInterface μ ε) (t : ThreadId) (c : Context ε)
    (caps : Capabilities) :
    let ctx := c.operations (vm.recorded Prod.mk) t
    let jni := vm.functions c.env
    (∀ bytes, Hands jni bytes (Marshal.toManaged ctx caps (some bytes))) ∧
    (∀ string, (Marshal.toNative ctx caps (some string)).Adds (measures jni) (Copies jni)) ∧
    (∀ len, ByteBuffer.zeroed? len =
      if len < UInt64.size then ByteBuffer.reserve (.ofNat len) else none) ∧
    ∀ len, ByteBuffer.Reserves len :=
  ⟨toManaged_hands caps, toNative_adds caps, ByteBuffer.zeroed?_eq_reserve, ByteBuffer.reserves⟩

end Jvm

end ManagedBridge
