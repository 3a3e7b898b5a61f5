import ManagedBridge.Marshal
import ManagedBridge.Proofs.Recording

/-!
# How conversions use a context

A conversion obtains one array, uses it and gives it back. Its calls are read off a recorded
context, so what is said of them holds for every context, whatever its operations answer: the first
call that fails decides the error, nothing but the release comes after it, and the array that was
obtained is released once, at the very end.
-/

namespace ManagedBridge

variable {σ κ ς β α : Type}

/-- A world with a list of calls beside its state. -/
def World.withCalls (w : World σ) (calls : List (ContextCall κ ς β)) :
    World (σ × List (ContextCall κ ς β)) where
  backend := (w.backend, calls)
  log := w.log
  events := w.events

/-- A world without the list beside its state. -/
def World.untraced {ω : Type} (w : World (σ × List ω)) : World σ where
  backend := w.backend.1
  log := w.log
  events := w.events

/-- What is traced at a site is traced in a world. -/
theorem Call.traces_monadLift {ω : Type} {traced : Call (σ × List ω) α} {plain : Call σ α}
    {P : List ω → Except Panic α → Prop}
    (h : Routine.Traces Site.untraced (·.backend.2) traced plain P) :
    Routine.Traces World.untraced (·.backend.2) (liftM traced : Act (σ × List ω) α)
      (liftM plain : Act σ α) P := by
  intro w
  obtain ⟨hended, hleft, calls, hcalls, hP⟩ := h w.toSite
  rw [Call.run_monadLift, Call.run_monadLift]
  exact ⟨hended, congrArg (World.mk · w.events) hleft, calls, hcalls, hP⟩

/-- What is traced goes as it does without, and the calls are beside what it leaves. -/
theorem World.run_traced {traced : Act (σ × List (ContextCall κ ς β)) α}
    {plain : Act σ α} {P : List (ContextCall κ ς β) → Except Panic α → Prop} {w v : World σ}
    {ended : Except Panic α}
    (h : Routine.Traces World.untraced (·.backend.2) traced plain P)
    (run : plain.run w = (ended, v)) :
    ∃ calls, traced.run (w.withCalls []) = (ended, v.withCalls calls) ∧ P calls ended := by
  obtain ⟨hended, hleft, calls, hcalls, hP⟩ := h (w.withCalls [])
  have hplain : plain.run (World.untraced (w.withCalls ([] : List (ContextCall κ ς β)))) =
      (ended, v) := run
  rw [hplain] at hended hleft hP
  have hcalls' : (traced.run (w.withCalls [])).2.backend.2 = calls := hcalls
  refine ⟨calls, Prod.ext hended ?_, hP⟩
  have hleft' : (traced.run (w.withCalls [])).2.untraced = v := hleft
  rw [← hcalls', ← hleft']
  rfl

namespace Marshal

/-- How many bytes an error reports for a call, in a conversion of `input` bytes. -/
def extent (input : Nat) : ContextCall κ ς β → Nat
  | .readByteArray _ len _ => len
  | .newByteArray len _ => len
  | .writeByteArray _ bytes _ => bytes.length
  | .newString .. => input
  | _ => 0

/-- The error that a refused call brings a conversion of `input` bytes to. -/
def failure? (input : Nat) (call : ContextCall κ ς β) : Option BridgeError :=
  call.refusal?.map (.ofRuntime call.operation (extent input call))

/-- The error if no buffer can be had for the length that the call reports. -/
def refusedBuffer? [Memory] : ContextCall κ ς β → Option BridgeError
  | .byteArrayLen _ (.ok (.ok len)) =>
    if ByteBuffer.fits len then none else some (.allocation "to_native" len)
  | _ => none

/-- What a conversion out of a managed string fails with at a call. -/
def nativeFault? [Memory] (call : ContextCall κ ς β) : Option BridgeError :=
  (failure? 0 call).or (refusedBuffer? call)

/-- Whether `next` may be called after `call`: nothing may after a panic, and only a release after a
fault. -/
def MayFollow (fault? : ContextCall κ ς β → Option BridgeError) (call next : ContextCall κ ς β) :
    Prop :=
  call.panic? = none ∧ (fault? call ≠ none → next.isRelease)

/-- How the calls of a conversion decide what it ends in, if `fault?` is what it fails with at a
call. -/
structure Reported (fault? : ContextCall κ ς β → Option BridgeError)
    (calls : List (ContextCall κ ς β)) (ended : Except Panic (Except BridgeError (Option α))) :
    Prop where
  /-- Something is made if and only if every call succeeds. -/
  succeeds_iff : (∃ a, ended = .ok (.ok (some a))) ↔
    ∀ call ∈ calls, call.panic? = none ∧ fault? call = none
  /-- Unless a call panics, the error is that of the first call that has one. -/
  error_iff : ∀ e, ended = .ok (.error e) ↔
    (∀ call ∈ calls, call.panic? = none) ∧ calls.findSome? fault? = some e
  /-- A panic comes from a call. -/
  panic_iff : ∀ panic, ended = .error panic ↔ ∃ call ∈ calls, call.panic? = some panic
  after_fault : calls.Pairwise (MayFollow fault?)

/-- How the calls of a conversion treat arrays. -/
structure ReleasesOnce (calls : List (ContextCall κ ς β)) : Prop where
  /-- After a release nothing is called. -/
  after_release : calls.Pairwise fun call _ => call.isRelease = false
  obtains_one : (calls.filterMap ContextCall.obtained?).length ≤ 1
  /-- No array is used or released but one that was obtained. -/
  uses_obtained : ∀ call ∈ calls, ∀ array, call.array? = some array →
    array ∈ calls.filterMap ContextCall.obtained?
  /-- Unless a call panics, the arrays released are the arrays obtained. -/
  releases_obtained : (∀ call ∈ calls, call.panic? = none) →
    calls.filterMap ContextCall.released? = calls.filterMap ContextCall.obtained?

/-- A buffer made of what the calls answered, each of which is made once and in this order. -/
def MadeBuffer (caps : κ) (string : ς) (calls : List (ContextCall κ ς β)) (buffer : ByteBuffer) :
    Prop :=
  ∃ array len bytes, buffer = .filled len bytes ∧ calls =
    [.stringBytes caps string (.ok (.ok array)), .byteArrayLen array (.ok (.ok len)),
      .readByteArray array len (.ok (.ok bytes)), .releaseBytes array (.ok ())]

/-- A string made by the calls, each of which is made once and in this order. -/
def MadeString (caps : κ) (bytes : List UInt8) (calls : List (ContextCall κ ς β)) (string : ς) :
    Prop :=
  ∃ array, calls =
    [.newByteArray bytes.length (.ok (.ok array)), .writeByteArray array bytes (.ok (.ok ())),
      .newString caps array (.ok (.ok string)), .releaseBytes array (.ok ())]

/-- The conversion `plain` is disciplined in the calls that it makes from `w` on, as its run on a
recorded context shows. What it makes is as `Made` says, and `event` is counted once if it makes
something and not otherwise. -/
def WellConducted (event : BridgeEvent) (fault? : ContextCall κ ς β → Option BridgeError)
    (Made : List (ContextCall κ ς β) → α → Prop)
    (traced : Act (σ × List (ContextCall κ ς β)) (Except BridgeError (Option α)))
    (plain : Act σ (Except BridgeError (Option α))) (w : World σ) : Prop :=
  ∃ calls, traced.run (w.withCalls []) = ((plain.run w).1, (plain.run w).2.withCalls calls) ∧
    Reported fault? calls (plain.run w).1 ∧ ReleasesOnce calls ∧
    (∀ a, (plain.run w).1 = .ok (.ok (some a)) → Made calls a) ∧
    (plain.run w).2.events =
      match (plain.run w).1 with
      | .ok (.ok (some _)) => w.events.increment event
      | _ => w.events

/-- A call after which a conversion goes on. -/
def Clean (fault? : ContextCall κ ς β → Option BridgeError) (call : ContextCall κ ς β) : Prop :=
  call.panic? = none ∧ fault? call = none

/-- Calls that stop at the first one that is not clean. -/
inductive Course (fault? : ContextCall κ ς β → Option BridgeError) :
    List (ContextCall κ ς β) → Except Panic (Except BridgeError α) → Prop
  | success {calls a} (clean : ∀ call ∈ calls, Clean fault? call) :
    Course fault? calls (.ok (.ok a))
  | fault {front call e} (clean : ∀ call ∈ front, Clean fault? call) (calm : call.panic? = none)
    (faulty : fault? call = some e) : Course fault? (front ++ [call]) (.ok (.error e))
  | panic {front call panic} (clean : ∀ call ∈ front, Clean fault? call)
    (panics : call.panic? = some panic) : Course fault? (front ++ [call]) (.error panic)

/-- Calls that use `array` and neither obtain nor release one. -/
def UsesOnly (array : β) (calls : List (ContextCall κ ς β)) : Prop :=
  ∀ call ∈ calls, call.array? = some array ∧ call.obtained? = none ∧ call.released? = none

theorem Course.cons {fault? : ContextCall κ ς β → Option BridgeError}
    {calls : List (ContextCall κ ς β)} {ended : Except Panic (Except BridgeError α)}
    {call : ContextCall κ ς β} (hcall : Clean fault? call) (h : Course fault? calls ended) :
    Course fault? (call :: calls) ended := by
  cases h with
  | success clean => exact .success (List.forall_mem_cons.mpr ⟨hcall, clean⟩)
  | fault clean calm faulty =>
    rw [← List.cons_append]
    exact .fault (List.forall_mem_cons.mpr ⟨hcall, clean⟩) calm faulty
  | panic clean panics =>
    rw [← List.cons_append]
    exact .panic (List.forall_mem_cons.mpr ⟨hcall, clean⟩) panics

theorem Course.faults {fault? : ContextCall κ ς β → Option BridgeError}
    {call : ContextCall κ ς β} {e : BridgeError} (calm : call.panic? = none)
    (faulty : fault? call = some e) :
    Course fault? [call] (.ok (.error e) : Except Panic (Except BridgeError α)) := by
  rw [← List.nil_append [call]]
  exact .fault nofun calm faulty

theorem Course.panics {fault? : ContextCall κ ς β → Option BridgeError}
    {call : ContextCall κ ς β} {panic : Panic} (panics : call.panic? = some panic) :
    Course fault? [call] (.error panic : Except Panic (Except BridgeError α)) := by
  rw [← List.nil_append [call]]
  exact .panic nofun panics

/-- In clean calls no fault is found. -/
theorem findSome?_of_clean {fault? : ContextCall κ ς β → Option BridgeError}
    {calls : List (ContextCall κ ς β)} (clean : ∀ call ∈ calls, Clean fault? call) :
    calls.findSome? fault? = none :=
  List.findSome?_eq_none_iff.mpr fun call hcall => (clean call hcall).2

theorem Clean.mayFollow {fault? : ContextCall κ ς β → Option BridgeError}
    {call : ContextCall κ ς β} (h : Clean fault? call) (next : ContextCall κ ς β) :
    MayFollow fault? call next :=
  ⟨h.1, fun hfault => absurd h.2 hfault⟩

theorem pairwise_of_clean {fault? : ContextCall κ ς β → Option BridgeError}
    {calls : List (ContextCall κ ς β)} (clean : ∀ call ∈ calls, Clean fault? call) :
    calls.Pairwise (MayFollow fault?) :=
  List.pairwise_of_forall_mem_list fun call hcall next _ => (clean call hcall).mayFollow next

theorem pairwise_concat {fault? : ContextCall κ ς β → Option BridgeError}
    {calls : List (ContextCall κ ς β)} (h : calls.Pairwise (MayFollow fault?))
    (last : ContextCall κ ς β) (hlast : ∀ call ∈ calls, MayFollow fault? call last) :
    (calls ++ [last]).Pairwise (MayFollow fault?) :=
  List.pairwise_append.mpr ⟨h, List.pairwise_singleton _ _, fun call hcall next hnext => by
    rw [List.mem_singleton.mp hnext]; exact hlast call hcall⟩

/-- If only the last call can panic, a panic is its panic. -/
theorem exists_panic_concat_iff {calls : List (ContextCall κ ς β)}
    (calm : ∀ call ∈ calls, call.panic? = none) (last : ContextCall κ ς β) (panic : Panic) :
    (∃ call ∈ calls ++ [last], call.panic? = some panic) ↔ last.panic? = some panic := by
  constructor
  · rintro ⟨call, hcall, hpanic⟩
    rcases List.mem_append.mp hcall with hcall | hcall
    · rw [calm call hcall] at hpanic
      cases hpanic
    · rwa [List.mem_singleton.mp hcall] at hpanic
  · exact fun hpanic => ⟨last, List.mem_append_right _ (List.mem_singleton_self last), hpanic⟩

theorem Course.reported {fault? : ContextCall κ ς β → Option BridgeError}
    {calls : List (ContextCall κ ς β)} {ended : Except Panic (Except BridgeError α)}
    (h : Course fault? calls ended) : Reported fault? calls (ended.map (·.map some)) := by
  cases h with
  | @success calls a clean =>
    refine ⟨⟨fun _ => clean, fun _ => ⟨a, rfl⟩⟩, fun e => ⟨nofun, ?_⟩, fun p => ⟨nofun, ?_⟩, ?_⟩
    · intro hfirst
      obtain ⟨-, h⟩ := hfirst
      rw [findSome?_of_clean clean] at h
      cases h
    · intro hpanic
      obtain ⟨call, hcall, h⟩ := hpanic
      rw [(clean call hcall).1] at h
      cases h
    · exact pairwise_of_clean clean
  | @fault front call e clean calm faulty =>
    have hfront : ∀ c ∈ front, c.panic? = none := fun c hc => (clean c hc).1
    have hcalm : ∀ c ∈ front ++ [call], c.panic? = none :=
      List.forall_mem_append.mpr ⟨hfront, List.forall_mem_singleton.mpr calm⟩
    have hfirst : (front ++ [call]).findSome? fault? = some e := by
      rw [List.findSome?_append, findSome?_of_clean clean]
      simp [faulty]
    have after := pairwise_concat (pairwise_of_clean clean) call
      fun c hc => (clean c hc).mayFollow call
    refine ⟨⟨nofun, fun h => ?_⟩, fun e' => ?_, fun p => ?_, after⟩
    · have := (h call (by simp)).2
      rw [faulty] at this
      cases this
    · rw [hfirst]
      constructor
      · rintro ⟨⟩; exact ⟨hcalm, rfl⟩
      · rintro ⟨-, ⟨⟩⟩; rfl
    · rw [exists_panic_concat_iff hfront, calm]
      exact ⟨nofun, nofun⟩
  | @panic front call panic clean panics =>
    have after := pairwise_concat (pairwise_of_clean clean) call
      fun c hc => (clean c hc).mayFollow call
    refine ⟨⟨nofun, fun h => ?_⟩, fun e => ⟨nofun, fun h => ?_⟩, fun p => ?_, after⟩
    · have := (h call (by simp)).1
      rw [panics] at this
      cases this
    · have := h.1 call (by simp)
      rw [panics] at this
      cases this
    · rw [exists_panic_concat_iff fun c hc => (clean c hc).1, panics]
      constructor <;> rintro ⟨⟩ <;> rfl

/-- How an array is used between the two: the calls stop at the first fault, and what comes of them
is as `Made` says. -/
def Uses (fault? : ContextCall κ ς β → Option BridgeError) (array : β)
    (Made : List (ContextCall κ ς β) → α → Prop) (calls : List (ContextCall κ ς β))
    (ended : Except Panic (Except BridgeError α)) : Prop :=
  UsesOnly array calls ∧ Course fault? calls ended ∧ ∀ a, ended = .ok (.ok a) → Made calls a

theorem UsesOnly.nil (array : β) : UsesOnly array ([] : List (ContextCall κ ς β)) := by
  simp [UsesOnly]

/-- A release at the end changes what is reported only if it panics. -/
theorem Course.reported_release {fault? : ContextCall κ ς β → Option BridgeError}
    {calls : List (ContextCall κ ς β)} {result : Except BridgeError α} {array : β}
    {released : Except Panic Unit} (h : Course fault? calls (.ok result))
    (harmless : fault? (.releaseBytes array released) = none) :
    Reported fault? (calls ++ [.releaseBytes array released])
      (released.bind fun _ => .ok (result.map some)) := by
  have hr := h.reported
  have hcalm : ∀ call ∈ calls, call.panic? = none := by
    intro call hcall
    cases hp : call.panic? with
    | none => rfl
    | some panic => exact absurd ((hr.panic_iff panic).mpr ⟨call, hcall, hp⟩) nofun
  have after := pairwise_concat hr.after_fault (.releaseBytes array released)
    fun call hcall => ⟨hcalm call hcall, fun _ => rfl⟩
  have hfirst : (calls ++ [ContextCall.releaseBytes array released]).findSome? fault? =
      calls.findSome? fault? := by
    rw [List.findSome?_append, List.findSome?_singleton, harmless, Option.or_none]
  cases released with
  | ok =>
    have hlast : (ContextCall.releaseBytes array (.ok ()) : ContextCall κ ς β).panic? = none := rfl
    refine ⟨?_, fun e => ?_, fun p => ?_, after⟩
    · rw [List.forall_mem_append, List.forall_mem_singleton]
      exact hr.succeeds_iff.trans ⟨fun h => ⟨h, hlast, harmless⟩, fun h => h.1⟩
    · rw [hfirst, List.forall_mem_append, List.forall_mem_singleton]
      exact (hr.error_iff e).trans ⟨fun h => ⟨⟨h.1, hlast⟩, h.2⟩, fun h => ⟨h.1.1, h.2⟩⟩
    · rw [exists_panic_concat_iff hcalm, hlast]
      exact ⟨nofun, nofun⟩
  | error panic =>
    have hlast : (ContextCall.releaseBytes array (.error panic) : ContextCall κ ς β).panic? =
      some panic := rfl
    refine ⟨⟨nofun, fun h => ?_⟩, fun e => ⟨nofun, fun h => ?_⟩, fun p => ?_, after⟩
    · exact absurd (hlast.symm.trans (h _ (by simp)).1) nofun
    · exact absurd (hlast.symm.trans (h.1 _ (by simp))) nofun
    · rw [exists_panic_concat_iff hcalm, hlast]
      constructor <;> rintro ⟨⟩ <;> rfl

theorem UsesOnly.singleton {array : β} {call : ContextCall κ ς β}
    (harray : call.array? = some array) (hobtained : call.obtained? = none)
    (hreleased : call.released? = none) : UsesOnly array [call] :=
  List.forall_mem_singleton.mpr ⟨harray, hobtained, hreleased⟩

theorem UsesOnly.filterMap_obtained {array : β} {calls : List (ContextCall κ ς β)}
    (h : UsesOnly array calls) : calls.filterMap ContextCall.obtained? = [] :=
  List.filterMap_eq_nil_iff.mpr fun call hcall => (h call hcall).2.1

theorem UsesOnly.filterMap_released {array : β} {calls : List (ContextCall κ ς β)}
    (h : UsesOnly array calls) : calls.filterMap ContextCall.released? = [] :=
  List.filterMap_eq_nil_iff.mpr fun call hcall => (h call hcall).2.2

theorem UsesOnly.isRelease_eq {array : β} {calls : List (ContextCall κ ς β)}
    (h : UsesOnly array calls) {call : ContextCall κ ς β} (hcall : call ∈ calls) :
    call.isRelease = false := by
  simp [ContextCall.isRelease, (h call hcall).2.2]

/-- A call that hands out no array needs no release. -/
theorem ReleasesOnce.singleton {call : ContextCall κ ς β} (hobtained : call.obtained? = none)
    (harray : call.array? = none) (hreleased : call.released? = none) : ReleasesOnce [call] where
  after_release := List.pairwise_singleton _ _
  obtains_one := by simp [hobtained]
  uses_obtained := by simp [harray]
  releases_obtained := by simp [hobtained, hreleased]

section Brackets

variable {call : ContextCall κ ς β} {array : β} {calls : List (ContextCall κ ς β)}

theorem UsesOnly.obtained_cons (h : UsesOnly array calls)
    (hobtained : call.obtained? = some array) :
    (call :: calls).filterMap ContextCall.obtained? = [array] := by
  rw [List.filterMap_cons_some hobtained, h.filterMap_obtained]

theorem UsesOnly.released_cons (h : UsesOnly array calls) (hreleased : call.released? = none) :
    (call :: calls).filterMap ContextCall.released? = [] := by
  rw [List.filterMap_cons_none hreleased, h.filterMap_released]

theorem UsesOnly.isRelease_cons (h : UsesOnly array calls) (hreleased : call.released? = none) :
    ∀ c ∈ call :: calls, c.isRelease = false := by
  intro c hc
  rcases List.mem_cons.mp hc with rfl | hc
  · simp [ContextCall.isRelease, hreleased]
  · exact h.isRelease_eq hc

theorem UsesOnly.array_cons (h : UsesOnly array calls) (harray : call.array? = none) :
    ∀ c ∈ call :: calls, ∀ a, c.array? = some a → a = array := by
  intro c hc a ha
  rcases List.mem_cons.mp hc with rfl | hc
  · rw [harray] at ha; cases ha
  · rw [(h c hc).1] at ha; cases ha; rfl

/-- If a panic cuts the use of an array short, nothing is released. -/
theorem UsesOnly.releasesOnce_of_panic (h : UsesOnly array calls)
    (hobtained : call.obtained? = some array) (harray : call.array? = none)
    (hreleased : call.released? = none) (hpanic : ∃ c ∈ calls, c.panic? ≠ none) :
    ReleasesOnce (call :: calls) where
  after_release :=
    List.pairwise_of_forall_mem_list fun c hc _ _ => h.isRelease_cons hreleased c hc
  obtains_one := by rw [h.obtained_cons hobtained]; exact Nat.le_refl 1
  uses_obtained c hc a ha := by
    rw [h.obtained_cons hobtained, h.array_cons harray c hc a ha]
    exact List.mem_singleton_self array
  releases_obtained hcalm := by
    obtain ⟨c, hc, hp⟩ := hpanic
    exact absurd (hcalm c (List.mem_cons_of_mem _ hc)) hp

/-- An array that is used and then released is released once. -/
theorem UsesOnly.releasesOnce (h : UsesOnly array calls)
    (hobtained : call.obtained? = some array) (harray : call.array? = none)
    (hreleased : call.released? = none) (released : Except Panic Unit) :
    ReleasesOnce (call :: calls ++ [.releaseBytes array released]) := by
  have obtained : (call :: calls ++ [ContextCall.releaseBytes array released]).filterMap
      ContextCall.obtained? = [array] := by
    rw [List.filterMap_append, h.obtained_cons hobtained]; rfl
  have given : (call :: calls ++ [ContextCall.releaseBytes array released]).filterMap
      ContextCall.released? = [array] := by
    rw [List.filterMap_append, h.released_cons hreleased]; rfl
  constructor
  · refine List.pairwise_append.mpr ⟨?_, List.pairwise_singleton _ _, fun c hc _ _ => ?_⟩
    · exact List.pairwise_of_forall_mem_list fun c hc _ _ => h.isRelease_cons hreleased c hc
    · exact h.isRelease_cons hreleased c hc
  · rw [obtained]; exact Nat.le_refl 1
  · intro c hc a ha
    rw [obtained, List.mem_singleton]
    rcases List.mem_append.mp hc with hc | hc
    · exact h.array_cons harray c hc a ha
    · rw [List.mem_singleton.mp hc] at ha; cases ha; rfl
  · intro _
    rw [obtained, given]

end Brackets

/-- A conversion through one array: the array is acquired, used and released, and only then is it
looked at what the use came to. -/
def throughArray (ctx : CallContext σ κ ς β) (event : BridgeEvent) (line : α → LogLine)
    (classify : RuntimeError → BridgeError) (acquire : Call σ (Except RuntimeError β))
    (use : β → Call σ (Except BridgeError α)) : Act σ (Except BridgeError (Option α)) := do
  match ← acquire with
  | .error e => return .error (classify e)
  | .ok array =>
    let used ← use array
    ctx.releaseBytes array
    match used with
    | .error e => return .error e
    | .ok a =>
      Act.count event
      Act.note (line a)
      return .ok (some a)

theorem toNative_some [Memory] (ctx : CallContext σ κ ς β) (caps : κ) (string : ς) :
    toNative ctx caps (some string) =
      throughArray ctx .toNative (fun buffer => copiedLine buffer.len)
        (.ofRuntime "string_bytes" 0) (ctx.stringBytes caps string) (copyOut ctx) := by
  rw [toNative, throughArray]
  refine congrArg _ (funext fun acquired => ?_)
  rcases acquired with e | array
  · rfl
  · refine congrArg (liftM (copyOut ctx array) >>= ·) (funext fun copied => ?_)
    cases copied <;> rfl

theorem toManaged_some (ctx : CallContext σ κ ς β) (caps : κ) (bytes : List UInt8) :
    toManaged ctx caps (some bytes) =
      throughArray ctx .toManaged (fun _ => constructedLine bytes.length)
        (.ofRuntime "new_byte_array" bytes.length) (ctx.newByteArray bytes.length)
        fun array => construct ctx caps array bytes := rfl

/-- The event is counted once if something is made, and nothing else is counted. -/
theorem run_throughArray_events (ctx : CallContext σ κ ς β) (event : BridgeEvent)
    (line : α → LogLine) (classify : RuntimeError → BridgeError)
    (acquire : Call σ (Except RuntimeError β)) (use : β → Call σ (Except BridgeError α))
    (w : World σ) :
    ((throughArray ctx event line classify acquire use).run w).2.events =
      match ((throughArray ctx event line classify acquire use).run w).1 with
      | .ok (.ok (some _)) => w.events.increment event
      | _ => w.events := by
  simp only [throughArray, Routine.run_bind, Call.run_monadLift]
  rcases acquire.run w.toSite with ⟨panic | e | array, s⟩
  · rfl
  · rfl
  · simp only [Routine.run_bind, Call.run_monadLift]
    rcases (use array).run s with ⟨panic | used, s⟩
    · rfl
    · simp only
      rcases (ctx.releaseBytes array).run s with ⟨panic | -, s⟩
      · rfl
      · cases used <;> rfl

/-- A call that hands out an array or is refused as `classify` says. -/
structure Acquires (fault? : ContextCall κ ς β → Option BridgeError)
    (classify : RuntimeError → BridgeError)
    (entry : Except Panic (Except RuntimeError β) → ContextCall κ ς β) : Prop where
  obtained : ∀ array, (entry (.ok (.ok array))).obtained? = some array
  clean : ∀ array, Clean fault? (entry (.ok (.ok array)))
  refused : ∀ e, (entry (.ok (.error e))).panic? = none ∧
    fault? (entry (.ok (.error e))) = some (classify e) ∧
    (entry (.ok (.error e))).obtained? = none
  panics : ∀ panic, (entry (.error panic)).panic? = some panic ∧
    (entry (.error panic)).obtained? = none
  usesNone : ∀ ended, (entry ended).array? = none ∧ (entry ended).released? = none

theorem traces_count {ω : Type} (event : BridgeEvent) :
    Routine.Traces World.untraced (·.backend.2) (Act.count event : Act (σ × List ω) Unit)
      (Act.count event : Act σ Unit) fun calls ended => calls = [] ∧ ended = .ok () :=
  fun _ => ⟨rfl, rfl, [], (List.append_nil _).symm, rfl, rfl⟩

theorem traces_note {ω : Type} (line : LogLine) :
    Routine.Traces World.untraced (·.backend.2) (Act.note line : Act (σ × List ω) Unit)
      (Act.note line : Act σ Unit) fun calls ended => calls = [] ∧ ended = .ok () :=
  fun _ => ⟨rfl, rfl, [], (List.append_nil _).symm, rfl, rfl⟩

/-- What is said of the use of every array is said of the whole conversion. -/
theorem throughArray_traces {ctx : CallContext σ κ ς β} {event : BridgeEvent} {line : α → LogLine}
    {classify : RuntimeError → BridgeError} {fault? : ContextCall κ ς β → Option BridgeError}
    {Made : List (ContextCall κ ς β) → α → Prop}
    {entry : Except Panic (Except RuntimeError β) → ContextCall κ ς β}
    {acquire : Call σ (Except RuntimeError β)}
    {acquire' : Call (σ × List (ContextCall κ ς β)) (Except RuntimeError β)}
    {use : β → Call σ (Except BridgeError α)}
    {use' : β → Call (σ × List (ContextCall κ ς β)) (Except BridgeError α)}
    (entries : Acquires fault? classify entry)
    (harmless : ∀ array released, fault? (.releaseBytes array released) = none)
    (hacquire : Routine.Traces Site.untraced (·.backend.2) acquire' acquire
      fun calls ended => calls = [entry ended])
    (huse : ∀ array, Routine.Traces Site.untraced (·.backend.2) (use' array) (use array)
      (Uses fault? array fun calls a =>
        Made (entry (.ok (.ok array)) :: calls ++ [.releaseBytes array (.ok ())]) a)) :
    Routine.Traces World.untraced (·.backend.2)
      (throughArray ctx.traced event line classify acquire' use')
      (throughArray ctx event line classify acquire use)
      fun calls ended => Reported fault? calls ended ∧ ReleasesOnce calls ∧
        ∀ a, ended = .ok (.ok (some a)) → Made calls a := by
  have usesNone := entries.usesNone
  refine (Call.traces_monadLift hacquire).bind ?_ ?_
  · rintro calls panic rfl
    obtain ⟨hpanic, hnone⟩ := entries.panics panic
    exact ⟨(Course.panics hpanic).reported,
      .singleton hnone (usesNone _).1 (usesNone _).2, nofun⟩
  · rintro front (e | array) rfl
    · obtain ⟨hcalm, hfault, hnone⟩ := entries.refused e
      exact .pure ⟨(Course.faults hcalm hfault).reported,
        .singleton hnone (usesNone _).1 (usesNone _).2, nofun⟩
    · have obtained := entries.obtained array
      refine (Call.traces_monadLift (huse array)).bind ?_ ?_
      · intro calls panic hcalls
        obtain ⟨honly, hcourse, -⟩ := hcalls
        obtain ⟨call, hcall, hp⟩ := (hcourse.reported.panic_iff panic).mp rfl
        exact ⟨(hcourse.cons (entries.clean array)).reported, honly.releasesOnce_of_panic obtained
          (usesNone _).1 (usesNone _).2 ⟨call, hcall, by rw [hp]; nofun⟩, nofun⟩
      · intro calls used hcalls
        obtain ⟨honly, hcourse, hmade⟩ := hcalls
        have reported (released) := (hcourse.cons (entries.clean array)).reported_release
          (harmless array released)
        have once := honly.releasesOnce obtained (usesNone _).1 (usesNone _).2
        refine (Call.traces_monadLift (Call.traces_recorded _ _)).bind ?_ ?_
        · rintro calls panic rfl
          exact ⟨reported (.error panic), once (.error panic), nofun⟩
        · rintro calls ⟨⟩ rfl
          cases used with
          | error e =>
            exact .pure (by simpa using ⟨reported (.ok ()), once (.ok ())⟩)
          | ok a =>
            refine (traces_count event).bind nofun ?_
            rintro calls ⟨⟩ ⟨rfl, -⟩
            refine (traces_note (line a)).bind nofun ?_
            rintro calls ⟨⟩ ⟨rfl, -⟩
            exact .pure (by simpa using ⟨reported (.ok ()), once (.ok ()), hmade a rfl⟩)

theorem stringBytes_acquires [Memory] (caps : κ) (string : ς) :
    Acquires (β := β) nativeFault? (.ofRuntime "string_bytes" 0) (.stringBytes caps string) where
  obtained _ := rfl
  clean _ := ⟨rfl, rfl⟩
  refused _ := ⟨rfl, rfl, rfl⟩
  panics _ := ⟨rfl, rfl⟩
  usesNone _ := ⟨rfl, rfl⟩

theorem newByteArray_acquires (len : Nat) :
    Acquires (κ := κ) (ς := ς) (β := β) (failure? len) (.ofRuntime "new_byte_array" len)
      (.newByteArray len) where
  obtained _ := rfl
  clean _ := ⟨rfl, rfl⟩
  refused _ := ⟨rfl, rfl, rfl⟩
  panics _ := ⟨rfl, rfl⟩
  usesNone _ := ⟨rfl, rfl⟩

theorem failure?_releaseBytes (input : Nat) (array : β) (released : Except Panic Unit) :
    failure? input (.releaseBytes array released : ContextCall κ ς β) = none := by
  cases released <;> rfl

theorem nativeFault?_releaseBytes [Memory] (array : β) (released : Except Panic Unit) :
    nativeFault? (.releaseBytes array released : ContextCall κ ς β) = none := by
  cases released <;> rfl

/-- A call on an array stops its use if it is refused. Else it is clean, or a fault of its own stops
the use. -/
theorem traces_use {fault? : ContextCall κ ς β → Option BridgeError} {array : β}
    {classify : RuntimeError → BridgeError} {Made : List (ContextCall κ ς β) → α → Prop}
    (entry : Except Panic (Except RuntimeError γ) → ContextCall κ ς β)
    {call : Call σ (Except RuntimeError γ)}
    {next : Except RuntimeError γ → Call σ (Except BridgeError α)}
    {next' : Except RuntimeError γ →
      Call (σ × List (ContextCall κ ς β)) (Except BridgeError α)}
    (only : ∀ ended, UsesOnly array [entry ended])
    (panics : ∀ panic, (entry (.error panic)).panic? = some panic)
    (refused : ∀ e, (entry (.ok (.error e))).panic? = none ∧
      fault? (entry (.ok (.error e))) = some (classify e))
    (stops : ∀ e, next (.error e) = pure (.error (classify e)) ∧
      next' (.error e) = pure (.error (classify e)))
    (goes : ∀ a, (∃ e, (entry (.ok (.ok a))).panic? = none ∧
        fault? (entry (.ok (.ok a))) = some e ∧ next (.ok a) = pure (.error e) ∧
        next' (.ok a) = pure (.error e)) ∨
      Clean fault? (entry (.ok (.ok a))) ∧
        Routine.Traces Site.untraced (·.backend.2) (next' (.ok a)) (next (.ok a))
          (Uses fault? array fun calls b => Made (entry (.ok (.ok a)) :: calls) b)) :
    Routine.Traces Site.untraced (·.backend.2)
      (call.recorded .first (fun ended s => (s.1, s.2 ++ [entry ended])) >>= next')
      (call >>= next) (Uses fault? array Made) := by
  refine (Call.traces_recorded entry call).bind ?_ ?_
  · rintro calls panic rfl
    exact ⟨only _, .panics (panics panic), nofun⟩
  · rintro front (e | a) rfl
    · rw [(stops e).1, (stops e).2]
      exact .pure ⟨only _, .faults (refused e).1 (refused e).2, nofun⟩
    · rcases goes a with ⟨e, hcalm, hfault, hnext, hnext'⟩ | ⟨hclean, hnext⟩
      · rw [hnext, hnext']
        exact .pure ⟨only _, .faults hcalm hfault, nofun⟩
      · refine hnext.mono fun calls ended h => ⟨?_, h.2.1.cons hclean, h.2.2⟩
        exact List.forall_mem_append.mpr ⟨only _, h.1⟩

/-- Copying an array out stops at the first call that fails, and at a length that no buffer can be
had for. -/
theorem copyOut_traces [Memory] (ctx : CallContext σ κ ς β) (array : β) :
    Routine.Traces Site.untraced (·.backend.2) (copyOut ctx.traced array) (copyOut ctx array)
      (Uses nativeFault? array fun calls buffer => ∃ len bytes, buffer = .filled len bytes ∧
        calls = [.byteArrayLen array (.ok (.ok len)),
          .readByteArray array len (.ok (.ok bytes))]) := by
  refine traces_use (.byteArrayLen array) (fun _ => .singleton rfl rfl rfl) (fun _ => rfl)
    (fun _ => ⟨rfl, rfl⟩) (fun _ => ⟨rfl, rfl⟩) fun len => ?_
  by_cases hfits : ByteBuffer.fits len
  · have clean : Clean nativeFault? (.byteArrayLen array (.ok (.ok len)) : ContextCall κ ς β) :=
      ⟨rfl, by simp [nativeFault?, failure?, refusedBuffer?, ContextCall.refusal?,
        ContextCall.ending, hfits, Except.map]⟩
    refine .inr ⟨clean, ?_⟩
    simp only [hfits, if_true]
    refine traces_use (.readByteArray array len) (fun _ => .singleton rfl rfl rfl)
      (fun _ => rfl) (fun _ => ⟨rfl, rfl⟩) (fun _ => ⟨rfl, rfl⟩) fun bytes => ?_
    refine .inr ⟨⟨rfl, rfl⟩, .pure ⟨.nil array, .success nofun, ?_⟩⟩
    rintro _ ⟨⟩
    exact ⟨len, bytes, rfl, rfl⟩
  · refine .inl ⟨.allocation "to_native" len, rfl, ?_, ?_, ?_⟩
    · simp [nativeFault?, failure?, refusedBuffer?, ContextCall.refusal?, ContextCall.ending,
        hfits, Except.map]
    · simp only [hfits, if_false, Bool.false_eq_true]
    · simp only [hfits, if_false, Bool.false_eq_true]

/-- Building a string in an array stops at the first call that fails. -/
theorem construct_traces (ctx : CallContext σ κ ς β) (caps : κ) (array : β) (bytes : List UInt8) :
    Routine.Traces Site.untraced (·.backend.2) (construct ctx.traced caps array bytes)
      (construct ctx caps array bytes)
      (Uses (failure? bytes.length) array fun calls string =>
        calls = [.writeByteArray array bytes (.ok (.ok ())),
          .newString caps array (.ok (.ok string))]) := by
  refine traces_use (.writeByteArray array bytes) (fun _ => .singleton rfl rfl rfl)
    (fun _ => rfl) (fun _ => ⟨rfl, rfl⟩) (fun _ => ⟨rfl, rfl⟩) fun _ => ?_
  refine .inr ⟨⟨rfl, rfl⟩, ?_⟩
  refine traces_use (.newString caps array) (fun _ => .singleton rfl rfl rfl)
    (fun _ => rfl) (fun _ => ⟨rfl, rfl⟩) (fun _ => ⟨rfl, rfl⟩) fun string => ?_
  refine .inr ⟨⟨rfl, rfl⟩, .pure ⟨.nil array, .success nofun, ?_⟩⟩
  rintro _ ⟨⟩
  rfl

/-- What is traced and counted makes a conversion well conducted. -/
theorem WellConducted.of_traces {event : BridgeEvent}
    {fault? : ContextCall κ ς β → Option BridgeError}
    {Made : List (ContextCall κ ς β) → α → Prop}
    {traced : Act (σ × List (ContextCall κ ς β)) (Except BridgeError (Option α))}
    {plain : Act σ (Except BridgeError (Option α))} {w : World σ}
    (h : Routine.Traces World.untraced (·.backend.2) traced plain
      fun calls ended => Reported fault? calls ended ∧ ReleasesOnce calls ∧
        ∀ a, ended = .ok (.ok (some a)) → Made calls a)
    (hevents : (plain.run w).2.events =
      match (plain.run w).1 with
      | .ok (.ok (some _)) => w.events.increment event
      | _ => w.events) :
    WellConducted event fault? Made traced plain w := by
  have hplain : plain.run w = ((plain.run w).1, (plain.run w).2) := rfl
  obtain ⟨calls, htraced, hreported, honce, hmade⟩ := World.run_traced h hplain
  exact ⟨calls, htraced, hreported, honce, hmade, hevents⟩

/-- No value is converted to none, without a call. Any other conversion, through any context, makes
its calls in a disciplined way: they decide what it ends in, one array is released for one array
obtained, and a success is counted once. -/
theorem conversions_wellConducted [Memory] (ctx : CallContext σ κ ς β) (caps : κ) (w : World σ) :
    (toNative ctx caps none).run w = (.ok (.ok none), w) ∧
    (toManaged ctx caps none).run w = (.ok (.ok none), w) ∧
    (∀ string, WellConducted .toNative nativeFault? (MadeBuffer caps string)
      (toNative ctx.traced caps (some string)) (toNative ctx caps (some string)) w) ∧
    (∀ bytes, WellConducted .toManaged (failure? bytes.length) (MadeString caps bytes)
      (toManaged ctx.traced caps (some bytes)) (toManaged ctx caps (some bytes)) w) := by
  refine ⟨rfl, rfl, fun string => ?_, fun bytes => ?_⟩
  · rw [toNative_some, toNative_some]
    refine .of_traces (throughArray_traces (stringBytes_acquires caps string)
      nativeFault?_releaseBytes (Call.traces_recorded _ _) fun array => ?_)
      (run_throughArray_events ..)
    refine (copyOut_traces ctx array).mono fun calls ended h =>
      ⟨h.1, h.2.1, fun buffer hended => ?_⟩
    obtain ⟨len, bytes, rfl, rfl⟩ := h.2.2 buffer hended
    exact ⟨array, len, bytes, rfl, rfl⟩
  · rw [toManaged_some, toManaged_some]
    refine .of_traces (throughArray_traces (newByteArray_acquires bytes.length)
      (failure?_releaseBytes _) (Call.traces_recorded _ _) fun array => ?_)
      (run_throughArray_events ..)
    refine (construct_traces ctx caps array bytes).mono fun calls ended h =>
      ⟨h.1, h.2.1, fun string hended => ?_⟩
    rw [h.2.2 string hended]
    exact ⟨array, rfl⟩

end Marshal

end ManagedBridge
