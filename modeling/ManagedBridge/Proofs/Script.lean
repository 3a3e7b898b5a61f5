import ManagedBridge.Proofs.Carrying
import ManagedBridge.Proofs.Counting
import ManagedBridge.Text.Utf8

/-!
# Scripts

A script is what one thread does with a bridge: it opens scopes, one inside another, and in a scope
converts, raises exceptions and drains them. What it does next may depend on all that was reported
before. A script can be performed over any backend, and what it comes to can also be told without
one. The two are the same for every backend that does what is asked of it, step by step.
-/

namespace ManagedBridge

open Text

/-- What can be asked for in a scope. Strings are known by number, the newest first; a number that
no string has stands for null. -/
inductive Request
  | managedFromNative (bytes? : Option (List UInt8))
  | nativeFromManaged (string? : Option Nat)
  | stringFromManaged (string? : Option Nat)
  | raise (message : String)
  | drain

/-- What comes of a step. Of a string that is made it shows only that it is not null; what it holds
is for later requests to tell. -/
inductive Outcome
  | string (made : Bool)
  | bytes (content? : Option (List UInt8))
  | text (content? : Option String)
  | raised
  | drained (found : Bool)
  | entered (created : Bool)
  | left (created : Bool)
  deriving DecidableEq, Repr

/-- What can be told of a step: what came of it, how often each event was counted meanwhile, and
whether the thread is attached after it. -/
structure Report where
  outcome : Outcome
  counted : List UInt64
  attached : Bool
  deriving DecidableEq, Repr

/-- What is done in a scope, or outside of all scopes. -/
inductive Script : (inside : Bool) → Type
  | done {inside : Bool} : Script inside
  | ask (request : Request) (next : List Report → Script true) : Script true
  | within {inside : Bool} (body : List Report → Script true) (next : List Report → Script inside) :
    Script inside

variable {σ τ ρ κ ς β γ α : Type}

/-- A bridge over a backend, as a thread has it. -/
structure Backend (σ ρ κ ς β γ : Type) where
  place : Place σ (Bridge ρ κ)
  runtime : ρ → ManagedRuntime σ γ
  context : γ → CallContext σ κ ς β
  /-- Raises an exception, past the bridge. -/
  raise : γ → String → Call σ Unit
  /-- Whether the thread is attached. -/
  attached : σ → Bool

/-- The counts as they are now. -/
def Act.counts : Act σ Counter := Routine.single fun w => (w.events, w)

/-- How often each event was counted since `before`. -/
def Counter.since (after before : Counter) : List UInt64 :=
  BridgeEvent.all.map fun e => after.get e - before.get e

namespace Backend

/-- Does what is asked for with a context and the strings that it was given. -/
def grant (b : Backend σ ρ κ ς β γ) (c : γ) (strings : List ς) :
    Request → Act σ (Except BridgeError (Outcome × List ς))
  | .managedFromNative bytes? => do
    match ← Bridge.managedFromNative b.place (b.context c) bytes? with
    | .error e => return .error e
    | .ok string? => return .ok (.string string?.isSome, string?.toList ++ strings)
  | .nativeFromManaged string? => do
    match ← Bridge.nativeFromManaged b.place (b.context c) (string?.bind (strings[·]?)) with
    | .error e => return .error e
    | .ok buffer? => return .ok (.bytes (buffer?.map ByteBuffer.content), strings)
  | .stringFromManaged string? => do
    match ← Bridge.stringFromManaged b.place (b.context c) (string?.bind (strings[·]?)) with
    | .error e => return .error e
    | .ok text? => return .ok (.text text?, strings)
  | .raise message => do
    b.raise c message
    return .ok (.raised, strings)
  | .drain => do return .ok (.drained (← drain (b.context c)), strings)

/-- Reports on a step, given the counts before it. -/
def report (b : Backend σ ρ κ ς β γ) (before : Counter) (outcome : Outcome) : Act σ Report :=
  Routine.single fun w => (⟨outcome, w.events.since before, b.attached w.backend⟩, w)

end Backend

/-- What a scope gives to those who are in it: a context, and the strings that were made in it and
in the scopes around it. -/
def Scope (γ ς : Type) : (inside : Bool) → Type
  | false => Unit
  | true => γ × List ς

def Scope.strings : {inside : Bool} → Scope γ ς inside → List ς
  | false, _ => []
  | true, scope => scope.2

/-- Performs a script; `past` is what was reported until now. The script ends where something is
refused, and scopes are left all the same. Strings that are made in a scope do not leave it. -/
def Script.perform (b : Backend σ ρ κ ς β γ) : {inside : Bool} → Script inside →
    Scope γ ς inside → (past : List Report) → Act σ (Except BridgeError (List Report))
  | _, .done, _, past => return .ok past
  | _, .ask request next, (c, strings), past => do
    let before ← Act.counts
    match ← b.grant c strings request with
    | .error e => return .error e
    | .ok (outcome, strings) =>
      let past := past ++ [← b.report before outcome]
      (next past).perform b (c, strings) past
  | _, .within body next, scope, past => do
    let before ← Act.counts
    match ← Bridge.attach b.place b.runtime with
    | .error e => return .error e
    | .ok (runtime, c, attachment) =>
      let past := past ++ [← b.report before (.entered attachment.created)]
      let inside : Act σ (Except BridgeError (List Report) × Counter) := do
        return (← (body past).perform b (c, scope.strings) past, ← Act.counts)
      match ← inside.andFinally (Attachment.exit (b.runtime runtime) attachment) with
      | (.error e, _) => return .error e
      | (.ok past, before) =>
        let past := past ++ [← b.report before (.left attachment.created)]
        (next past).perform b scope past

/-- A scope is entered and left by a script as `withAttachment` does it. -/
theorem Bridge.withAttachment_eq (place : Place σ (Bridge ρ κ)) (backend : ρ → ManagedRuntime σ γ)
    (body : γ → Act σ α) :
    withAttachment place backend body = (do
      match ← attach place backend with
      | .error e => return .error e
      | .ok (runtime, c, attachment) =>
        return .ok (← (body c).andFinally (Attachment.exit (backend runtime) attachment))) := by
  simp only [withAttachment, attach, bind_assoc]
  refine congrArg (_ >>= ·) (funext fun bridge => ?_)
  cases bridge.runtime with
  | error e => rfl
  | ok runtime =>
    simp only [Attachment.within, bind_assoc]
    refine congrArg (_ >>= ·) (funext fun entered => ?_)
    rcases entered with e | ⟨c, attachment⟩ <;> rfl

/-- Why a script is not told to its end. -/
inductive Breach
  /-- A conversion, or another exception, while an exception that was raised is not drained. -/
  | undrained
  /-- An array that is longer than arrays can be. -/
  | tooLong
  deriving DecidableEq, Repr

/-- The event that is counted when this comes of a step. -/
def Outcome.event? : Outcome → Option BridgeEvent
  | string made => if made then some .toManaged else none
  | bytes content? => content?.map fun _ => .toNative
  | text content? => content?.map fun _ => .toNative
  | raised => none
  | drained found => if found then some .exceptionDrained else none
  | entered created => some (if created then .attach else .reuse)
  | left created => if created then some .detach else none

/-- The report on a step of which this came. -/
def Outcome.report (outcome : Outcome) (attached : Bool) : Report :=
  ⟨outcome, BridgeEvent.all.map fun e => if outcome.event? = some e then 1 else 0, attached⟩

section Telling

variable (limit : Nat)

/-- What bytes of a string come to, if there can be an array for them. -/
def Request.copied (bytes : List UInt8) (outcome : Outcome) (strings : List String) :
    Except Breach (Outcome × List String × Bool) :=
  if bytes.length ≤ limit then .ok (outcome, strings, false) else .error .tooLong

/-- What comes of a request, which strings there are after it, and whether an exception is pending
after it, if arrays are no longer than `limit`. -/
def Request.tell (strings : List String) : (pending : Bool) → Request →
    Except Breach (Outcome × List String × Bool)
  | pending, .drain => .ok (.drained pending, strings, false)
  | true, _ => .error .undrained
  | false, .raise _ => .ok (.raised, strings, true)
  | false, .managedFromNative none => .ok (.string false, strings, false)
  | false, .managedFromNative (some bytes) =>
    copied limit bytes (.string true) (Utf8.decodeLossy bytes :: strings)
  | false, .nativeFromManaged string? =>
    match string?.bind (strings[·]?) with
    | none => .ok (.bytes none, strings, false)
    | some string =>
      copied limit (Utf8.encode string) (.bytes (some (Utf8.encode string))) strings
  | false, .stringFromManaged string? =>
    match string?.bind (strings[·]?) with
    | none => .ok (.text none, strings, false)
    | some string => copied limit (Utf8.encode string) (.text (some string)) strings

/-- What is reported until the end of a script, and whether an exception is pending then. A scope
that attached the thread detaches it, and what is pending is gone with that. -/
def Script.tell : {inside : Bool} → Script inside → (attached pending : Bool) → List String →
    (past : List Report) → Except Breach (Bool × List Report)
  | _, .done, _, pending, _, past => .ok (pending, past)
  | _, .ask request next, attached, pending, strings, past => do
    let (outcome, strings, pending) ← request.tell limit strings pending
    let past := past ++ [outcome.report attached]
    (next past).tell attached pending strings past
  | _, .within body next, attached, pending, strings, past => do
    let past := past ++ [(Outcome.entered !attached).report true]
    let (pending, past) ← (body past).tell true pending strings past
    let past := past ++ [(Outcome.left !attached).report attached]
    (next past).tell attached (attached && pending) strings past

end Telling

theorem Counter.since_record (c : Counter) (event? : Option BridgeEvent) :
    (c.record event?).since c =
      BridgeEvent.all.map fun e => if event? = some e then 1 else 0 := by
  refine List.map_congr_left fun e _ => ?_
  cases event? with
  | none => exact UInt64.sub_self _
  | some event =>
    simp only [record, get_increment, Option.some.injEq]
    split
    · rw [UInt64.add_comm, UInt64.add_sub_cancel]
    · exact UInt64.sub_self _

/-- What a step counts is what its outcome tells. -/
theorem Backend.run_report {b : Backend σ ρ κ ς β γ} {before : Counter} {outcome : Outcome}
    {attached : Bool} {w : World σ} (counted : w.events = before.record outcome.event?)
    (hattached : b.attached w.backend = attached) :
    (b.report before outcome).run w = (.ok (outcome.report attached), w) := by
  rw [report, Routine.run_single, counted, Counter.since_record, hattached]
  rfl

/-- An act that makes something of the result of another counts what that one counts. -/
theorem Act.Counts.bind_pure {act : Act σ α} {event? : α → Option BridgeEvent}
    (h : act.Counts event?) {f : α → Act σ τ} (g : α → τ) (hf : ∀ a, f a = Pure.pure (g a))
    {mapped : τ → Option BridgeEvent} (hmapped : ∀ a, mapped (g a) = event? a) :
    (act >>= f).Counts mapped := by
  rw [funext hf]
  exact h.map g mapped hmapped

/-- The event of what a request is granted. -/
def granted? : Except BridgeError (Outcome × List ς) → Option BridgeEvent
  | .ok (outcome, _) => outcome.event?
  | .error _ => none

theorem Backend.grant_counts (b : Backend σ ρ κ ς β γ) (c : γ) (strings : List ς)
    (request : Request) : (b.grant c strings request).Counts granted? := by
  cases request with
  | managedFromNative bytes? =>
    refine (Bridge.managedFromNative_counts bytes?).bind_pure (Except.map fun string? =>
      (.string string?.isSome, string?.toList ++ strings)) ?_ ?_
    · rintro (e | string?) <;> rfl
    · rintro (e | _ | string) <;> rfl
  | nativeFromManaged string? =>
    refine (Bridge.nativeFromManaged_counts _).bind_pure (Except.map fun buffer? =>
      (.bytes (buffer?.map ByteBuffer.content), strings)) ?_ ?_
    · rintro (e | buffer?) <;> rfl
    · rintro (e | _ | buffer) <;> rfl
  | stringFromManaged string? =>
    refine (Bridge.stringFromManaged_counts _).bind_pure (Except.map fun text? =>
      (.text text?, strings)) ?_ ?_
    · rintro (e | text?) <;> rfl
    · rintro (e | _ | text) <;> rfl
  | raise message => exact .call_bind fun _ => .pure rfl
  | drain =>
    refine drain_counts.bind_pure (fun found => Except.ok (Outcome.drained found, strings))
      (fun _ => rfl) ?_
    exact fun _ => rfl

namespace Script

variable {b : Backend σ ρ κ ς β γ} {w v u x : World σ} {e : BridgeError} {c : γ}
  {past : List Report}

section Asking

variable {request : Request} {next : List Report → Script true} {strings : List ς}

theorem run_ask_refused (h : (b.grant c strings request).run w = (.ok (.error e), v)) :
    ((ask request next).perform b (c, strings) past).run w = (.ok (.error e), v) := by
  rw [perform]
  refine (Routine.run_bind_ok (a := w.events) rfl _).trans ?_
  exact Routine.run_bind_ok h _

theorem run_ask {outcome : Outcome} {strings' : List ς} {attached : Bool}
    (h : (b.grant c strings request).run w = (.ok (.ok (outcome, strings')), v))
    (hattached : b.attached v.backend = attached) :
    ((ask request next).perform b (c, strings) past).run w =
      ((next (past ++ [outcome.report attached])).perform b (c, strings')
        (past ++ [outcome.report attached])).run v := by
  have counted : v.events = w.events.record outcome.event? := by
    have hcounts := b.grant_counts c strings request w
    rw [h] at hcounts
    exact hcounts
  rw [perform]
  refine (Routine.run_bind_ok (a := w.events) rfl _).trans ?_
  refine (Routine.run_bind_ok h _).trans ?_
  exact Routine.run_bind_ok (Backend.run_report counted hattached) _

end Asking

section Nesting

variable {inside : Bool} {body : List Report → Script true} {next : List Report → Script inside}
  {scope : Scope γ ς inside} {runtime : ρ} {attachment : Attachment} {attached attached' : Bool}

theorem run_within_refused
    (h : (Bridge.attach b.place b.runtime).run w = (.ok (.error e), v)) :
    ((within body next).perform b scope past).run w = (.ok (.error e), v) := by
  rw [perform]
  refine (Routine.run_bind_ok (a := w.events) rfl _).trans ?_
  exact Routine.run_bind_ok h _

theorem run_within
    (henter : (Bridge.attach b.place b.runtime).run w = (.ok (.ok (runtime, c, attachment)), v))
    (hattached : b.attached v.backend = attached) {r : Except BridgeError (List Report)}
    (hbody : ((body (past ++ [(Outcome.entered attachment.created).report attached])).perform b
      (c, scope.strings) (past ++ [(Outcome.entered attachment.created).report attached])).run v =
        (.ok r, u))
    (hexit : (Attachment.exit (b.runtime runtime) attachment).run u = (.ok (), x))
    (hattached' : b.attached x.backend = attached') :
    ((within body next).perform b scope past).run w =
      match r with
      | .error e => (.ok (.error e), x)
      | .ok past =>
        ((next (past ++ [(Outcome.left attachment.created).report attached'])).perform b scope
          (past ++ [(Outcome.left attachment.created).report attached'])).run x := by
  have entered : v.events =
      w.events.record (Outcome.entered attachment.created).event? := by
    have hcounts : Act.Counts (Bridge.attach b.place b.runtime) _ := Bridge.attach_counts b.runtime
    replace hcounts := hcounts w
    rw [henter] at hcounts
    exact hcounts
  have left : x.events = u.events.record (Outcome.left attachment.created).event? := by
    have hcounts := Attachment.exit_counts (b.runtime runtime) attachment u
    rw [hexit] at hcounts
    exact hcounts
  rw [perform]
  refine (Routine.run_bind_ok (a := w.events) rfl _).trans ?_
  refine (Routine.run_bind_ok henter _).trans ?_
  refine (Routine.run_bind_ok (Backend.run_report entered hattached) _).trans ?_
  have hinside : Routine.run (do
      return (← (body (past ++ [(Outcome.entered attachment.created).report attached])).perform b
        (c, scope.strings) (past ++ [(Outcome.entered attachment.created).report attached]),
        ← Act.counts) : Act σ _) v = (.ok (r, u.events), u) :=
    (Routine.run_bind_ok hbody _).trans rfl
  refine (Routine.run_bind_ok (a := (r, u.events)) (t := x) ?_ _).trans ?_
  · rw [Routine.run_andFinally, hinside]
    dsimp only
    rw [hexit]
  · cases r with
    | error e => rfl
    | ok past => exact Routine.run_bind_ok (Backend.run_report left hattached') _

end Nesting

end Script

end ManagedBridge
