import ManagedBridge.Bridge
import ManagedBridge.Proofs.Discipline

/-!
# What acts count

What an act gives decides which event it counts, whatever the backend: a conversion that makes
something, a drain that finds an exception and a scope that is entered or left count one event, and
nothing else counts any.
-/

namespace ManagedBridge

/-- The counts with one more of the event, if there is one. -/
def Counter.record (c : Counter) : Option BridgeEvent → Counter
  | none => c
  | some event => c.increment event

/-- If the act gives `a`, it counts the event of `a`, if that is one, and no other. If it panics it
counts nothing. -/
def Act.Counts {σ α : Type} (act : Act σ α) (event? : α → Option BridgeEvent) : Prop :=
  ∀ w, (act.run w).2.events =
    match (act.run w).1 with
    | .ok a => w.events.record (event? a)
    | .error _ => w.events

namespace Act.Counts

variable {σ α γ : Type} {event? : α → Option BridgeEvent}

theorem pure {a : α} (h : event? a = none) : Counts (Pure.pure a : Act σ α) event? := by
  intro w
  show w.events = w.events.record (event? a)
  rw [h]
  rfl

/-- A backend's call counts nothing. -/
theorem call {call : Call σ α} (h : ∀ a, event? a = none) :
    Counts (liftM call : Act σ α) event? := by
  intro w
  rw [Call.run_monadLift]
  rcases call.run w.toSite with ⟨panic | a, s⟩
  · rfl
  · show w.events = w.events.record (event? a)
    rw [h]
    rfl

theorem call_bind {call : Call σ γ} {f : γ → Act σ α} (h : ∀ c, Counts (f c) event?) :
    Counts (liftM call >>= f) event? := by
  intro w
  rw [Routine.run_bind, Call.run_monadLift]
  rcases call.run w.toSite with ⟨panic | c, s⟩
  · rfl
  · exact h c _

theorem count_note {event : BridgeEvent} {line : LogLine} {a : α} (h : event? a = some event) :
    Counts (do Act.count event; Act.note line; return a : Act σ α) event? := by
  intro w
  show w.events.increment event = w.events.record (event? a)
  rw [h]
  rfl

theorem map {act : Act σ α} (h : Counts act event?) (f : α → γ)
    (mapped : γ → Option BridgeEvent) (hf : ∀ a, mapped (f a) = event? a) :
    Counts (act >>= fun a => Pure.pure (f a)) mapped := by
  intro w
  have hact := h w
  rw [Routine.run_bind]
  rcases hrun : act.run w with ⟨panic | a, v⟩ <;> rw [hrun] at hact
  · exact hact
  · show v.events = w.events.record (mapped (f a))
    rw [hf]
    exact hact

end Act.Counts

section Counting

variable {σ κ ς β ρ γ : Type} {ctx : CallContext σ κ ς β} {place : Place σ (Bridge ρ κ)}

/-- The event of a conversion that makes something. -/
def converted? {α : Type} (event : BridgeEvent) :
    Except BridgeError (Option α) → Option BridgeEvent
  | .ok (some _) => some event
  | _ => none

theorem Marshal.toNative_counts [Memory] (caps : κ) (string? : Option ς) :
    (toNative ctx caps string?).Counts (converted? .toNative) := by
  rcases string? with _ | string
  · exact .pure rfl
  · rw [toNative_some]
    intro w
    rw [run_throughArray_events]
    rcases ((throughArray ctx _ _ _ _ _).run w).1 with _ | _ | _ | _ <;> rfl

theorem Marshal.toManaged_counts (caps : κ) (bytes? : Option (List UInt8)) :
    (toManaged ctx caps bytes?).Counts (converted? .toManaged) := by
  rcases bytes? with _ | bytes
  · exact .pure rfl
  · rw [toManaged_some]
    intro w
    rw [run_throughArray_events]
    rcases ((throughArray ctx _ _ _ _ _).run w).1 with _ | _ | _ | _ <;> rfl

theorem Bridge.nativeFromManaged_counts [Memory] (string? : Option ς) :
    (nativeFromManaged place ctx string?).Counts (converted? .toNative) := by
  rcases string? with _ | string
  · exact .pure rfl
  · refine .call_bind fun bridge => ?_
    cases hcaps : bridge.capabilities with
    | error e => exact .pure rfl
    | ok caps => exact Marshal.toNative_counts caps (some string)

theorem Bridge.managedFromNative_counts (bytes? : Option (List UInt8)) :
    (managedFromNative place ctx bytes?).Counts (converted? .toManaged) := by
  rcases bytes? with _ | bytes
  · exact .pure rfl
  · refine .call_bind fun bridge => ?_
    cases hcaps : bridge.capabilities with
    | error e => exact .pure rfl
    | ok caps => exact Marshal.toManaged_counts caps (some bytes)

theorem Bridge.stringFromManaged_counts [Memory] (string? : Option ς) :
    (stringFromManaged place ctx string?).Counts (converted? .toNative) := by
  have counted : (nativeFromManaged place ctx string?).Counts (converted? .toNative) :=
    nativeFromManaged_counts string?
  have mapped := counted.map (Except.map (Option.map ByteBuffer.textLossy)) (converted? .toNative)
    (by rintro (_ | _ | _) <;> rfl)
  refine (congrArg (Act.Counts · _) ?_).mp mapped
  exact congrArg (_ >>= ·) (funext fun result => by cases result <;> rfl)

theorem drain_counts : (drain ctx).Counts fun drained =>
    if drained then some .exceptionDrained else none := by
  refine .call_bind ?_
  rintro (_ | _)
  · exact .pure rfl
  · exact .call_bind fun _ => .call_bind fun _ => .count_note rfl

section Draining

variable {w : World σ} {found described cleared : Site σ}

theorem run_drain_none (h : ctx.exceptionPending.run w.toSite = (.ok false, found)) :
    (drain ctx).run w = (.ok false, { w with toSite := found }) := by
  refine Routine.run_bind_ok (a := false) ?_ _
  rw [Call.run_monadLift, h]

theorem run_drain_panicked {panic : Panic}
    (h : ctx.exceptionPending.run w.toSite = (.error panic, found)) :
    (drain ctx).run w = (.error panic, { w with toSite := found }) := by
  refine Routine.run_bind_error ?_ _
  rw [Call.run_monadLift, h]

/-- An exception that is pending is reported, cleared and counted. -/
theorem run_drain_some (hpending : ctx.exceptionPending.run w.toSite = (.ok true, found))
    (hdescribe : ctx.describeException.run found = (.ok (), described))
    (hclear : ctx.clearException.run described = (.ok (), cleared)) :
    (drain ctx).run w =
      (.ok true, ⟨{ cleared with log := drainedLine :: cleared.log },
        w.events.increment .exceptionDrained⟩) := by
  simp only [drain, Routine.run_bind, Call.run_monadLift, hpending, if_true, hdescribe, hclear]
  rfl

end Draining

/-- The event of an entry that succeeds. -/
def entered? (attachment : Attachment) : BridgeEvent :=
  if attachment.created then .attach else .reuse

theorem Attachment.enter_counts (rt : ManagedRuntime σ γ) :
    (enter rt).Counts fun
      | .ok (_, attachment) => some (entered? attachment)
      | .error _ => none := by
  refine .call_bind ?_
  rintro (_ | context)
  · refine .call_bind ?_
    rintro (e | context)
    · exact .call_bind fun _ => .pure rfl
    · exact .count_note rfl
  · exact .count_note rfl

theorem Attachment.exit_counts (rt : ManagedRuntime σ γ) (attachment : Attachment) :
    (exit rt attachment).Counts fun _ => if attachment.created then some .detach else none := by
  obtain ⟨_ | _⟩ := attachment
  · exact .pure rfl
  · exact .call_bind fun _ => .count_note rfl

theorem Bridge.attach_counts (backend : ρ → ManagedRuntime σ γ) :
    (attach place backend).Counts fun
      | .ok (_, _, attachment) => some (entered? attachment)
      | .error _ => none := by
  refine .call_bind fun bridge => ?_
  cases bridge.runtime with
  | error e => exact .pure rfl
  | ok runtime =>
    have mapped := (Attachment.enter_counts (backend runtime)).map
      (Except.map fun scope => (runtime, scope.1, scope.2))
      (fun
        | .ok (_, _, attachment) => some (entered? attachment)
        | .error _ => none)
      (by rintro (_ | _) <;> rfl)
    refine (congrArg (Act.Counts · _) ?_).mp mapped
    exact congrArg (_ >>= ·) (funext fun result => by cases result <;> rfl)

end Counting

end ManagedBridge
