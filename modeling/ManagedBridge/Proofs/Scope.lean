import ManagedBridge.Bridge

/-!
# Running a scope

What entering and leaving a scope does is decided by what the runtime answers. A body that runs in a
scope runs once, from the state in which the scope was entered, and the scope is left in whatever
state the body leaves.
-/

namespace ManagedBridge

variable {σ ρ κ γ α : Type}

namespace Attachment

variable {rt : ManagedRuntime σ γ} {w v : World σ} {s t : Site σ}

theorem run_enter_reuse {context : γ}
    (h : rt.currentContext.run w.toSite = (.ok (some context), s)) :
    (enter rt).run w =
      (.ok (.ok (context, ⟨false⟩)),
        ⟨⟨s.backend, reusedLine :: s.log⟩, w.events.increment .reuse⟩) := by
  rw [enter, Routine.run_bind, Call.run_monadLift, h]
  rfl

theorem run_enter_attach {context : γ} (hnone : rt.currentContext.run w.toSite = (.ok none, s))
    (h : rt.attachCurrentThread.run s = (.ok (.ok context), t)) :
    (enter rt).run w =
      (.ok (.ok (context, ⟨true⟩)),
        ⟨⟨t.backend, attachedLine :: t.log⟩, w.events.increment .attach⟩) := by
  rw [enter, Routine.run_bind, Call.run_monadLift, hnone]
  simp only
  rw [Routine.run_bind, Call.run_monadLift, h]
  rfl

/-- A refused attachment counts no event. -/
theorem run_enter_refused {e : RuntimeError}
    (hnone : rt.currentContext.run w.toSite = (.ok none, s))
    (h : rt.attachCurrentThread.run s = (.ok (.error e), t)) :
    (enter rt).run w =
      (.ok (.error (.attachFailed e)), ⟨⟨t.backend, refusedLine e :: t.log⟩, w.events⟩) := by
  rw [enter, Routine.run_bind, Call.run_monadLift, hnone]
  simp only
  rw [Routine.run_bind, Call.run_monadLift, h]
  rfl

theorem run_enter_panicked {panic : Panic}
    (h : rt.currentContext.run w.toSite = (.error panic, s)) :
    (enter rt).run w = (.error panic, ⟨s, w.events⟩) := by
  rw [enter, Routine.run_bind, Call.run_monadLift, h]

theorem run_exit_reused : (exit rt ⟨false⟩).run w = (.ok (), w) := rfl

theorem run_exit_created (h : rt.detachCurrentThread.run w.toSite = (.ok (), s)) :
    (exit rt ⟨true⟩).run w =
      (.ok (), ⟨⟨s.backend, detachedLine :: s.log⟩, w.events.increment .detach⟩) := by
  rw [exit, if_pos rfl, Routine.run_bind, Call.run_monadLift, h]
  rfl

section Within

variable {body : γ → Act σ α}

theorem run_within_refused {e : BridgeError} (h : (enter rt).run w = (.ok (.error e), v)) :
    (within rt body).run w = (.ok (.error e), v) :=
  Routine.run_bind_ok h _

theorem run_within_panicked {panic : Panic} (h : (enter rt).run w = (.error panic, v)) :
    (within rt body).run w = (.error panic, v) :=
  Routine.run_bind_error h _

theorem run_within_entered {context : γ} {attachment : Attachment}
    (h : (enter rt).run w = (.ok (.ok (context, attachment)), v)) :
    (within rt body).run w =
      let (ended, u) := ((body context).andFinally (exit rt attachment)).run v
      (ended.map .ok, u) := by
  refine (Routine.run_bind_ok h _).trans ?_
  refine (Routine.run_bind _ _ _).trans ?_
  rcases ((body context).andFinally (exit rt attachment)).run v with ⟨_ | _, u⟩ <;> rfl

/-- However the body ends, short of an abort, the scope is left once after it. -/
theorem run_within_left {context : γ} {attachment : Attachment} {ended : Except Panic α}
    {left final : World σ} (h : (enter rt).run w = (.ok (.ok (context, attachment)), v))
    (hbody : (body context).run v = (ended, left)) (hended : ended ≠ .error .abort)
    (hexit : (exit rt attachment).run left = (.ok (), final)) :
    (within rt body).run w = (ended.map .ok, final) := by
  rw [run_within_entered h, Routine.run_andFinally, hbody]
  rcases ended with (message | _) | a
  · simp only [hexit, Except.map]
  · exact absurd rfl hended
  · simp only [hexit, Except.map]

end Within

end Attachment

namespace Bridge

variable {place : Place σ (Bridge ρ κ)} {backend : ρ → ManagedRuntime σ γ} {w v : World σ}

theorem run_attach_unset {e : BridgeError} (h : (place.get w.backend).runtime = .error e) :
    (attach place backend).run w = (.ok (.error e), w) := by
  rw [attach, Routine.run_bind, Call.run_monadLift, Call.run_read]
  simp only [h, Routine.run_pure]

/-- A bridge with a runtime attaches as its runtime does. -/
theorem run_attach {runtime : ρ} (h : (place.get w.backend).runtime = .ok runtime) :
    (attach place backend).run w =
      let (entered, v) := (Attachment.enter (backend runtime)).run w
      (entered.map (·.map fun scope => (runtime, scope.1, scope.2)), v) := by
  rw [attach, Routine.run_bind, Call.run_monadLift, Call.run_read]
  simp only [h, Routine.run_bind]
  rcases (Attachment.enter (backend runtime)).run w with ⟨panic | e | scope, v⟩ <;> rfl

theorem run_withAttachment_unset {e : BridgeError} {body : γ → Act σ α}
    (h : (place.get w.backend).runtime = .error e) :
    (withAttachment place backend body).run w = (.ok (.error e), w) := by
  rw [withAttachment, Routine.run_bind, Call.run_monadLift, Call.run_read]
  simp only [h, Routine.run_pure]

/-- On a bridge with a runtime the body runs in a scope of that runtime. -/
theorem run_withAttachment {runtime : ρ} {body : γ → Act σ α}
    (h : (place.get w.backend).runtime = .ok runtime) :
    (withAttachment place backend body).run w =
      (Attachment.within (backend runtime) body).run w := by
  rw [withAttachment, Routine.run_bind, Call.run_monadLift, Call.run_read]
  simp only [h]

end Bridge

end ManagedBridge
