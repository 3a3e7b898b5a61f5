import ManagedBridge.Proofs.Counting
import ManagedBridge.Proofs.ExceptionDiscipline

/-!
# Draining a machine's exceptions

A drain lets the machine print the exception, or clears it and lets the throwable describe itself,
which may raise another one at any of its calls. The main result is that nothing is pending after a
drain in spite of that, and that no function is called out of turn on the way.
-/

namespace ManagedBridge.Jvm

variable {μ ε α β : Type}

/-- An orderly native interface whose exceptions can be cleared. The two questions about classes
that are asked before a text is read throw nothing. -/
structure NativeInterface.Clearing (jni : NativeInterface μ) (pending : μ → Bool) : Prop
    extends jni.Orderly pending where
  clears : jni.provides .exceptionClear = true
  exceptionClear : ∀ m, pending (jni.exceptionClear m).2 = false
  getObjectClass : ∀ object m, pending m = false → pending (jni.getObjectClass object m).2 = false
  isAssignableFrom : ∀ sub super m, pending m = false →
    pending (jni.isAssignableFrom sub super m).2 = false

/-- The call, begun with an exception pending or none, may leave one or none. All that it calls was
allowed. -/
def Contained (pending : μ → Bool) (thrown : Bool) (x : Call (NotedLink μ) α) : Prop :=
  ∀ known, Call.Returns (Poised pending known thrown) x
    fun _ l => ∃ after, Poised pending known after l

namespace Contained

variable {pending : μ → Bool} {thrown : Bool} {x : Call (NotedLink μ) α}
  {f : α → Call (NotedLink μ) β}

theorem pure (a : α) : Contained pending thrown (Pure.pure a : Call (NotedLink μ) α) :=
  fun _ => .pure fun _ hs => ⟨thrown, hs⟩

theorem note (line : LogLine) :
    Contained pending thrown (Call.note line : Call (NotedLink μ) Unit) :=
  fun _ s hs => ⟨(), { s with log := line :: s.log }, rfl, thrown, hs⟩

theorem bind (hx : Contained pending thrown x) (hf : ∀ a after, Contained pending after (f a)) :
    Contained pending thrown (x >>= f) := by
  intro known
  refine (hx known).bind fun a => ?_
  rintro s ⟨after, hs⟩
  exact hf a after known s hs

/-- What keeps to the discipline is gone on from with no exception pending, if it has a result. -/
theorem settles_bind {e : Type} [Raises e] {y : ExceptT e (Call (NotedLink μ)) α}
    {g : α → ExceptT e (Call (NotedLink μ)) β} {Q : α → List (Note μ) → Prop}
    (hy : Settles pending y Q) (hg : ∀ a, Contained pending false (g a).run) :
    Contained pending false (y >>= g).run := by
  intro known
  refine (hy known).bind fun r => ?_
  rintro s ⟨hs, -⟩
  cases r with
  | error error => exact ⟨.error error, s, rfl, _, hs⟩
  | ok a => exact hg a known s hs

/-- A call whose outcome is looked at later. -/
theorem lift_bind {e : Type} {g : α → ExceptT e (Call (NotedLink μ)) β}
    (hx : Contained pending thrown x) (hg : ∀ a after, Contained pending after (g a).run) :
    Contained pending thrown (ExceptT.lift x >>= g).run := by
  intro known
  refine returns_lift_bind (hx known) fun a => ?_
  rintro s ⟨after, hs⟩
  exact hg a after known s hs

theorem of_keeps (hx : Keeps pending x) (thrown : Bool) : Contained pending thrown x :=
  fun known => (hx known thrown).mono fun _ _ hs => ⟨thrown, hs⟩

end Contained

section Operations

variable {pending : μ → Bool} {jni : NativeInterface μ} {known : List (Note μ)}

/-- The functions that deal with exceptions may be called at any time. -/
theorem contained_enter {call : NativeCall} {f : StateM μ α} (thrown : Bool) (entry : Entry)
    (hallowed : thrown = true → call.handlesException = true ∨ call.deletesReference = true) :
    Contained pending thrown
      (Checked.enter (jni.recorded Prod.mk) entry (call.recorded Prod.mk f)).run := by
  intro known
  rw [Checked.enter]
  split
  · refine (returns_call call f thrown hallowed).mono fun r s hs => ?_
    obtain ⟨m, -, -, hafter⟩ := hs
    exact ⟨_, hafter.tail⟩
  · exact .pure fun _ hs => ⟨thrown, hs⟩

/-- Nothing is pending after an exception was cleared, whatever was before. -/
theorem exceptionClear_returns (h : jni.Clearing pending) (thrown : Bool) :
    (Checked.exceptionClear (jni.recorded Prod.mk)).run.Returns (Poised pending known thrown)
      fun r l => r = .ok () ∧ Poised pending known false l := by
  have hprovided : (jni.recorded Prod.mk).provides .exceptionClear = true := h.clears
  rw [Checked.exceptionClear, Checked.enter, if_pos hprovided]
  refine (returns_call .exceptionClear _ thrown fun _ => .inl rfl).mono fun r s hs => ?_
  obtain ⟨m, -, hr, hafter⟩ := hs
  rw [h.exceptionClear] at hafter
  exact ⟨hr, hafter.tail⟩

theorem callMethod_settles (h : jni.Clearing pending) (object : Ref) (name signature : String)
    (args : List Ref) :
    Settles pending (Checked.callMethod (jni.recorded Prod.mk) object name signature args)
      fun _ _ => True := by
  have hclass : Silent pending
      (Checked.enter (jni.recorded Prod.mk) .getObjectClass
        ((jni.recorded Prod.mk).getObjectClass object)) fun _ => True :=
    (silent_enter _ _ (h.getObjectClass object)).mono fun _ _ => trivial
  refine hclass.settles.bind fun cls => thenDelete_settles h.toOrderly cls ?_
  refine (getMethodId_settles h.toOrderly cls name signature).bind fun method => ?_
  exact (orException_settles h.toOrderly .callObjectMethod).mono fun _ _ _ => trivial

/-- Reading a text ends with giving its characters back, and what that does is not looked at. -/
theorem getString_contained (h : jni.Clearing pending) (string : Ref) :
    Contained pending false (Checked.getString (jni.recorded Prod.mk) string).run := by
  refine Contained.settles_bind (orNull_settles h.toOrderly .findClass) fun expected => ?_
  have hclass : Silent pending
      (Checked.enter (jni.recorded Prod.mk) .getObjectClass
        ((jni.recorded Prod.mk).getObjectClass string)) fun _ => True :=
    (silent_enter _ _ (h.getObjectClass string)).mono fun _ _ => trivial
  refine Contained.settles_bind hclass.settles fun actual => ?_
  have hfits : Silent pending
      (Checked.enter (jni.recorded Prod.mk) .isAssignableFrom
        ((jni.recorded Prod.mk).isAssignableFrom expected actual)) fun _ => True :=
    (silent_enter _ _ (h.isAssignableFrom expected actual)).mono fun _ _ => trivial
  refine Contained.settles_bind hfits.settles fun fits => ?_
  cases fits with
  | false => exact .pure _
  | true =>
    refine Contained.settles_bind (orNull_settles h.toOrderly .getStringUtfChars) fun text => ?_
    have hrelease : Contained pending false
        (Checked.enter (jni.recorded Prod.mk) .releaseStringUtfChars
          ((jni.recorded Prod.mk).releaseStringUtfChars string)).run :=
      contained_enter false _ nofun
    exact hrelease.lift_bind fun _ _ => .pure _

namespace Context

theorem throwableText_contained (h : jni.Clearing pending) (throwable : Ref) :
    Contained pending false (throwableText (jni.recorded Prod.mk) throwable).run := by
  refine Contained.settles_bind (callMethod_settles h throwable _ _ _) fun text? => ?_
  cases text? with
  | none => exact .pure _
  | some text =>
    refine (getString_contained h (some text)).bind fun r after => ?_
    cases r with
    | error e => exact .pure _
    | ok summary =>
      have hdropped := Contained.of_keeps (dropLocal_keeps h.toOrderly (some text)) after
      exact hdropped.lift_bind fun _ _ => .pure _

/-- The exception is cleared before its throwable is asked for a text. -/
theorem takeSummary_contained (h : jni.Clearing pending) :
    Contained pending true (takeSummary (jni.recorded Prod.mk)).run := by
  have hoccurred : Contained pending true
      (Checked.exceptionOccurred (jni.recorded Prod.mk)).run :=
    contained_enter true _ fun _ => .inl rfl
  refine hoccurred.bind fun r after => ?_
  rcases r with e | _ | throwable
  · exact .pure _
  · exact .pure _
  · intro known
    refine (exceptionClear_returns h after).bind_value ?_
    have htext := throwableText_contained h (some throwable)
    refine htext.lift_bind (fun summary after => ?_) known
    have hdropped := Contained.of_keeps (dropLocal_keeps h.toOrderly (some throwable)) after
    refine hdropped.lift_bind fun _ _ => ?_
    cases summary <;> exact .pure _

theorem describe_contained (h : jni.Clearing pending) (byMachine : Bool) :
    Contained pending true (describe (jni.recorded Prod.mk) byMachine) := by
  cases byMachine with
  | true =>
    have hprinted : Contained pending true
        (Checked.exceptionDescribe (jni.recorded Prod.mk)).run :=
      contained_enter true _ fun _ => .inl rfl
    refine hprinted.bind fun r _ => ?_
    cases r with
    | ok _ => exact .pure _
    | error e => exact .note _
  | false =>
    refine (takeSummary_contained h).bind fun r _ => ?_
    rcases r with e | _ | summary
    · exact .note _
    · exact .pure _
    · exact .note _

/-- Nothing is pending after the last step of a drain. -/
theorem clear_returns (h : jni.Clearing pending) (known : List (Note μ)) (thrown : Bool) :
    (clear (jni.recorded Prod.mk)).Returns (Poised pending known thrown)
      fun _ => Poised pending known false :=
  (exceptionClear_returns h thrown).bind_value (.pure fun _ => id)

theorem pending_returns (h : jni.Clearing pending) (known : List (Note μ)) (thrown : Bool) :
    (Context.pending (jni.recorded Prod.mk)).Returns (Poised pending known thrown)
      fun b l => b = thrown ∧ Poised pending known thrown l :=
  (exceptionCheck_returns h.toOrderly thrown).bind_value (.pure_value thrown)

/-- The question is one call. -/
theorem pending_notes (h : jni.Clearing pending) (m : μ) (notes : List (Note μ)) :
    (Context.pending (jni.recorded Prod.mk)).Returns (fun l => l.machine = (m, notes))
      fun b l => b = pending m ∧ l.machine.2 = notes ++ [(m, .exceptionCheck)] := by
  have hprovided : (jni.recorded Prod.mk).provides .exceptionCheck = true := h.checks
  rw [Context.pending, Checked.exceptionCheck, Checked.enter, if_pos hprovided]
  intro s hs
  refine ⟨_, _, rfl, ?_, ?_⟩
  · show (jni.exceptionCheck s.backend.machine.1).1 = pending m
    rw [h.exceptionCheck, hs]
  · show s.backend.machine.2 ++ [(s.backend.machine.1, _)] = _
    rw [hs]

end Context

end Operations

section Drains

variable {pending : μ → Bool} {vm : InvocationInterface μ ε} {t : ThreadId} {c : Context ε}

open Process

/-- A drain finds what is pending and leaves nothing. -/
theorem drain_returns (h : (vm.functions c.env).Clearing pending) (known : List (Note μ))
    (thrown : Bool) :
    (drain (context (vm.recorded Prod.mk) t c)).Returns
      (fun p => Poised pending known thrown p.link)
      fun drained p => drained = thrown ∧ Poised pending known false p.link := by
  have hasked := Call.Returns.zoom_part lawful_linkPlace
    (Context.pending_returns h known thrown)
  refine (Call.Returns.monadLift hasked).bind_value ?_
  cases thrown with
  | false => exact .pure_value false
  | true =>
    have hdescribed := Call.Returns.zoom_part lawful_linkPlace
      (Context.describe_contained h c.config.describeExceptions known)
    refine (Call.Returns.monadLift hdescribed).bind fun _ => ?_
    rintro w ⟨after, hw⟩
    have hcleared := Call.Returns.zoom_part lawful_linkPlace
      (Context.clear_returns h known after)
    refine ((Call.Returns.monadLift hcleared).bind fun _ => ?_) w hw
    refine Routine.Returns.bind (Act.returns_count
      (P := fun p : NotedProcess μ => Poised pending known false p.link) _) fun _ => ?_
    refine Routine.Returns.bind (Act.returns_note
      (P := fun p : NotedProcess μ => Poised pending known false p.link) _) fun _ => ?_
    exact .pure_value true

/-- With nothing pending a drain asks for that, and calls nothing else. -/
theorem drain_idle (h : (vm.functions c.env).Clearing pending) (m : μ) (notes : List (Note μ))
    (hidle : pending m = false) :
    (drain (context (vm.recorded Prod.mk) t c)).Returns (fun p => p.link.machine = (m, notes))
      fun _ p => p.link.machine.2 = notes ++ [(m, .exceptionCheck)] := by
  have hasked := Call.Returns.zoom_part lawful_linkPlace (Context.pending_notes h m notes)
  rw [hidle] at hasked
  exact (Call.Returns.monadLift hasked).bind_value (.pure fun _ => id)

end Drains

/-- A drain returns and tells whether an exception was pending. None is after it, whatever the
machine did while the exception was described; it is counted exactly if there was one. Functions
were called with an exception pending only if they may be called then. With nothing pending the
question for that was the only call. -/
theorem drain_clears {pending : μ → Bool} {vm : InvocationInterface μ ε} {c : Context ε}
    (hjni : (vm.functions c.env).Clearing pending) (t : ThreadId) (w : World (NotedProcess μ))
    (hnone : w.backend.link.machine.2 = []) :
    ∃ drained v, (drain (Process.context (vm.recorded Prod.mk) t c)).run w = (.ok drained, v) ∧
      drained = pending w.backend.link.machine.1 ∧
      pending v.backend.link.machine.1 = false ∧
      v.events = w.events.record (if drained then some .exceptionDrained else none) ∧
      (∀ note ∈ v.backend.link.machine.2, Allowed pending note) ∧
      (drained = false →
        v.backend.link.machine.2 = [(w.backend.link.machine.1, .exceptionCheck)]) := by
  have hw : Poised pending [] (pending w.backend.link.machine.1) w.backend.link :=
    ⟨rfl, by rw [hnone]; nofun, nofun⟩
  obtain ⟨drained, v, hrun, hdrained, hv⟩ := drain_returns hjni [] _ w hw
  have hevents := congrArg World.events (congrArg Prod.snd hrun)
  rw [drain_counts w, hrun] at hevents
  refine ⟨drained, v, hrun, hdrained, hv.pending_eq, hevents.symm, hv.allowed, fun hidle => ?_⟩
  have hbefore : w.backend.link.machine = (w.backend.link.machine.1, []) := by
    rw [← hnone]
  obtain ⟨_, v', hrun', hnotes⟩ :=
    drain_idle (t := t) hjni _ [] (hdrained.symm.trans hidle) w hbefore
  rw [hrun] at hrun'
  obtain ⟨-, rfl⟩ := Prod.mk.inj hrun'
  exact hnotes

/-- A machine on which every method throws; its state is whether an exception is pending. -/
def exasperated : InvocationInterface Bool Unit :=
  { exhausted with
    functions := fun _ =>
      { exhausted.functions () with callObjectMethod := fun _ _ _ _ => (none, true) } }

/-- The throwable's own text throws, and that exception is cleared as well. -/
theorem drain_clears_exasperated : ∃ v : World (NotedProcess Bool),
    (drain (Process.context (exasperated.recorded Prod.mk) (.worker 0)
      ⟨(), { describeExceptions := false }⟩)).run
        ⟨⟨⟨⟨(true, []), []⟩, {}, none⟩, []⟩, .zero⟩ = (.ok true, v) ∧
      v.backend.link.machine.1 = false ∧
      (false, .callObjectMethod (some 1) 1 []) ∈ v.backend.link.machine.2 ∧
      ∀ note ∈ v.backend.link.machine.2, Allowed id note := by
  have hjni : (exasperated.functions ()).Clearing id :=
    { checks := rfl
      exceptionCheck := fun _ => rfl
      exceptionCheck_keeps := fun _ => rfl
      deleteLocalRef := fun _ _ => rfl
      deleteGlobalRef := fun _ _ => rfl
      newGlobalRef := fun _ _ => id
      getArrayLength := fun _ _ => id
      getJavaVm := fun _ => id
      clears := rfl
      exceptionClear := fun _ => rfl
      getObjectClass := fun _ _ => id
      isAssignableFrom := fun _ _ _ => id }
  obtain ⟨drained, v, hrun, hdrained, hpending, -, hallowed, -⟩ :=
    drain_clears (c := ⟨(), { describeExceptions := false }⟩) hjni (.worker 0)
      ⟨⟨⟨⟨(true, []), []⟩, {}, none⟩, []⟩, .zero⟩ rfl
  obtain rfl : drained = true := hdrained
  refine ⟨v, hrun, hpending, ?_, hallowed⟩
  have hv := congrArg (fun out => out.2.backend.link.machine.2) hrun
  exact hv ▸ by decide

end ManagedBridge.Jvm
