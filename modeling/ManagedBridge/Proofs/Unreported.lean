import ManagedBridge.Proofs.Deeds
import ManagedBridge.Proofs.Confinement

/-!
# Reports leave no trace

An in-process runtime keeps the exceptions that were reported, and reads them for no other purpose
than to be asked for them. What threads do with the runtimes of an installation, and with its
bridges, comes to the same whatever was reported before.
-/

namespace ManagedBridge

namespace InProcess

/-- The state with these reports in place of its own. -/
def State.withReports (s : State) (reports : List String) : State :=
  { s with runtime := { s.runtime with described := reports } }

/-- What a state is apart from what was reported. -/
def State.unreported (s : State) : State := s.withReports []

/-- States that are the same apart from the reports differ in nothing else. -/
theorem State.exists_withReports {s s' : State} (h : s.unreported = s'.unreported) :
    ∃ reports, s' = s.withReports reports := by
  refine ⟨s'.runtime.described, ?_⟩
  have hrestored := congrArg (State.withReports · s'.runtime.described) h
  exact hrestored.symm

/-- The table of threads is locked and changed past the reports. -/
theorem Runtime.lockThreads_reports {α : Type} (r : Runtime) (reports : List String)
    (f : Table ThreadId ThreadRecord → Except String (α × Table ThreadId ThreadRecord)) :
    Runtime.lockThreads { r with described := reports } f =
      ((r.lockThreads f).1, { (r.lockThreads f).2 with described := reports }) := by
  cases hopen : r.poisoned with
  | true => simp [lockThreads, hopen]
  | false => cases hf : f r.threads <;> simp [lockThreads, hopen, hf]

namespace Context

variable {α : Type} {t : ThreadId}

open State

/-- A step is confined if other reports change nothing but the reports that it leaves. -/
theorem confined_step {f : State → α × State}
    (h : ∀ s reports, (f (s.withReports reports)).1 = (f s).1 ∧
      (f (s.withReports reports)).2.unreported = (f s).2.unreported) :
    (Call.step f).Confined unreported := by
  refine Call.confined_step fun s s' hs => ?_
  obtain ⟨reports, rfl⟩ := exists_withReports hs
  exact ⟨(h s reports).1.symm, (h s reports).2.symm⟩

theorem confined_modifyRuntime {f : Runtime → Runtime}
    (h : ∀ s : State, ∀ reports,
      (State.unreported { s with runtime := f (s.withReports reports).runtime }) =
        State.unreported { s with runtime := f s.runtime }) :
    (modifyRuntime f).Confined unreported :=
  confined_step fun s reports => ⟨rfl, h s reports⟩

/-- What goes on in the same way whatever the reports of the runtime that was read. The rule for
`bind` does not apply to it, since the runtime that is read tells its reports. -/
theorem confined_getRuntime {next : Runtime → Call State α}
    (same : ∀ r : Runtime, ∀ reports, next { r with described := reports } = next r)
    (h : ∀ r, (next r).Confined unreported) : (getRuntime >>= next).Confined unreported := by
  intro s s' hs
  rw [getRuntime, Routine.run_bind, Routine.run_bind, Call.run_step, Call.run_step]
  obtain ⟨reports, hreports⟩ := exists_withReports hs
  dsimp only
  rw [hreports, show next (s.backend.withReports reports).runtime = next s.backend.runtime from
    same _ reports, ← hreports]
  exact h s.backend.runtime s s' hs

theorem confined_onThreads
    (f : Table ThreadId ThreadRecord → Except String (α × Table ThreadId ThreadRecord)) :
    (onThreads f).Confined unreported := by
  have hC := Call.compositional_confined unreported
  refine hC.bind (confined_step fun s reports => ?_) ?_
  · simp only [withReports, unreported, Runtime.lockThreads_reports, and_self]
  · rintro (message | a)
    · exact hC.panicked _
    · exact hC.pure _

theorem confined_onRecord (f : ThreadRecord → Except String (α × ThreadRecord)) :
    (onRecord t f).Confined unreported :=
  confined_onThreads _

theorem confined_call : (call t).Confined unreported := by
  have hC := Call.compositional_confined unreported
  refine hC.bind (confined_modifyRuntime fun _ _ => rfl) fun _ => ?_
  refine hC.bind (confined_onRecord _) ?_
  rintro (_ | _) <;> exact hC.pure _

/-- An operation that starts with a call, and may go on with it. -/
theorem confined_call_then
    {next : Except RuntimeError Unit → Call State (Except RuntimeError α)}
    (stops : ∀ e, next (.error e) = pure (.error e)) (goes : (next (.ok ())).Confined unreported) :
    (call t >>= next).Confined unreported := by
  have hC := Call.compositional_confined unreported
  refine hC.bind confined_call ?_
  rintro (e | ⟨⟩)
  · rw [stops]
    exact hC.pure _
  · exact goes

theorem confined_content (array : ArrayId) : (content array).Confined unreported :=
  confined_step fun _ _ => ⟨rfl, rfl⟩

theorem confined_throwException (message : String) :
    (throwException t message).Confined unreported :=
  confined_onRecord _

theorem confined_allocate (array : ZeroFilled UInt8) : (allocate t array).Confined unreported := by
  have hC := Call.compositional_confined unreported
  refine hC.bind (confined_step fun _ _ => ⟨rfl, rfl⟩) ?_
  rintro (_ | _)
  · exact hC.bind (confined_onRecord _) fun _ => confined_step fun _ _ => ⟨rfl, rfl⟩
  · exact hC.bind (confined_throwException _) fun _ => hC.pure _

/-- A report is added to those before, whatever they are. -/
theorem confined_describeException : (describeException t).Confined unreported := by
  have hC := Call.compositional_confined unreported
  refine hC.bind (confined_onRecord _) ?_
  rintro (_ | message)
  · exact hC.pure _
  · exact confined_modifyRuntime fun _ _ => rfl

theorem confined_attach : (attach t).Confined unreported := by
  have hC := Call.compositional_confined unreported
  refine confined_getRuntime (fun _ _ => rfl) fun r => ?_
  split
  · exact hC.pure _
  · refine hC.bind (confined_modifyRuntime fun _ _ => rfl) fun _ => ?_
    exact hC.bind (confined_onThreads _) fun _ => hC.pure _

theorem confined_detach : (detach t).Confined unreported := by
  have hC := Call.compositional_confined unreported
  refine hC.bind (confined_modifyRuntime fun _ _ => rfl) fun _ => ?_
  refine hC.bind (confined_onThreads _) ?_
  rintro (_ | record)
  · exact hC.panicked _
  · dsimp only
    split
    · exact hC.panicked _
    · exact hC.pure _

end Context

open Context

theorem context_confined (t : ThreadId) :
    (context t).Meets fun _ call => call.Confined State.unreported := by
  have hC := Call.compositional_confined State.unreported
  refine ⟨?_, ?_, ?_, ?_, ?_, ?_, ?_, ?_, confined_onRecord _, confined_onRecord _⟩
  · refine hC.bind (confined_modifyRuntime fun _ _ => rfl) fun _ => ?_
    refine confined_call_then (fun _ => rfl) (confined_getRuntime (fun _ _ => rfl) fun r => ?_)
    split <;> exact hC.pure _
  · exact fun _ _ => confined_call_then (fun _ => rfl) (confined_allocate _)
  · exact fun array => confined_call_then (fun _ => rfl)
      (hC.bind (confined_content array) fun _ => hC.pure _)
  · intro array len
    refine confined_call_then (fun _ => rfl) (hC.bind (confined_content array) fun bytes => ?_)
    split <;> exact hC.pure _
  · exact fun _ => confined_call_then (fun _ => rfl) (confined_allocate _)
  · intro array bytes
    refine confined_call_then (fun _ => rfl) (hC.bind (confined_content array) fun old => ?_)
    split
    · exact confined_step fun _ _ => ⟨rfl, rfl⟩
    · exact hC.pure _
  · intro caps array
    refine confined_call_then (fun _ => rfl) (confined_getRuntime (fun _ _ => rfl) fun r => ?_)
    split
    · exact hC.bind (confined_throwException _) fun _ => hC.pure _
    · exact hC.bind (confined_content array) fun _ => hC.pure _
  · exact fun _ => confined_onRecord _

theorem managedRuntime_confined (t : ThreadId) :
    (managedRuntime t).Meets fun _ call => call.Confined State.unreported := by
  have hC := Call.compositional_confined State.unreported
  refine ⟨?_, ?_, confined_detach⟩
  · refine hC.bind (confined_onThreads _) fun attached => ?_
    split <;> exact hC.pure _
  · refine hC.bind confined_attach ?_
    rintro (e | _) <;> exact hC.pure _

end InProcess

open InProcess

namespace Installation

variable {ρ ι α : Type}

/-- What an installation is apart from what its runtimes have reported. -/
def unreported (s : Installation ρ ι) : Installation ρ ι :=
  { s with runtimes := fun r => (s.runtimes r).unreported }

variable [DecidableEq ρ]

theorem unreported_set (r : ρ) (x : State) (s : Installation ρ ι) :
    ((runtimeAt r).set x s).unreported = (runtimeAt r).set x.unreported s.unreported := by
  have hruntimes : (fun q => (Function.update s.runtimes r x q).unreported) =
      Function.update (fun q => (s.runtimes q).unreported) r x.unreported := by
    funext q
    rw [Function.update_apply, Function.update_apply]
    split <;> rfl
  exact congrArg (Installation.mk · s.bridges) hruntimes

theorem confined_zoom {r : ρ} {call : Call State α} (h : call.Confined State.unreported) :
    (call.zoom (runtimeAt r)).Confined (@unreported ρ ι) := by
  refine h.zoom (lawful_runtimeAt r) (fun s s' hs => ?_) fun s s' x x' hs hx => ?_
  · exact congrFun (congrArg Installation.runtimes hs) r
  · rw [unreported_set, unreported_set, hs, hx]

theorem context_confined (ref : ρ × ThreadId) :
    (context ref).Meets fun _ call => call.Confined (@unreported ρ ι) :=
  (InProcess.context_confined ref.2).zoom confined_zoom

theorem managedRuntime_confined (t : ThreadId) (r : ρ) :
    (managedRuntime t r).Meets fun _ call => call.Confined (@unreported ρ ι) := by
  have hC := Call.compositional_confined (@unreported ρ ι)
  have h := InProcess.managedRuntime_confined t
  refine ⟨?_, ?_, confined_zoom h.detachCurrentThread⟩
  · exact hC.bind (confined_zoom h.currentContext) fun _ => hC.pure _
  · exact hC.bind (confined_zoom h.attachCurrentThread) fun _ => hC.pure _

theorem confined_direct {r : ρ} {call : Call State α} (h : call.Confined State.unreported) :
    (direct r call).Confined (@unreported ρ ι) :=
  (confined_zoom h).monadLift

variable [DecidableEq ι]

omit [DecidableEq ρ] in
theorem confined_readBridge (b : ι) :
    (Call.read (bridgeAt b)).Confined (@unreported ρ ι) :=
  Call.confined_read fun _ _ hs => congrFun (congrArg Installation.bridges hs) b

omit [DecidableEq ρ] in
theorem confined_tryModify_inside {β ε : Type} (b : ι) (inner : Place (Bridge ρ Capabilities) β)
    (f : β → Except ε β) :
    (Call.tryModify ((bridgeAt b).inside inner) f).Confined (@unreported ρ ι) := by
  have shown (s s' : Installation ρ ι) (hs : s.unreported = s'.unreported) :
      s.bridges b = s'.bridges b := congrFun (congrArg Installation.bridges hs) b
  refine Call.confined_tryModify (fun s s' hs => ?_) (fun x s s' hs => ?_) f
  · exact congrArg inner.get (shown s s' hs)
  · show (bridgeAt b).set (inner.set x (s.bridges b)) s.unreported =
      (bridgeAt b).set (inner.set x (s'.bridges b)) s'.unreported
    rw [shown s s' hs, hs]

theorem confined_use [Memory] (ref : ρ × ThreadId) (what : ContextUse ι α) :
    (use ref what).Confined unreported := by
  have both := Act.compositional_confined (@unreported ρ ι)
  have hctx := context_confined (ι := ι) ref
  cases what with
  | toNative caps string? => exact hctx.toNative both caps string?
  | toManaged caps bytes? => exact hctx.toManaged both caps bytes?
  | nativeFromManaged b string? => exact hctx.nativeFromManaged both (confined_readBridge b) string?
  | managedFromNative b bytes? => exact hctx.managedFromNative both (confined_readBridge b) bytes?
  | stringFromManaged b string? => exact hctx.stringFromManaged both (confined_readBridge b) string?
  | throwException message => exact confined_direct (Context.confined_throwException message)
  | drain => exact hctx.drain both (confined_zoom Context.confined_describeException)

theorem Deed.act_confined [Memory] (t : ThreadId) (deed : Deed ρ ι α) :
    (deed.act t).Confined unreported := by
  have both := Act.compositional_confined (@unreported ρ ι)
  have hA := both.acts
  have hctx (r : ρ) := context_confined (ι := ι) (r, t)
  have hrt (r : ρ) := managedRuntime_confined (ι := ι) t r
  cases deed with
  | enter r => exact hA.bind ((hrt r).enter both) fun _ => hA.pure _
  | attach b =>
    exact hA.bind (ManagedRuntime.Meets.attach both hrt (confined_readBridge b)) fun _ => hA.pure _
  | exit scope raw => exact (hrt scope.runtime).exit both _
  | use r what => exact confined_use (r, t) what
  | call r what =>
    have hcall : (what.on (context (r, t))).Confined (@unreported ρ ι) :=
      DirectCall.on_meets (hctx r) what
    exact hcall.monadLift
  | start b r =>
    have reads : (Call.read ((bridgeAt b).inside Bridge.cachePlace)).Confined
        (@unreported ρ ι) :=
      Call.confined_read fun _ _ hs =>
        congrArg Bridge.cache (congrFun (congrArg Installation.bridges hs) b)
    exact ((hctx r).start both (confined_readBridge b) reads
      (confined_tryModify_inside b Bridge.cachePlace)
      (confined_tryModify_inside b Bridge.registryPlace) r).monadLift
  | setFlag r flag value =>
    refine confined_direct (Context.confined_modifyRuntime fun s reports => ?_)
    cases flag <;> rfl
  | attachExternally r => exact confined_direct (Context.confined_onThreads _)
  | detachExternally r => exact confined_direct (Context.confined_onThreads _)

/-- What threads do with the runtimes and the bridges, deed after deed, with scopes around parts of
it. Any part may depend on what came of those before; it may panic, and a panic may be caught. -/
inductive Conduct [Memory] : {α : Type} → Act (Installation ρ ι) α → Prop
  | pure {α : Type} (a : α) : Conduct (pure a)
  | raise {α : Type} (message : String) :
    Conduct (throw (.raised message) : Act (Installation ρ ι) α)
  | bind {α δ : Type} {first : Act (Installation ρ ι) α} {next : α → Act (Installation ρ ι) δ}
    (start : Conduct first) (rest : ∀ a, Conduct (next a)) : Conduct (first >>= next)
  | caught {α : Type} {body : Act (Installation ρ ι) α} (inside : Conduct body) :
    Conduct body.caught
  | deed {α : Type} (t : ThreadId) (deed : Deed ρ ι α) : Conduct (deed.act t)
  | within {α : Type} (t : ThreadId) (r : ρ) {body : ρ × ThreadId → Act (Installation ρ ι) α}
    (inside : ∀ ref, Conduct (body ref)) : Conduct (Attachment.within (managedRuntime t r) body)
  | withAttachment {α : Type} (t : ThreadId) (b : ι)
    {body : ρ × ThreadId → Act (Installation ρ ι) α} (inside : ∀ ref, Conduct (body ref)) :
    Conduct (Bridge.withAttachment (bridgeAt b) (managedRuntime t) body)

/-- Whatever was reported, threads come to the same, and so does the installation apart from its
reports. -/
theorem Conduct.confined [Memory] {act : Act (Installation ρ ι) α} (h : Conduct act) :
    act.Confined unreported := by
  have both := Act.compositional_confined (@unreported ρ ι)
  have hA := both.acts
  induction h with
  | pure a => exact hA.pure a
  | raise message => exact hA.panicked _
  | bind start rest ihstart ihrest => exact hA.bind ihstart ihrest
  | caught inside ih => exact hA.caught ih
  | deed t deed => exact deed.act_confined t
  | within t r inside ih => exact (managedRuntime_confined t r).within both ih
  | withAttachment t b inside ih =>
    exact ManagedRuntime.Meets.withAttachment both (managedRuntime_confined t)
      (confined_readBridge b) ih

end Installation

end ManagedBridge
