import ManagedBridge.Jvm.Machine
import ManagedBridge.Proofs.EntryPoints
import ManagedBridge.Proofs.NativeRecording

/-!
# The life of a bridge to a virtual machine

A bridge is started by the machine that loads the library, by a host in C or by a host that has an
environment, and it is used through other entry points before and after that. In any sequence of
calls at most one start succeeds. It fixes what the bridge holds; without it the bridge holds
nothing, and the C interface refuses everything without a word to the machine.
-/

namespace ManagedBridge.Jvm

open Process

variable {μ ε α : Type}

/-- A call of an entry point, with what it found and what it left. -/
structure Occurrence (μ ε : Type) where
  {result : Type}
  thread : ThreadId
  call : EntryPoint ε result
  before : World (Process μ)
  answer : result
  after : World (Process μ)

namespace Occurrence

def succeeded (o : Occurrence μ ε) : Bool := o.call.succeeded o.answer

end Occurrence

/-- The calls of entry points in a process, newest first, from a bridge that was not started on.
Between the calls anything may happen, except to the bridge. -/
inductive History (vm : InvocationInterface μ ε) :
    List (Occurrence μ ε) → World (Process μ) → Prop
  | opening {w : World (Process μ)} : w.backend.bridge = {} → History vm [] w
  | meanwhile {past : List (Occurrence μ ε)} {w v : World (Process μ)} : History vm past w →
    v.backend.bridge = w.backend.bridge → History vm past v
  | call {past : List (Occurrence μ ε)} {w v : World (Process μ)} {α : Type} {t : ThreadId}
    {call : EntryPoint ε α} {answer : α} : History vm past w →
    (call.perform vm t).run w = (.ok answer, v) →
    History vm (⟨t, call, w, answer, v⟩ :: past) v

/-- What the calls so far have to do with the bridge: they started it at most once, and it is as the
one that started it left it. -/
structure Consistent (vm : InvocationInterface μ ε) (past : List (Occurrence μ ε))
    (b : Bridge Runtime Capabilities) : Prop where
  once : past.countP Occurrence.succeeded ≤ 1
  unstarted : past.countP Occurrence.succeeded = 0 → b = {}
  started : ∀ o ∈ past, o.succeeded = true → o.after.backend.bridge = b ∧
    ∃ rt, o.call.request o.before.backend.settings = some rt ∧
      Started vm o.thread rt o.after.backend
  kept : ∀ o ∈ past, o.succeeded = false → o.after.backend.bridge = o.before.backend.bridge

namespace Consistent

variable {vm : InvocationInterface μ ε} {past : List (Occurrence μ ε)}
  {b : Bridge Runtime Capabilities}

theorem isSet (h : Consistent vm past b) {o : Occurrence μ ε} (ho : o ∈ past)
    (hsucceeded : o.succeeded = true) : b.registry.isSet = true := by
  obtain ⟨hbridge, rt, -, env, caps, s, left, -, -, hpublished⟩ := h.started o ho hsucceeded
  rw [← hbridge, hpublished]
  rfl

/-- The bridge holds nothing, or a start that succeeded has filled it. -/
theorem whole (h : Consistent vm past b) : b = {} ∨ ∃ o ∈ past, o.succeeded = true := by
  by_cases hcount : past.countP Occurrence.succeeded = 0
  · exact .inl (h.unstarted hcount)
  · exact .inr (List.countP_pos_iff.mp (Nat.pos_of_ne_zero hcount))

theorem empty_or_isSet (h : Consistent vm past b) : b = {} ∨ b.registry.isSet = true :=
  h.whole.imp_right fun ⟨_, ho, hsucceeded⟩ => h.isSet ho hsucceeded

theorem countP_eq_zero (h : Consistent vm past {}) : past.countP Occurrence.succeeded = 0 := by
  rw [List.countP_eq_zero]
  intro o ho hsucceeded
  have hset := h.isSet ho hsucceeded
  cases hset

theorem opening : Consistent vm [] {} := ⟨by simp, fun _ => rfl, by simp, by simp⟩

/-- One more call: it starts a bridge that was never started, or it leaves the bridge. -/
theorem call {w v : World (Process μ)} {t : ThreadId} {call : EntryPoint ε α} {answer : α}
    (h : Consistent vm past w.backend.bridge)
    (hrun : (call.perform vm t).run w = (.ok answer, v)) :
    Consistent vm (⟨t, call, w, answer, v⟩ :: past) v.backend.bridge := by
  obtain ⟨_, _, hreturned, -, hkept, hstarted⟩ :=
    perform_returns vm t call w h.empty_or_isSet
  rw [hrun] at hreturned
  cases hreturned
  cases hsucceeded : call.succeeded answer with
  | false =>
    have hlast : (⟨t, call, w, answer, v⟩ : Occurrence μ ε).succeeded = false := hsucceeded
    have hcount := List.countP_cons_of_neg (l := past) (ne_true_of_eq_false hlast)
    rw [hkept hsucceeded]
    refine ⟨hcount ▸ h.once, hcount ▸ h.unstarted, ?_, ?_⟩
    · rintro o (_ | ⟨_, ho⟩) hsuccess
      · rw [hlast] at hsuccess
        cases hsuccess
      · exact h.started o ho hsuccess
    · rintro o (_ | ⟨_, ho⟩) hfailure
      · exact hkept hsucceeded
      · exact h.kept o ho hfailure
  | true =>
    obtain ⟨hempty, rt, hrequest, hpublished⟩ := hstarted hsucceeded
    rw [hempty] at h
    have hnone := h.countP_eq_zero
    have hlast : (⟨t, call, w, answer, v⟩ : Occurrence μ ε).succeeded = true := hsucceeded
    have hcount := List.countP_cons_of_pos (l := past) hlast
    rw [hnone] at hcount
    refine ⟨Nat.le_of_eq hcount, fun hzero => ?_, ?_, ?_⟩
    · rw [hcount] at hzero
      cases hzero
    · rintro o (_ | ⟨_, ho⟩) hsuccess
      · exact ⟨rfl, rt, hrequest, hpublished⟩
      · exact absurd hsuccess (List.countP_eq_zero.mp hnone o ho)
    · rintro o (_ | ⟨_, ho⟩) hfailure
      · rw [hlast] at hfailure
        cases hfailure
      · exact h.kept o ho hfailure

end Consistent

theorem History.consistent {vm : InvocationInterface μ ε} {past : List (Occurrence μ ε)}
    {w : World (Process μ)} (h : History vm past w) : Consistent vm past w.backend.bridge := by
  induction h with
  | opening hempty => rw [hempty]; exact .opening
  | meanwhile _ hbridge ih => rw [hbridge]; exact ih
  | call _ hrun ih => exact ih.call hrun

/-- What holds of a bridge after any calls whatever, and of the next call. The functions of the
machine are noted down as they are called. -/
structure Lifecycle (vm : InvocationInterface μ ε)
    (past : List (Occurrence (μ × List NativeCall) ε))
    (w : World (Process (μ × List NativeCall))) : Prop where
  /-- At most one call has reported success. -/
  once : past.countP Occurrence.succeeded ≤ 1
  unstarted : (∀ o ∈ past, o.succeeded = false) → w.backend.bridge = {}
  /-- The start that succeeded has fixed the machine, the settings and the capabilities. -/
  fixed : ∀ o ∈ past, o.succeeded = true → ∃ rt,
    o.call.request o.before.backend.settings = some rt ∧
      Started vm.traced o.thread rt o.after.backend ∧
      w.backend.bridge = o.after.backend.bridge
  /-- A call that does not report success leaves the bridge, which holds nothing or everything. -/
  kept : ∀ o ∈ past, o.succeeded = false → o.after.backend.bridge = o.before.backend.bridge
  whole : w.backend.bridge = {} ∨
    ∃ rt caps, w.backend.bridge = ⟨⟨some rt⟩, ⟨some caps⟩⟩
  returns : ∀ (t : ThreadId) {α : Type} (call : EntryPoint ε α), ∃ answer v,
    (call.perform vm.traced t).run w = (.ok answer, v) ∧
      (call.isStart = true → call.succeeded answer = !call.failed answer)
  /-- After a success a start fails, with no function of the machine called but `getEnv`. -/
  rejects : ∀ o ∈ past, o.succeeded = true → ∀ (t : ThreadId) {α : Type} (call : EntryPoint ε α),
    call.isStart = true → ∃ answer v,
      (call.perform vm.traced t).run w = (.ok answer, v) ∧
        call.failed answer = true ∧ ∃ calls,
          v.backend.link.machine.2 = w.backend.link.machine.2 ++ calls ∧
            ∀ call ∈ calls, call = .getEnv t
  globalVm : ∀ o ∈ past, o.succeeded = true → ∀ t, ∃ rt v,
    o.call.request o.before.backend.settings = some rt ∧
      (EntryPoint.globalVm.perform vm.traced t).run w =
        (.ok (some rt.vm), v)
  /-- Before a success the C interface refuses, and the process stays as it is with all that was
  noted down. -/
  refuses : (∀ o ∈ past, o.succeeded = false) → ∀ (t : ThreadId) {α : Type}
    (call : EntryPoint ε α) (answer : α), call.refusal? = some answer → ∃ v,
      (call.perform vm.traced t).run w = (.ok answer, v) ∧
        v.backend = w.backend

theorem lifecycle (vm : InvocationInterface μ ε)
    {past : List (Occurrence (μ × List NativeCall) ε)}
    {w : World (Process (μ × List NativeCall))}
    (h : History vm.traced past w) : Lifecycle vm past w := by
  have hpast := h.consistent
  have hunstarted (hnone : ∀ o ∈ past, o.succeeded = false) : w.backend.bridge = {} :=
    hpast.unstarted (List.countP_eq_zero.mpr fun o ho => by simp [hnone o ho])
  constructor
  case once => exact hpast.once
  case unstarted => exact hunstarted
  case fixed =>
    intro o ho hsucceeded
    obtain ⟨hbridge, rt, hrequest, hstarted⟩ := hpast.started o ho hsucceeded
    exact ⟨rt, hrequest, hstarted, hbridge.symm⟩
  case kept => exact hpast.kept
  case whole =>
    refine hpast.whole.imp_right ?_
    rintro ⟨o, ho, hsucceeded⟩
    obtain ⟨hbridge, rt, -, env, caps, s, left, -, -, hpublished⟩ := hpast.started o ho hsucceeded
    exact ⟨rt, caps, hbridge.symm.trans hpublished⟩
  case returns =>
    intro t α call
    obtain ⟨answer, v, hrun, hreport, -⟩ := perform_returns _ t call w hpast.empty_or_isSet
    exact ⟨answer, v, hrun, hreport⟩
  case rejects =>
    intro o ho hsucceeded t α call hstart
    obtain ⟨answer, v, hrun, hfailed, -, hleft⟩ :=
      perform_restart vm.traced t hstart (hpast.isSet ho hsucceeded)
    refine ⟨answer, v, hrun, hfailed, ?_⟩
    rcases hleft with hsame | hasked
    · exact ⟨[], by rw [hsame, List.append_nil], nofun⟩
    · exact ⟨[.getEnv t], by rw [hasked]; rfl, by simp⟩
  case globalVm =>
    intro o ho hsucceeded t
    obtain ⟨hbridge, rt, hrequest, env, caps, s, left, -, -, hpublished⟩ :=
      hpast.started o ho hsucceeded
    obtain ⟨answer, v, hrun, hanswer, -⟩ := (globalVm_returns w.backend).monadLift w rfl
    rw [← hbridge, hpublished] at hanswer
    subst hanswer
    exact ⟨rt, v, hrequest, hrun⟩
  case refuses =>
    intro hnone t α call answer hanswer
    obtain ⟨_, v, hrun, rfl, hleft⟩ :=
      perform_refused vm.traced t hanswer (hunstarted hnone) w rfl
    exact ⟨v, hrun, hleft⟩

/-- A process that has done nothing yet, on a machine with one thread. -/
def firstWorld : World (Process (Machine × List NativeCall)) :=
  ⟨⟨{ link := ⟨(Machine.attach {} (.worker 0), []), []⟩ }, []⟩, .zero⟩

/-- A start without an environment, and then one that succeeds. -/
theorem lifecycle_started_second :
    ∃ past, ∃ w : World (Process (Machine × List NativeCall)),
      past.map Occurrence.succeeded = [true, false] ∧
        Lifecycle (Machine.invocation []) past w := by
  obtain ⟨v, hrefused, hempty⟩ : ∃ v, ((EntryPoint.startFromC (some 1) none).perform
      (Machine.invocation []).traced (.worker 0)).run firstWorld =
        (.ok failureCode, v) ∧ v.backend.bridge = {} := by
    refine ⟨_, rfl, ?_⟩
    rfl
  obtain ⟨w, hstarted⟩ : ∃ w, ((EntryPoint.start 1 (ThreadId.worker 0) {}).perform
      (Machine.invocation []).traced (.worker 0)).run firstWorld =
        (.ok (.ok ()), w) := ⟨_, rfl⟩
  have hfirst := (History.opening rfl).call hrefused
  have hsecond := (hfirst.meanwhile hempty.symm).call hstarted
  exact ⟨_, w, rfl, lifecycle (Machine.invocation []) hsecond⟩

end ManagedBridge.Jvm
