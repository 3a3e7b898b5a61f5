import ManagedBridge.Proofs.Installation

/-!
# Nested scopes

A body that runs in a scope uses contexts, opens further scopes inside and may end early, with an
error or with a panic. Whatever it does, every thread stands at the end as it did at the start, and
a scope that found its thread detached has made and undone one attachment. The proof goes by
induction on the body; what carries it is that a scope inside changes nothing that the scope outside
relies on.
-/

namespace ManagedBridge.Installation

open InProcess

variable {ρ ι α : Type}

/-- What a thread does with the contexts of the runtimes in `held` and with scopes properly nested.
It may panic at any point, and may catch a panic. -/
inductive Program [DecidableEq ρ] [DecidableEq ι] (t : ThreadId) :
    List ρ → {α : Type} → Act (Installation ρ ι) α → Prop
  | pure {held α} (a : α) : Program t held (pure a)
  | bind {held α β} {first : Act (Installation ρ ι) α} {next : α → Act (Installation ρ ι) β}
    (start : Program t held first) (rest : ∀ a, Program t held (next a)) :
    Program t held (first >>= next)
  | raise {held α} (message : String) :
    Program t held (throw (.raised message) : Act (Installation ρ ι) α)
  | caught {held α} {body : Act (Installation ρ ι) α} (inside : Program t held body) :
    Program t held body.caught
  | use {held α r} (at_hand : r ∈ held) (what : ContextUse ι α) : Program t held (use (r, t) what)
  | within {held α r} {body : ρ × ThreadId → Act (Installation ρ ι) α}
    (inside : Program t (r :: held) (body (r, t))) :
    Program t held (Attachment.within (managedRuntime t r) body)
  | withAttachment {held α b} {body : ρ × ThreadId → Act (Installation ρ ι) α}
    (inside : ∀ r, Program t (r :: held) (body (r, t))) :
    Program t held (Bridge.withAttachment (bridgeAt b) (managedRuntime t) body)

/-- The thread is attached to the runtime, whose table of threads is not locked for good. -/
structure Held (t : ThreadId) (s : Installation ρ ι) (r : ρ) : Prop where
  unlocked : (s.ledger r).poisoned = false
  attached : (s.ledger r).standing t ≠ .detached

/-- From `s` to `v` the runtime was attached to as often as detached from, namely `n` times. -/
structure Paired (s v : Installation ρ ι) (r : ρ) (n : Nat) : Prop where
  attachCalls : (v.ledger r).attachCalls = (s.ledger r).attachCalls + n
  detachCalls : (v.ledger r).detachCalls = (s.ledger r).detachCalls + n

/-- Every thread stands in `v` as it does in `s`, and attachments come in pairs with detachments. A
runtime to which `t` is attached in `s` was left alone. -/
structure Restored (t : ThreadId) (s v : Installation ρ ι) : Prop where
  poisoned : ∀ r, (v.ledger r).poisoned = (s.ledger r).poisoned
  standing : ∀ r, (v.ledger r).standing = (s.ledger r).standing
  paired : ∀ r, ∃ n, Paired s v r n ∧ ((s.ledger r).standing t ≠ .detached → n = 0)

namespace Restored

variable {t : ThreadId} {s u v : Installation ρ ι} {r : ρ}

theorem of_ledger_eq (h : v.ledger = s.ledger) : Restored t s v where
  poisoned r := by rw [h]
  standing r := by rw [h]
  paired r := ⟨0, ⟨by rw [h]; rfl, by rw [h]; rfl⟩, fun _ => rfl⟩

theorem trans (h₁ : Restored t s u) (h₂ : Restored t u v) : Restored t s v where
  poisoned r := (h₂.poisoned r).trans (h₁.poisoned r)
  standing r := (h₂.standing r).trans (h₁.standing r)
  paired r := by
    obtain ⟨n, hn, hn'⟩ := h₁.paired r
    obtain ⟨m, hm, hm'⟩ := h₂.paired r
    refine ⟨n + m, ⟨?_, ?_⟩, fun hattached => ?_⟩
    · have := hn.attachCalls
      have := hm.attachCalls
      omega
    · have := hn.detachCalls
      have := hm.detachCalls
      omega
    · have hn := hn' hattached
      rw [← h₁.standing r] at hattached
      have hm := hm' hattached
      omega

theorem held (h : Restored t s v) (hheld : Held t s r) : Held t v r where
  unlocked := (h.poisoned r).trans hheld.unlocked
  attached := by rw [h.standing r]; exact hheld.attached

/-- To a runtime on which the thread was attached no attachment was added. -/
theorem paired_zero (h : Restored t s v) (hheld : Held t s r) : Paired s v r 0 := by
  obtain ⟨n, hn, hzero⟩ := h.paired r
  rw [hzero hheld.attached] at hn
  exact hn

end Restored

variable [DecidableEq ρ]

section Scope

variable {t : ThreadId} {s v left final : Installation ρ ι} {w : World (Installation ρ ι)} {r : ρ}

/-- An attachment and the detachment that undoes it leave every thread as it was, with whatever
restores the threads in between. -/
theorem restored_of_attach_detach (hdetached : (s.ledger r).standing t = .detached)
    (hattach : v.ledger = Function.update s.ledger r ((s.ledger r).attach t))
    (h : Restored t v left)
    (hdetach : final.ledger = Function.update left.ledger r ((left.ledger r).detach t)) :
    Restored t s final ∧ Paired s final r 1 := by
  have hv : v.ledger r = (s.ledger r).attach t := by rw [hattach, Function.update_self]
  have hfinal : final.ledger r = (left.ledger r).detach t := by
    rw [hdetach, Function.update_self]
  have hheld : (v.ledger r).standing t ≠ .detached := by
    rw [hv]
    simp [Ledger.attach, Ledger.stand]
  have hpaired : Paired s final r 1 := by
    obtain ⟨n, hn, hzero⟩ := h.paired r
    have hn₁ := hn.attachCalls
    have hn₂ := hn.detachCalls
    rw [hzero hheld, hv] at hn₁ hn₂
    refine ⟨?_, ?_⟩
    · rw [hfinal]
      exact hn₁
    · rw [hfinal]
      exact congrArg (· + 1) hn₂
  refine ⟨⟨fun q => ?_, fun q => ?_, fun q => ?_⟩, hpaired⟩
  · by_cases hq : q = r
    · subst hq
      rw [hfinal]
      exact (h.poisoned q).trans (by rw [hv]; rfl)
    · rw [hdetach, Function.update_of_ne hq, h.poisoned q, hattach, Function.update_of_ne hq]
  · by_cases hq : q = r
    · subst hq
      have hstanding := h.standing q
      rw [hv] at hstanding
      rw [hfinal]
      show Function.update (left.ledger q).standing t .detached = _
      rw [hstanding, ← hdetached]
      simp [Ledger.attach, Ledger.stand]
    · rw [hdetach, Function.update_of_ne hq, h.standing q, hattach, Function.update_of_ne hq]
  · by_cases hq : q = r
    · subst hq
      exact ⟨1, hpaired, fun hattached => absurd hdetached hattached⟩
    · obtain ⟨n, hn, hzero⟩ := h.paired q
      have hsame : v.ledger q = s.ledger q := by rw [hattach, Function.update_of_ne hq]
      rw [hsame] at hzero
      refine ⟨n, ⟨?_, ?_⟩, hzero⟩
      · rw [hdetach, Function.update_of_ne hq, hn.attachCalls, hsame]
      · rw [hdetach, Function.update_of_ne hq, hn.detachCalls, hsame]

/-- A scope that is not refused holds its runtime and whatever was held before. If everything is
restored inside, it can be left, and then everything is as it was before; a pair of calls was made
if the thread had to be attached. -/
theorem run_enter_held (hopen : (w.backend.ledger r).poisoned = false)
    (haccepts : (w.backend.ledger r).standing t = .detached →
      (w.backend.runtimes r).runtime.rejectAttach = false) :
    ∃ attachment entered, (Attachment.enter (managedRuntime t r)).run w =
        (.ok (.ok ((r, t), attachment)), entered) ∧
      (∀ q, q = r ∨ Held t w.backend q → Held t entered.backend q) ∧
      ∀ left : World (Installation ρ ι), Restored t entered.backend left.backend →
        ∃ final, (Attachment.exit (managedRuntime t r) attachment).run left = (.ok (), final) ∧
          Restored t w.backend final.backend ∧ Paired w.backend final.backend r
            (if (w.backend.ledger r).standing t = .detached then 1 else 0) := by
  by_cases hstanding : (w.backend.ledger r).standing t = .detached
  · refine ⟨⟨true⟩, _, run_enter_attach hopen hstanding (haccepts hstanding), ?_, ?_⟩
    · have hattach := ledger_attached hstanding
      intro q hq
      by_cases hqr : q = r
      · subst hqr
        refine ⟨?_, ?_⟩
        · dsimp only
          rw [hattach, Function.update_self]
          exact hopen
        · dsimp only
          rw [hattach, Function.update_self]
          simp [Ledger.attach, Ledger.stand]
      · have hheld := hq.resolve_left hqr
        refine ⟨?_, ?_⟩
        · dsimp only
          rw [hattach, Function.update_of_ne hqr]
          exact hheld.unlocked
        · dsimp only
          rw [hattach, Function.update_of_ne hqr]
          exact hheld.attached
    · intro left hleft
      have hattach := ledger_attached hstanding
      dsimp only at hleft
      have hopen' : (left.backend.ledger r).poisoned = false := by
        rw [hleft.poisoned, hattach, Function.update_self]
        exact hopen
      have hscoped : (left.backend.ledger r).standing t = .scoped := by
        rw [hleft.standing, hattach, Function.update_self]
        simp [Ledger.attach, Ledger.stand]
      rw [if_pos hstanding]
      exact ⟨_, run_exit_created hopen' hscoped,
        restored_of_attach_detach hstanding hattach hleft (ledger_detached _ r t)⟩
  · refine ⟨⟨false⟩, _, run_enter_reuse hopen hstanding, ?_, fun left hleft => ?_⟩
    · rintro q (rfl | hheld)
      · exact ⟨hopen, hstanding⟩
      · exact hheld
    · rw [if_neg hstanding]
      exact ⟨left, Attachment.run_exit_reused, hleft, hleft.paired_zero ⟨hopen, hstanding⟩⟩

/-- From `w` the act ends without an abort and restores everything. -/
def Restores (t : ThreadId) (act : Act (Installation ρ ι) α) (w : World (Installation ρ ι)) :
    Prop :=
  ∃ ended v, act.run w = (ended, v) ∧ ended ≠ .error .abort ∧ Restored t w.backend v.backend

/-- From `w` a scope of the runtime is entered, then `body` runs once, on an attached thread, and
ends in `ended`, and then the scope is left. -/
def RunsInside (t : ThreadId) (r : ρ) (body : Act (Installation ρ ι) α)
    (w : World (Installation ρ ι)) (ended : Except Panic α) (final : World (Installation ρ ι)) :
    Prop :=
  ∃ attachment entered left,
    (Attachment.enter (managedRuntime t r)).run w = (.ok (.ok ((r, t), attachment)), entered) ∧
    (entered.backend.ledger r).standing t ≠ .detached ∧
    body.run entered = (ended, left) ∧
    (Attachment.exit (managedRuntime t r) attachment).run left = (.ok (), final)

variable {body : ρ × ThreadId → Act (Installation ρ ι) α}

/-- A body that restores everything runs in a scope that does so as well. -/
theorem run_within_accepted (hopen : (w.backend.ledger r).poisoned = false)
    (haccepts : (w.backend.ledger r).standing t = .detached →
      (w.backend.runtimes r).runtime.rejectAttach = false)
    (hbody : ∀ entered : World (Installation ρ ι),
      (∀ q, q = r ∨ Held t w.backend q → Held t entered.backend q) →
        Restores t (body (r, t)) entered) :
    ∃ ended final, (Attachment.within (managedRuntime t r) body).run w = (ended.map .ok, final) ∧
      ended ≠ .error .abort ∧ RunsInside t r (body (r, t)) w ended final ∧
      Restored t w.backend final.backend ∧ Paired w.backend final.backend r
        (if (w.backend.ledger r).standing t = .detached then 1 else 0) := by
  obtain ⟨attachment, entered, henter, hheld, hleave⟩ := run_enter_held hopen haccepts
  obtain ⟨ended, left, hrun, hended, hleft⟩ := hbody entered hheld
  obtain ⟨final, hexit, hfinal, hpaired⟩ := hleave left hleft
  refine ⟨ended, final, Attachment.run_within_left henter hrun hended hexit, hended, ?_, hfinal,
    hpaired⟩
  exact ⟨attachment, entered, left, henter, (hheld r (.inl rfl)).attached, hrun, hexit⟩

theorem map_ok_ne_abort {β : Type} {ended : Except Panic α} {f : α → β}
    (h : ended ≠ .error .abort) : ended.map f ≠ .error .abort := by
  rcases ended with (_ | _) | a
  · nofun
  · exact absurd rfl h
  · nofun

/-- Whether a scope can be entered or not, everything is restored after it. -/
theorem within_restores
    (hbody : ∀ entered : World (Installation ρ ι),
      (∀ q, q = r ∨ Held t w.backend q → Held t entered.backend q) →
        Restores t (body (r, t)) entered) :
    Restores t (Attachment.within (managedRuntime t r) body) w := by
  cases hpoisoned : (w.backend.ledger r).poisoned with
  | true =>
    have hrun : (Attachment.within (managedRuntime t r) body).run w = _ :=
      Attachment.run_within_panicked (run_enter_poisoned hpoisoned)
    exact ⟨_, _, hrun, nofun, .of_ledger_eq rfl⟩
  | false =>
    by_cases haccepts : (w.backend.ledger r).standing t = .detached →
        (w.backend.runtimes r).runtime.rejectAttach = false
    · obtain ⟨ended, final, hrun, hended, -, hfinal, -⟩ :=
        run_within_accepted hpoisoned haccepts hbody
      exact ⟨_, _, hrun, map_ok_ne_abort hended, hfinal⟩
    · rw [Classical.not_imp, Bool.not_eq_false] at haccepts
      exact ⟨_, _, Attachment.run_within_refused
        (run_enter_refused hpoisoned haccepts.1 haccepts.2), nofun, .of_ledger_eq rfl⟩

end Scope

variable [DecidableEq ι] {t : ThreadId}

/-- A program restores everything, however it ends. -/
theorem Program.restores {held : List ρ} {act : Act (Installation ρ ι) α} (h : Program t held act)
    (w : World (Installation ρ ι)) (hheld : ∀ r ∈ held, Held t w.backend r) :
    Restores t act w := by
  induction h generalizing w with
  | pure a => exact ⟨.ok a, w, rfl, nofun, .of_ledger_eq rfl⟩
  | raise message => exact ⟨.error (.raised message), w, rfl, nofun, .of_ledger_eq rfl⟩
  | bind start rest ihstart ihrest =>
    obtain ⟨ended, u, hrun, hended, hu⟩ := ihstart w hheld
    rcases ended with panic | a
    · refine ⟨.error panic, u, Routine.run_bind_error hrun _, ?_, hu⟩
      rintro ⟨⟩
      exact hended rfl
    · obtain ⟨ended, v, hrun', hended', hv⟩ :=
        ihrest a u fun r hr => hu.held (hheld r hr)
      exact ⟨ended, v, (Routine.run_bind_ok hrun _).trans hrun', hended', hu.trans hv⟩
  | caught inside ih =>
    obtain ⟨ended, v, hrun, hended, hv⟩ := ih w hheld
    rcases ended with (message | _) | a
    · exact ⟨.ok (.error message), v, by rw [Routine.run_caught, hrun], nofun, hv⟩
    · exact absurd rfl hended
    · exact ⟨.ok (.ok a), v, by rw [Routine.run_caught, hrun], nofun, hv⟩
  | use at_hand what =>
    have hr := hheld _ at_hand
    obtain ⟨a, v, hrun, hledger, -⟩ := run_use hr.unlocked hr.attached what
    exact ⟨.ok a, v, hrun, nofun, .of_ledger_eq hledger⟩
  | within inside ih =>
    refine within_restores fun entered hentered => ih entered fun q hq => hentered q ?_
    exact (List.mem_cons.mp hq).imp_right (hheld q)
  | @withAttachment held α b body inside ih =>
    cases hruntime : (bridgeAt b |>.get w.backend).runtime with
    | error e =>
      exact ⟨_, w, Bridge.run_withAttachment_unset hruntime, nofun, .of_ledger_eq rfl⟩
    | ok r =>
      rw [Restores, Bridge.run_withAttachment hruntime]
      refine within_restores fun entered hentered => ih r entered fun q hq => hentered q ?_
      exact (List.mem_cons.mp hq).imp_right (hheld q)

/-- A bridge runs any program in a scope, from any world. Without a runtime it says so and changes
nothing. Where the runtime refuses a detached thread, that is the answer, and only the log changes;
where the table of threads is locked for good, the panic says so and nothing changes. Otherwise the
program runs once, on an attached thread, and decides how the scope ends. Then every thread stands
as before, and the runtime was called once more to attach and once more to detach if the thread was
detached before, and not at all if it was attached. -/
theorem withAttachment_restores {b : ι} {body : ρ × ThreadId → Act (Installation ρ ι) α}
    (h : ∀ r, Program t [r] (body (r, t))) (w : World (Installation ρ ι)) :
    ((w.backend.bridges b).registry.slot = none →
      (Bridge.withAttachment (bridgeAt b) (managedRuntime t) body).run w =
        (.ok (.error (.notInitialized "runtime")), w)) ∧
    ∀ r, (w.backend.bridges b).registry.slot = some r →
      ((w.backend.runtimes r).runtime.poisoned = true →
        (Bridge.withAttachment (bridgeAt b) (managedRuntime t) body).run w =
          (.error (.raised poisonedLock), w)) ∧
      ((w.backend.runtimes r).runtime.poisoned = false →
        (w.backend.runtimes r).runtime.standing t = .detached →
        (w.backend.runtimes r).runtime.rejectAttach = true →
        (Bridge.withAttachment (bridgeAt b) (managedRuntime t) body).run w =
          (.ok (.error (.attachFailed (.other "attach rejected"))),
            { w with log := Attachment.refusedLine (.other "attach rejected") :: w.log })) ∧
      ((w.backend.runtimes r).runtime.poisoned = false →
        ((w.backend.runtimes r).runtime.standing t = .detached →
          (w.backend.runtimes r).runtime.rejectAttach = false) →
        ∃ ended final,
          (Bridge.withAttachment (bridgeAt b) (managedRuntime t) body).run w =
            (ended.map .ok, final) ∧
          ended ≠ .error .abort ∧ RunsInside t r (body (r, t)) w ended final ∧
          (∀ q u, (final.backend.runtimes q).runtime.standing u =
            (w.backend.runtimes q).runtime.standing u) ∧
          let calls := if (w.backend.runtimes r).runtime.standing t = .detached then 1 else 0
          (final.backend.runtimes r).runtime.attachCalls =
            (w.backend.runtimes r).runtime.attachCalls + calls ∧
          (final.backend.runtimes r).runtime.detachCalls =
            (w.backend.runtimes r).runtime.detachCalls + calls) := by
  refine ⟨fun hunset => ?_, fun r hset => ?_⟩
  · refine Bridge.run_withAttachment_unset ?_
    show RuntimeRegistry.get (w.backend.bridges b).registry = _
    rw [RuntimeRegistry.get, hunset]
  · have hruntime : ((bridgeAt b).get w.backend).runtime = .ok r := by
      show RuntimeRegistry.get (w.backend.bridges b).registry = _
      rw [RuntimeRegistry.get, hset]
    rw [Bridge.run_withAttachment hruntime]
    refine ⟨fun hpoisoned => ?_, fun hopen hdetached hrejects => ?_, fun hopen haccepts => ?_⟩
    · exact Attachment.run_within_panicked (run_enter_poisoned hpoisoned)
    · exact Attachment.run_within_refused (run_enter_refused hopen hdetached hrejects)
    · have hbody (entered : World (Installation ρ ι))
          (hentered : ∀ q, q = r ∨ Held t w.backend q → Held t entered.backend q) :
          Restores t (body (r, t)) entered := by
        refine (h r).restores entered fun q hq => hentered q (.inl ?_)
        exact List.mem_singleton.mp hq
      obtain ⟨ended, final, hrun, hended, hinside, hfinal, hpaired⟩ :=
        run_within_accepted hopen haccepts hbody
      refine ⟨ended, final, hrun, hended, hinside, fun q u => ?_, hpaired.attachCalls,
        hpaired.detachCalls⟩
      exact congrFun (hfinal.standing q) u

/-- A detached thread panics in a scope inside a scope: it is detached again, having been attached
once. -/
theorem withAttachment_restores_panic :
    let inner (ref : Unit × ThreadId) : Act (Installation Unit Unit) Unit := do
      let _ ← use ref .drain
      throw (.raised "given up")
    let outer (ref : Unit × ThreadId) : Act (Installation Unit Unit) Unit := do
      use ref (.throwException "refused")
      let _ ← Bridge.withAttachment (bridgeAt ()) (managedRuntime (.worker 0)) inner
    ∃ w final : World (Installation Unit Unit),
      (Bridge.withAttachment (bridgeAt ()) (managedRuntime (.worker 0)) outer).run w =
        (.error (.raised "given up"), final) ∧
      (final.backend.runtimes ()).runtime.standing (.worker 0) = .detached ∧
      (final.backend.runtimes ()).runtime.attachCalls = 1 ∧
      (final.backend.runtimes ()).runtime.detachCalls = 1 := by
  intro inner outer
  have hinner (r q : Unit) : Program (.worker 0) [q, r] (inner (q, .worker 0)) :=
    .bind (.use List.mem_cons_self .drain) fun _ => .raise "given up"
  have houter (r : Unit) : Program (.worker 0) [r] (outer (r, .worker 0)) := by
    refine .bind (.use (List.mem_singleton_self r) _) fun _ => ?_
    exact .bind (.withAttachment (hinner r)) fun _ => .pure ()
  let w : World (Installation Unit Unit) :=
    ⟨⟨⟨fun _ => {}, fun _ => ⟨⟨some ()⟩, {}⟩⟩, []⟩, .zero⟩
  obtain ⟨ended, final, hrun, -, -, hstanding, hattach, hdetach⟩ :=
    ((withAttachment_restores houter w).2 () rfl).2.2 rfl fun _ => rfl
  have hended : (match ((Bridge.withAttachment (bridgeAt ()) (managedRuntime (.worker 0)) outer).run
      w).1 with
      | .error panic => some panic
      | .ok _ => none) = some (.raised "given up") := by
    decide +kernel
  rw [hrun] at hended
  rcases ended with panic | ⟨⟩
  · cases hended
    exact ⟨w, final, hrun, (hstanding () (.worker 0)).trans rfl, hattach, hdetach⟩
  · cases hended

end ManagedBridge.Installation
