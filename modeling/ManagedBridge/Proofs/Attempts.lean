import ManagedBridge.Proofs.Recording
import ManagedBridge.Proofs.Severity

/-!
# Attempts at one cache

A cache is filled at most once, however often that is tried and whatever the contexts are through
which it is tried. As long as the cache is empty, every attempt asks its context once and fails as
the context does; the attempt that fills the cache is the last that asks; those after it are turned
away.

Contexts work on all of the state, so a context can come to the very cache that it is asked for.
-/

namespace ManagedBridge.CapabilityCache

variable {σ τ κ ς β : Type}

/-- What filling an empty cache comes to, once the context has been asked: what the answer was, and
what that left. -/
def conclude (place : Place σ (CapabilityCache κ)) :
    Except Panic (Except RuntimeError κ) × Site σ → Except Panic (Except BridgeError Unit) × Site σ
  | (.error panic, s) => (.error panic, s)
  | (.ok (.error e), s) => (.ok (.error (.ofRuntime "resolve_capabilities" 0 e)), s)
  | (.ok (.ok caps), s) =>
    if (place.get s.backend).isInitialized then
      (.ok (.error (.alreadyInitialized "capability cache")), s)
    else (.ok (.ok ()), ⟨place.set ⟨some caps⟩ s.backend, initializedLine :: s.log⟩)

theorem run_fill_empty {place : Place σ (CapabilityCache κ)} {ctx : CallContext σ κ ς β}
    {s : Site σ} (empty : (place.get s.backend).isInitialized = false) :
    (fill place ctx).run s = conclude place (ctx.resolveCapabilities.run s) := by
  rw [fill, Routine.run_bind, Call.run_read]
  simp only [empty, Bool.false_eq_true, if_false, Routine.run_bind]
  rcases ctx.resolveCapabilities.run s with ⟨panic | e | caps, u⟩
  · rfl
  · rfl
  · simp only [Routine.run_bind, Call.run_tryModify, conclude, store]
    cases (place.get u.backend).isInitialized <;> rfl

/-- A failure of the context is reported as it is. -/
inductive Reports : Except Panic (Except RuntimeError κ) →
    Except Panic (Except BridgeError Unit) → Prop
  | refused (e : RuntimeError) :
    Reports (.ok (.error e)) (.ok (.error (.ofRuntime "resolve_capabilities" 0 e)))
  | panicked (panic : Panic) : Reports (.error panic) (.error panic)

/-- A failure changes nothing more. A set is stored unless there is one by then. -/
theorem conclude_cases (place : Place σ (CapabilityCache κ))
    (answer : Except Panic (Except RuntimeError κ) × Site σ) :
    (Reports answer.1 (conclude place answer).1 ∧ (conclude place answer).2 = answer.2) ∨
      ∃ caps, answer.1 = .ok (.ok caps) ∧
        ((place.get answer.2.backend).isInitialized = true ∧ conclude place answer =
            (.ok (.error (.alreadyInitialized "capability cache")), answer.2) ∨
          (place.get answer.2.backend).isInitialized = false ∧ conclude place answer =
            (.ok (.ok ()), ⟨place.set ⟨some caps⟩ answer.2.backend,
              initializedLine :: answer.2.log⟩)) := by
  rcases answer with ⟨panic | e | caps, u⟩
  · exact .inl ⟨.panicked panic, rfl⟩
  · exact .inl ⟨.refused e, rfl⟩
  · right
    refine ⟨caps, rfl, ?_⟩
    cases hcache : (place.get u.backend).isInitialized with
    | true => exact .inl ⟨rfl, by simp [conclude, hcache]⟩
    | false => exact .inr ⟨rfl, by simp [conclude, hcache]⟩

/-- The calls that filling the cache makes through a context. -/
def callsOf (ctx : CallContext (CapabilityCache κ × τ) κ ς β)
    (s : Site (CapabilityCache κ × τ)) : List (ContextCall κ ς β) :=
  ((fill (Place.first.inside .first) ctx.traced).run ⟨(s.backend, []), s.log⟩).2.backend.2

/-- An attempt to fill the cache through a context, with the state that it begins in, the calls that
it makes through the context, what it ends in and the state that it leaves. -/
structure Attempt (τ κ ς β : Type) where
  ctx : CallContext (CapabilityCache κ × τ) κ ς β
  before : Site (CapabilityCache κ × τ)
  calls : List (ContextCall κ ς β)
  result : Except Panic (Except BridgeError Unit)
  after : Site (CapabilityCache κ × τ)

/-- An attempt from a state on. -/
def attempt (ctx : CallContext (CapabilityCache κ × τ) κ ς β)
    (s : Site (CapabilityCache κ × τ)) : Attempt τ κ ς β where
  ctx := ctx
  before := s
  calls := callsOf ctx s
  result := ((fill .first ctx).run s).1
  after := ((fill .first ctx).run s).2

/-- Attempts through these contexts, one after the other. -/
def history : List (CallContext (CapabilityCache κ × τ) κ ς β) →
    Site (CapabilityCache κ × τ) → List (Attempt τ κ ς β)
  | [], _ => []
  | ctx :: ctxs, s => attempt ctx s :: history ctxs (attempt ctx s).after

section Calls

variable {ctx : CallContext (CapabilityCache κ × τ) κ ς β} {s : Site (CapabilityCache κ × τ)}

/-- A cache that is full does not ask for another set. -/
theorem callsOf_full (full : s.backend.1.isInitialized = true) : callsOf ctx s = [] := by
  have hrefused : (fill (Place.first.inside .first) ctx.traced).run ⟨(s.backend, []), s.log⟩ =
      (.ok (.error (.alreadyInitialized "capability cache")), ⟨(s.backend, []), s.log⟩) :=
    Bridge.run_fill_full full
  rw [callsOf, hrefused]

/-- A cache that is empty asks once. -/
theorem callsOf_empty (empty : s.backend.1.isInitialized = false) :
    callsOf ctx s = [.resolveCapabilities (ctx.resolveCapabilities.run s).1] := by
  have hasked : ctx.traced.resolveCapabilities.run ⟨(s.backend, []), s.log⟩ =
      ((ctx.resolveCapabilities.run s).1,
        ⟨((ctx.resolveCapabilities.run s).2.backend,
          [.resolveCapabilities (ctx.resolveCapabilities.run s).1]),
          (ctx.resolveCapabilities.run s).2.log⟩) := by
    simp only [CallContext.traced, CallContext.recorded]
    rw [Call.run_recorded Place.lawful_first]
    rfl
  rw [callsOf, run_fill_empty empty, hasked]
  rcases ctx.resolveCapabilities.run s with ⟨panic | e | caps, u⟩
  · rfl
  · rfl
  · simp only [conclude]
    split <;> rfl

end Calls

namespace Attempt

/-- What the context answers when it is asked in the state that the attempt begins in, and what
that leaves. -/
def resolution (a : Attempt τ κ ς β) :
    Except Panic (Except RuntimeError κ) × Site (CapabilityCache κ × τ) :=
  a.ctx.resolveCapabilities.run a.before

/-- The context was asked once, and the cache is empty as before. -/
structure Failed (a : Attempt τ κ ς β) : Prop where
  asked : a.calls = [.resolveCapabilities a.resolution.1]
  reports : Reports a.resolution.1 a.result
  empty : a.after.backend.1.get = .error (.notInitialized "capability cache")

/-- The context was asked once, and gave the set that the cache holds from then on. -/
structure Succeeded (caps : κ) (a : Attempt τ κ ς β) : Prop where
  asked : a.calls = [.resolveCapabilities (.ok (.ok caps))]
  resolved : a.resolution.1 = .ok (.ok caps)
  result : a.result = .ok (.ok ())
  holds : a.after.backend.1.get = .ok caps

/-- The context was asked once, and had filled the cache itself by the time it answered. What was
filled in stays, and a set that the context answers with is not stored. -/
structure Overtaken (caps : κ) (a : Attempt τ κ ς β) : Prop where
  asked : a.calls = [.resolveCapabilities a.resolution.1]
  filled : a.resolution.2.backend.1.get = .ok caps
  fails : Reports a.resolution.1 a.result ∨
    (∃ other, a.resolution.1 = .ok (.ok other)) ∧
      a.result = .ok (.error (.alreadyInitialized "capability cache"))
  holds : a.after.backend.1.get = .ok caps

/-- The context was not asked for anything, and nothing at all has changed. -/
structure Rejected (caps : κ) (a : Attempt τ κ ς β) : Prop where
  unasked : a.calls = []
  result : a.result = .ok (.error (.alreadyInitialized "capability cache"))
  unchanged : a.after = a.before
  holds : a.after.backend.1.get = .ok caps

end Attempt

section History

variable {ctx : CallContext (CapabilityCache κ × τ) κ ς β} {s : Site (CapabilityCache κ × τ)}

theorem isInitialized_of_get {cache : CapabilityCache κ} {caps : κ} (h : cache.get = .ok caps) :
    cache.isInitialized = true := by
  unfold isInitialized
  unfold get at h
  cases hslot : cache.slot with
  | none => simp [hslot] at h
  | some other => rfl

theorem get_eq_error_iff {cache : CapabilityCache κ} :
    cache.get = .error (.notInitialized "capability cache") ↔ cache.isInitialized = false := by
  unfold get isInitialized
  cases cache.slot <;> simp

theorem exists_get {cache : CapabilityCache κ} (h : cache.isInitialized = true) :
    ∃ caps, cache.get = .ok caps := by
  obtain ⟨caps, hcaps⟩ := Option.isSome_iff_exists.mp h
  exact ⟨caps, by simp [get, hcaps]⟩

variable (ctx) in
theorem rejected_attempt {caps : κ} (full : s.backend.1.get = .ok caps) :
    (attempt ctx s).Rejected caps ∧ (attempt ctx s).after = s := by
  have hset := isInitialized_of_get full
  have hrefused : (fill .first ctx).run s =
      (.ok (.error (.alreadyInitialized "capability cache")), s) := Bridge.run_fill_full hset
  have hafter : (attempt ctx s).after = s := congrArg Prod.snd hrefused
  refine ⟨⟨callsOf_full hset, congrArg Prod.fst hrefused, hafter, ?_⟩, hafter⟩
  rw [hafter, full]

/-- Once the cache is full, all attempts are rejected. -/
theorem rejected_of_full {caps : κ} (full : s.backend.1.get = .ok caps)
    (ctxs : List (CallContext (CapabilityCache κ × τ) κ ς β)) :
    ∀ a ∈ history ctxs s, a.Rejected caps := by
  induction ctxs with
  | nil => simp [history]
  | cons ctx ctxs ih =>
    obtain ⟨hrejected, hafter⟩ := rejected_attempt ctx full
    rw [history, hafter, List.forall_mem_cons]
    exact ⟨hrejected, ih⟩

variable (ctx) in
/-- An attempt at an empty cache fails and leaves it empty, or it is the one after which the cache
is full. -/
theorem first_attempt (empty : s.backend.1.isInitialized = false) :
    (attempt ctx s).Failed ∨
      ∃ caps, (attempt ctx s).Succeeded caps ∨ (attempt ctx s).Overtaken caps := by
  have hasked : (attempt ctx s).calls = [.resolveCapabilities (attempt ctx s).resolution.1] :=
    callsOf_empty empty
  have hrun : ((attempt ctx s).result, (attempt ctx s).after) =
      conclude .first (attempt ctx s).resolution := run_fill_empty empty
  rcases conclude_cases .first (attempt ctx s).resolution with
    ⟨hreports, hleft⟩ | ⟨caps, hcaps, ⟨hfull, hstored⟩ | ⟨-, hstored⟩⟩
  · rw [← hrun] at hreports hleft
    cases hcache : (attempt ctx s).resolution.2.backend.1.isInitialized with
    | false =>
      have hnone := get_eq_error_iff.mpr hcache
      rw [← hleft] at hnone
      exact .inl ⟨hasked, hreports, hnone⟩
    | true =>
      obtain ⟨caps, hget⟩ := exists_get hcache
      have hholds := hget
      rw [← hleft] at hholds
      exact .inr ⟨caps, .inr ⟨hasked, hget, .inl hreports, hholds⟩⟩
  · obtain ⟨other, hget⟩ := exists_get hfull
    rw [← hrun, Prod.mk.injEq] at hstored
    have hholds : (attempt ctx s).after.backend.1.get = .ok other := by rw [hstored.2]; exact hget
    exact .inr ⟨other, .inr ⟨hasked, hget, .inr ⟨⟨caps, hcaps⟩, hstored.1⟩, hholds⟩⟩
  · rw [← hrun, Prod.mk.injEq] at hstored
    rw [hcaps] at hasked
    have hholds : (attempt ctx s).after.backend.1.get = .ok caps := by rw [hstored.2]; rfl
    exact .inr ⟨caps, .inl ⟨hasked, hcaps, hstored.1, hholds⟩⟩

/-- How attempts at a cache go: all of them fail, or one leaves the cache full, and then those
before it have failed and those after it are rejected. -/
inductive FilledOnce : List (Attempt τ κ ς β) → Prop
  | never {attempts} (failed : ∀ a ∈ attempts, a.Failed) : FilledOnce attempts
  | once {front a back caps} (failed : ∀ x ∈ front, x.Failed)
    (fills : a.Succeeded caps ∨ a.Overtaken caps) (rejected : ∀ x ∈ back, x.Rejected caps) :
    FilledOnce (front ++ a :: back)

theorem FilledOnce.cons {a : Attempt τ κ ς β} {attempts : List (Attempt τ κ ς β)}
    (ha : a.Failed) (h : FilledOnce attempts) : FilledOnce (a :: attempts) := by
  cases h with
  | never failed => exact .never (List.forall_mem_cons.mpr ⟨ha, failed⟩)
  | once failed fills rejected =>
    rw [← List.cons_append]
    exact .once (List.forall_mem_cons.mpr ⟨ha, failed⟩) fills rejected

theorem history_of_empty (empty : s.backend.1.isInitialized = false)
    (ctxs : List (CallContext (CapabilityCache κ × τ) κ ς β)) : FilledOnce (history ctxs s) := by
  induction ctxs generalizing s with
  | nil => exact .never (by simp [history])
  | cons ctx ctxs ih =>
    rw [history]
    rcases first_attempt ctx empty with hfailed | ⟨caps, hfills⟩
    · have hempty := get_eq_error_iff.mp hfailed.empty
      exact (ih hempty).cons hfailed
    · have hholds : (attempt ctx s).after.backend.1.get = .ok caps :=
        hfills.elim Attempt.Succeeded.holds Attempt.Overtaken.holds
      rw [← List.nil_append (attempt ctx s :: _)]
      exact .once (by simp) hfills (rejected_of_full hholds ctxs)

/-- Whatever the contexts do and answer, attempts at a new cache ask their contexts once each and
fail as these do, until one of them leaves the cache full. From then on the cache holds the same
set, and all attempts are rejected without being asked. -/
theorem history_filledOnce (ctxs : List (CallContext (CapabilityCache κ × τ) κ ς β)) (outside : τ)
    (log : List LogLine) : FilledOnce (history ctxs ⟨({}, outside), log⟩) :=
  history_of_empty rfl ctxs

end History

end ManagedBridge.CapabilityCache
