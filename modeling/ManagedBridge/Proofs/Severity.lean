import ManagedBridge.Proofs.Installation

/-!
# Fatal errors

Which errors of a bridge are fatal, whatever its runtime answers. Every error of an attachment is.
No error of a conversion is, once the bridge is started. A start that finds something there already
fails fatally; one whose capabilities are refused does not, although the bridge stays unusable.
-/

namespace ManagedBridge

variable {σ ρ κ ς β γ α δ : Type}

/-- What is put together has returned only if its first part has. -/
theorem Routine.of_run_bind_ok {r : Routine σ α} {f : α → Routine σ δ} {s u : σ} {d : δ}
    (h : (r >>= f).run s = (.ok d, u)) :
    ∃ a t, r.run s = (.ok a, t) ∧ (f a).run t = (.ok d, u) := by
  rw [run_bind] at h
  rcases hr : r.run s with ⟨panic | a, t⟩
  · simp [hr] at h
  · rw [hr] at h
    exact ⟨a, t, rfl, h⟩

theorem Call.of_run_monadLift {call : Call σ α} {w v : World σ} {a : α}
    (h : (liftM call : Act σ α).run w = (.ok a, v)) : call.run w.toSite = (.ok a, v.toSite) := by
  rw [run_monadLift] at h
  cases hcall : call.run w.toSite with
  | mk ended t =>
    rw [hcall] at h
    cases h
    rfl

namespace Marshal

variable {ctx : CallContext σ κ ς β} {caps : κ} {array : β} {s t : Site σ} {w v : World σ}
  {e : BridgeError}

theorem not_fatal_of_copyOut (h : (copyOut ctx array).run s = (.ok (.error e), t)) :
    e.isFatal = false := by
  obtain ⟨measured, s₁, -, h⟩ := Routine.of_run_bind_ok h
  cases measured with
  | error source => cases h; simp
  | ok len =>
    by_cases hfits : ByteBuffer.fits len = true
    · simp only [hfits, if_true] at h
      obtain ⟨read, s₂, -, h⟩ := Routine.of_run_bind_ok h
      cases read with
      | error source => cases h; simp
      | ok bytes => cases h
    · simp only [hfits] at h
      cases h
      rfl

theorem not_fatal_of_toNative {string? : Option ς}
    (h : (toNative ctx caps string?).run w = (.ok (.error e), v)) : e.isFatal = false := by
  cases string? with
  | none => cases h
  | some string =>
    obtain ⟨fetched, w₁, -, h⟩ := Routine.of_run_bind_ok h
    cases fetched with
    | error source => cases h; simp
    | ok array =>
      obtain ⟨copied, w₂, hcopied, h⟩ := Routine.of_run_bind_ok h
      obtain ⟨_, w₃, -, h⟩ := Routine.of_run_bind_ok h
      cases copied with
      | error e' =>
        cases h
        exact not_fatal_of_copyOut (Call.of_run_monadLift hcopied)
      | ok buffer => cases h

theorem not_fatal_of_construct {bytes : List UInt8}
    (h : (construct ctx caps array bytes).run s = (.ok (.error e), t)) : e.isFatal = false := by
  obtain ⟨written, s₁, -, h⟩ := Routine.of_run_bind_ok h
  cases written with
  | error source => cases h; simp
  | ok _ =>
    obtain ⟨made, s₂, -, h⟩ := Routine.of_run_bind_ok h
    cases made with
    | error source => cases h; simp
    | ok string => cases h

theorem not_fatal_of_toManaged {bytes? : Option (List UInt8)}
    (h : (toManaged ctx caps bytes?).run w = (.ok (.error e), v)) : e.isFatal = false := by
  cases bytes? with
  | none => cases h
  | some bytes =>
    obtain ⟨allocated, w₁, -, h⟩ := Routine.of_run_bind_ok h
    cases allocated with
    | error source => cases h; simp
    | ok array =>
      obtain ⟨built, w₂, hbuilt, h⟩ := Routine.of_run_bind_ok h
      obtain ⟨_, w₃, -, h⟩ := Routine.of_run_bind_ok h
      cases built with
      | error e' =>
        cases h
        exact not_fatal_of_construct (Call.of_run_monadLift hbuilt)
      | ok string => cases h

end Marshal

namespace Bridge

section Conversions

variable {place : Place σ (Bridge ρ κ)} {ctx : CallContext σ κ ς β} {w v : World σ}
  {e : BridgeError}

theorem not_fatal_of_nativeFromManaged (started : (place.get w.backend).isInitialized = true)
    {string? : Option ς}
    (h : (nativeFromManaged place ctx string?).run w = (.ok (.error e), v)) :
    e.isFatal = false := by
  obtain ⟨caps, hcaps⟩ := exists_capabilities started
  cases string? with
  | none => cases h
  | some string =>
    rw [run_nativeFromManaged hcaps] at h
    exact Marshal.not_fatal_of_toNative h

theorem not_fatal_of_managedFromNative (started : (place.get w.backend).isInitialized = true)
    {bytes? : Option (List UInt8)}
    (h : (managedFromNative place ctx bytes?).run w = (.ok (.error e), v)) :
    e.isFatal = false := by
  obtain ⟨caps, hcaps⟩ := exists_capabilities started
  cases bytes? with
  | none => cases h
  | some bytes =>
    rw [run_managedFromNative hcaps] at h
    exact Marshal.not_fatal_of_toManaged h

theorem not_fatal_of_stringFromManaged (started : (place.get w.backend).isInitialized = true)
    {string? : Option ς}
    (h : (stringFromManaged place ctx string?).run w = (.ok (.error e), v)) :
    e.isFatal = false := by
  obtain ⟨converted, u, hconverted, h⟩ := Routine.of_run_bind_ok h
  cases converted with
  | error e' =>
    cases h
    exact not_fatal_of_nativeFromManaged started hconverted
  | ok buffer? => cases h

end Conversions

section Attachments

variable {place : Place σ (Bridge ρ κ)} {backend : ρ → ManagedRuntime σ γ} {w v : World σ}
  {e : BridgeError}

theorem isFatal_of_runtime {b : Bridge ρ κ} (h : b.runtime = .error e) : e.isFatal = true := by
  unfold runtime RuntimeRegistry.get at h
  split at h
  · cases h
  · cases h
    rfl

theorem isFatal_of_enter {rt : ManagedRuntime σ γ}
    (h : (Attachment.enter rt).run w = (.ok (.error e), v)) : e.isFatal = true := by
  obtain ⟨current, w₁, -, h⟩ := Routine.of_run_bind_ok h
  cases current with
  | some context => cases h
  | none =>
    obtain ⟨attached, w₂, -, h⟩ := Routine.of_run_bind_ok h
    cases attached with
    | ok context => cases h
    | error source =>
      cases h
      rfl

theorem isFatal_of_attach (h : (attach place backend).run w = (.ok (.error e), v)) :
    e.isFatal = true := by
  cases hruntime : (place.get w.backend).runtime with
  | error e' =>
    rw [run_attach_unset hruntime] at h
    cases h
    exact isFatal_of_runtime hruntime
  | ok runtime =>
    rw [run_attach hruntime] at h
    rcases hentered : (Attachment.enter (backend runtime)).run w with ⟨panic | e' | scope, u⟩
    · simp [hentered, Except.map] at h
    · rw [hentered] at h
      cases h
      exact isFatal_of_enter hentered
    · simp [hentered, Except.map] at h

theorem isFatal_of_withAttachment {body : γ → Act σ α}
    (h : (withAttachment place backend body).run w = (.ok (.error e), v)) : e.isFatal = true := by
  cases hruntime : (place.get w.backend).runtime with
  | error e' =>
    rw [run_withAttachment_unset hruntime] at h
    cases h
    exact isFatal_of_runtime hruntime
  | ok runtime =>
    rw [run_withAttachment hruntime] at h
    obtain ⟨entered, u, hentered, h⟩ := Routine.of_run_bind_ok h
    cases entered with
    | error e' =>
      cases h
      exact isFatal_of_enter hentered
    | ok scope =>
      obtain ⟨a, u', -, h⟩ := Routine.of_run_bind_ok h
      cases h

end Attachments

section Starts

variable {place : Place σ (Bridge ρ κ)} {ctx : CallContext σ κ ς β} {s t : Site σ}
  {e : BridgeError}

/-- A start comes to ask the context for capabilities, and is refused them. -/
def Unresolved (place : Place σ (Bridge ρ κ)) (ctx : CallContext σ κ ς β) (s : Site σ) : Prop :=
  (place.get s.backend).registry.isSet = false ∧
    (place.get s.backend).cache.isInitialized = false ∧
      ∃ source t, ctx.resolveCapabilities.run s = (.ok (.error source), t)

theorem isFatal_of_store {cache : CapabilityCache κ} {caps : κ}
    (h : cache.store caps = .error e) : e.isFatal = true := by
  unfold CapabilityCache.store at h
  split at h
  · cases h
    rfl
  · cases h

theorem isFatal_of_set {registry : RuntimeRegistry ρ} {runtime : ρ}
    (h : registry.set runtime = .error e) : e.isFatal = true := by
  unfold RuntimeRegistry.set at h
  split at h
  · cases h
    rfl
  · cases h

/-- A change that is made at once is refused for one reason only. -/
theorem of_run_tryModify {τ : Type} {p : Place σ τ} {f : τ → Except BridgeError τ}
    (h : (Call.tryModify p f).run s = (.ok (.error e), t)) : f (p.get s.backend) = .error e := by
  rw [Call.run_tryModify] at h
  cases hf : f (p.get s.backend) with
  | ok a => simp [hf] at h
  | error e' =>
    simp [hf] at h
    rw [h.1]

theorem run_fill_full {place : Place σ (CapabilityCache κ)}
    (full : (place.get s.backend).isInitialized = true) :
    (CapabilityCache.fill place ctx).run s =
      (.ok (.error (.alreadyInitialized "capability cache")), s) := by
  rw [CapabilityCache.fill, Routine.run_bind, Call.run_read]
  simp only [full, if_true]
  rfl

/-- A cache that is empty is filled with what the context resolves. It fails as the context does, or
fatally. -/
theorem fill_asks {place : Place σ (CapabilityCache κ)} {r : Except BridgeError Unit}
    (empty : (place.get s.backend).isInitialized = false)
    (h : (CapabilityCache.fill place ctx).run s = (.ok r, t)) :
    ∃ answer u, ctx.resolveCapabilities.run s = (.ok answer, u) ∧
      (∀ source, answer = .error source → r = .error (.ofRuntime "resolve_capabilities" 0 source)) ∧
        ∀ caps, answer = .ok caps → ∀ e, r = .error e → e.isFatal = true := by
  rw [CapabilityCache.fill, Routine.run_bind, Call.run_read] at h
  simp only [empty] at h
  obtain ⟨answer, u, hanswer, h⟩ := Routine.of_run_bind_ok h
  refine ⟨answer, u, hanswer, ?_, ?_⟩
  · rintro source rfl
    cases h
    rfl
  · rintro caps rfl e rfl
    obtain ⟨stored, u', hstored, h⟩ := Routine.of_run_bind_ok h
    cases stored with
    | error e' =>
      cases h
      exact isFatal_of_store (of_run_tryModify hstored)
    | ok _ => cases h

/-- The one failure of a start that is not fatal: the capabilities are refused. -/
theorem not_fatal_of_start_iff {runtime : ρ}
    (h : (start place runtime ctx).run s = (.ok (.error e), t)) :
    e.isFatal = false ↔ Unresolved place ctx s := by
  rw [start, Routine.run_bind, Call.run_read] at h
  by_cases hset : (place.get s.backend).registry.isSet = true
  · simp only [hset, if_true] at h
    cases h
    simp [Unresolved, hset, BridgeError.isFatal]
  · simp only [hset] at h
    obtain ⟨filled, u, hfilled, h⟩ := Routine.of_run_bind_ok h
    have hregister : filled = .ok () → e.isFatal = true := by
      rintro rfl
      obtain ⟨registered, u', hregistered, h⟩ := Routine.of_run_bind_ok h
      cases registered with
      | error e' =>
        cases h
        exact isFatal_of_set (of_run_tryModify hregistered)
      | ok _ => cases h
    have hfails : ∀ e', filled = .error e' → e = e' := by
      rintro e' rfl
      cases h
      rfl
    by_cases hfull : (place.get s.backend).cache.isInitialized = true
    · have hrefused : (CapabilityCache.fill (place.inside cachePlace) ctx).run s =
          (.ok (.error (.alreadyInitialized "capability cache")), s) := run_fill_full hfull
      rw [hrefused] at hfilled
      cases hfilled
      simp [Unresolved, hfull, hfails _ rfl, BridgeError.isFatal]
    · have hempty : (place.get s.backend).cache.isInitialized = false := by simpa using hfull
      obtain ⟨answer, u', hanswer, hrefused, hresolved⟩ := fill_asks hempty hfilled
      simp only [Unresolved, hset, hempty, hanswer]
      cases answer with
      | error source =>
        simp [hfails _ (hrefused source rfl)]
      | ok caps =>
        have hfatal : e.isFatal = true := by
          cases filled with
          | error e' => rw [hfails e' rfl]; exact hresolved caps rfl e' rfl
          | ok _ => exact hregister rfl
        simp [hfatal]

end Starts

/-- How severe the errors of a bridge's operations are. -/
structure Severity (place : Place σ (Bridge ρ κ)) (backend : ρ → ManagedRuntime σ γ)
    (ctx : CallContext σ κ ς β) : Prop where
  attach : ∀ w e v, (attach place backend).run w = (.ok (.error e), v) → e.isFatal = true
  withAttachment : ∀ {α : Type} (body : γ → Act σ α) w e v,
    (withAttachment place backend body).run w = (.ok (.error e), v) → e.isFatal = true
  /-- A start fails without being fatal just where the capabilities are refused. -/
  start : ∀ runtime s e t, (start place runtime ctx).run s = (.ok (.error e), t) →
    (e.isFatal = false ↔ Unresolved place ctx s)
  nativeFromManaged : ∀ string? w e v, (place.get w.backend).isInitialized = true →
    (nativeFromManaged place ctx string?).run w = (.ok (.error e), v) → e.isFatal = false
  managedFromNative : ∀ bytes? w e v, (place.get w.backend).isInitialized = true →
    (managedFromNative place ctx bytes?).run w = (.ok (.error e), v) → e.isFatal = false
  stringFromManaged : ∀ string? w e v, (place.get w.backend).isInitialized = true →
    (stringFromManaged place ctx string?).run w = (.ok (.error e), v) → e.isFatal = false

/-- Whatever the runtime and the context do, errors of attachments are fatal, errors of conversions
over a started bridge are not, and errors of starts are but for capabilities that are refused. -/
theorem errors_severity (place : Place σ (Bridge ρ κ)) (backend : ρ → ManagedRuntime σ γ)
    (ctx : CallContext σ κ ς β) : Severity place backend ctx where
  attach _ _ _ h := isFatal_of_attach h
  withAttachment _ _ _ _ h := isFatal_of_withAttachment h
  start _ _ _ _ h := not_fatal_of_start_iff h
  nativeFromManaged _ _ _ _ started h := not_fatal_of_nativeFromManaged started h
  managedFromNative _ _ _ _ started h := not_fatal_of_managedFromNative started h
  stringFromManaged _ _ _ _ started h := not_fatal_of_stringFromManaged started h

end Bridge

open InProcess in
/-- A runtime whose string class is not found refuses the capabilities to an attached thread. The
start fails, and its error is not fatal, although the bridge stays without runtime and capabilities.
-/
theorem Installation.refused_start_not_fatal :
    ∃ e, ∃ t : Site (Installation Unit Unit),
      (Bridge.start (bridgeAt ()) () (context ((), .worker 0))).run
        ⟨⟨fun _ => ⟨{ threads := ⟨[(.worker 0, {})]⟩, failResolution := true }, []⟩,
          fun _ => {}⟩, []⟩ = (.ok (.error e), t) ∧
      e = .runtime "resolve_capabilities" (.other "class not found") ∧ e.isFatal = false ∧
      (t.backend.bridges ()).isInitialized = false := by
  refine ⟨_, _, rfl, rfl, rfl, rfl⟩

end ManagedBridge
