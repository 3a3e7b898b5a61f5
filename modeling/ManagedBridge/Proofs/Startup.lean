import ManagedBridge.Bridge
import ManagedBridge.Proofs.Pool
import ManagedBridge.Proofs.Recording

/-!
# Callers of a bridge in the making

Any number of callers start a bridge and read it at the same time, each going on by single steps.
What a caller does is given by its phase: which steps it can take there, what it can rely on
although others go on in between, and what it comes back with.
-/

namespace ManagedBridge

/-- A bridge in the making, with the state of the callers' contexts and the calls made through
them. -/
structure Startup (τ ι ρ κ ς β : Type) where
  outside : τ
  calls : List (ι × ContextCall κ ς β) := []
  bridge : Bridge ρ κ := {}

namespace Startup

variable {τ ι ρ κ ς β : Type}

def outsidePlace : Place (Startup τ ι ρ κ ς β) τ := ⟨outside, fun o s => { s with outside := o }⟩

def bridgePlace : Place (Startup τ ι ρ κ ς β) (Bridge ρ κ) :=
  ⟨bridge, fun b s => { s with bridge := b }⟩

def record (i : ι) (call : ContextCall κ ς β) (s : Startup τ ι ρ κ ς β) : Startup τ ι ρ κ ς β :=
  { s with calls := s.calls ++ [(i, call)] }

/-- The caller `i` has resolved its capabilities, and that ended so. -/
def Resolution (s : Startup τ ι ρ κ ς β) (i : ι) (ended : Except Panic (Except RuntimeError κ)) :
    Prop :=
  (i, .resolveCapabilities ended) ∈ s.calls

/-- What a reader can ask. -/
inductive Query
  | runtime
  | capabilities
  | isInitialized

/-- A reader's question with the answer to it. -/
inductive Sighting (ρ κ : Type)
  | runtime (answer : Except BridgeError ρ)
  | capabilities (answer : Except BridgeError κ)
  | isInitialized (answer : Bool)

/-- Asks one question. The cells are looked at one by one, the second only if the first is set. -/
def Query.ask : Query → Call (Startup τ ι ρ κ ς β) (Sighting ρ κ)
  | runtime => do return .runtime (← Call.read bridgePlace).runtime
  | capabilities => do return .capabilities (← Call.read bridgePlace).capabilities
  | isInitialized => do
    if (← Call.read bridgePlace).registry.isSet then
      return .isInitialized (← Call.read bridgePlace).cache.isInitialized
    else return .isInitialized false

/-- The answer to a question if all of it is looked up at once. -/
def Query.answer (b : Bridge ρ κ) : Query → Sighting ρ κ
  | runtime => .runtime b.runtime
  | capabilities => .capabilities b.capabilities
  | isInitialized => .isInitialized b.isInitialized

/-- Without a break between its steps a reader sees what the bridge says. -/
theorem Query.run_ask (query : Query) (s : Site (Startup τ ι ρ κ ς β)) :
    query.ask.run s = (.ok (query.answer s.backend.bridge), s) := by
  cases query with
  | runtime | capabilities => rfl
  | isInitialized =>
    simp only [ask, answer, Routine.run_bind, Call.run_read, bridgePlace, Bridge.isInitialized]
    cases s.backend.bridge.registry.isSet <;> rfl

def askAll : List Query → Call (Startup τ ι ρ κ ς β) (List (Sighting ρ κ))
  | [] => return []
  | query :: queries => do
    let sighting ← query.ask
    let sightings ← askAll queries
    return sighting :: sightings

inductive Caller (τ ρ κ ς β : Type)
  | starter (runtime : ρ) (ctx : CallContext τ κ ς β)
  | reader (queries : List Query)

/-- What a caller comes back with. -/
inductive Answer (ρ κ : Type)
  | started (result : Except BridgeError Unit)
  | seen (sightings : List (Sighting ρ κ))

def Caller.routine (i : ι) : Caller τ ρ κ ς β → Call (Startup τ ι ρ κ ς β) (Answer ρ κ)
  | starter runtime ctx => do
    return .started (← Bridge.start bridgePlace runtime (ctx.recorded outsidePlace (record i)))
  | reader queries => do return .seen (← askAll queries)

/-- All callers before their first step, and a bridge with nothing in it. -/
def opening (callers : ι → Caller τ ρ κ ς β) (outside : τ) (log : List LogLine) :
    Pool ι (Site (Startup τ ι ρ κ ς β)) (Answer ρ κ) :=
  ⟨⟨{ outside }, log⟩, fun i => (callers i).routine i⟩

/-- How far a caller has come. -/
inductive Phase (ρ κ : Type)
  | resolving
  | resolved (ended : Except Panic (Except RuntimeError κ))
  | stored (caps : κ)
  | registered (caps : κ)
  /-- The caller found something published by someone else. -/
  | lost
  | unaware
  /-- A reader has seen the runtime. -/
  | aware (runtime : ρ)

/-- Something in the bridge comes from the caller. -/
def Phase.Published : Phase ρ κ → Prop
  | stored _ => True
  | registered _ => True
  | _ => False

def Caller.firstPhase : Caller τ ρ κ ς β → Phase ρ κ
  | starter .. => .resolving
  | reader _ => .unaware

/-- What a caller can rely on in a phase. -/
def Fits (caller : Caller τ ρ κ ς β) (i : ι) (s : Startup τ ι ρ κ ς β) : Phase ρ κ → Prop
  | .resolving => True
  | .resolved ended => s.Resolution i ended
  | .stored caps =>
    s.Resolution i (.ok (.ok caps)) ∧ s.bridge.cache.slot = some caps ∧
      s.bridge.registry.slot = none
  | .registered caps =>
    s.Resolution i (.ok (.ok caps)) ∧ s.bridge.cache.slot = some caps ∧
      ∃ runtime ctx, caller = .starter runtime ctx ∧ s.bridge.registry.slot = some runtime
  | .lost => s.bridge.registry.slot.isSome ∨ s.bridge.cache.slot.isSome
  | .unaware => True
  | .aware runtime => s.bridge.registry.slot = some runtime ∧ s.bridge.cache.slot.isSome

/-- The steps of the caller `i`. -/
inductive Move (caller : Caller τ ρ κ ς β) (i : ι) :
    Phase ρ κ → Startup τ ι ρ κ ς β → Phase ρ κ → Startup τ ι ρ κ ς β → Prop
  /-- Neither the bridge nor the list of calls changes. -/
  | quiet {phase s t} (hbridge : t.bridge = s.bridge) (hcalls : t.calls = s.calls) :
      Move caller i phase s phase t
  | refuse {s} (hset : s.bridge.registry.slot.isSome ∨ s.bridge.cache.slot.isSome) :
      Move caller i .resolving s .lost s
  | resolve {runtime ctx ended s} (hcaller : caller = .starter runtime ctx) :
      Move caller i .resolving s (.resolved ended) (s.record i (.resolveCapabilities ended))
  | store {caps s} (hempty : s.bridge.cache.slot = none) :
      Move caller i (.resolved (.ok (.ok caps))) s (.stored caps)
        { s with bridge := { s.bridge with cache := ⟨some caps⟩ } }
  | lose {caps s} (hset : s.bridge.cache.slot.isSome) :
      Move caller i (.resolved (.ok (.ok caps))) s .lost s
  | register {runtime ctx caps s} (hcaller : caller = .starter runtime ctx)
      (hempty : s.bridge.registry.slot = none) :
      Move caller i (.stored caps) s (.registered caps)
        { s with bridge := { s.bridge with registry := ⟨some runtime⟩ } }
  | notice {runtime s} (hset : s.bridge.registry.slot = some runtime) :
      Move caller i .unaware s (.aware runtime) s

namespace Sighting

/-- What is seen when `runtime` is registered. -/
def Agrees (runtime : ρ) : Sighting ρ κ → Prop
  | .runtime answer => answer = .ok runtime
  | .capabilities answer => ∃ caps, answer = .ok caps
  | .isInitialized answer => answer = true

/-- If a runtime was seen first, then what was seen next agrees with it. -/
def Confirmed (first next : Sighting ρ κ) : Prop :=
  ∀ runtime, first = .runtime (.ok runtime) → next.Agrees runtime

/-- What agrees with one runtime is seen in any order. -/
theorem pairwise_confirmed {runtime : ρ} {sightings : List (Sighting ρ κ)}
    (h : ∀ sighting ∈ sightings, sighting.Agrees runtime) : sightings.Pairwise Confirmed := by
  refine List.pairwise_of_forall_mem_list fun first hfirst next hnext => ?_
  intro seen hseen
  obtain rfl : seen = runtime := by simpa [hseen, Agrees] using h first hfirst
  exact h next hnext

end Sighting

/-- How a caller comes back from a phase. -/
inductive Ends : Phase ρ κ → Except Panic (Answer ρ κ) → Prop
  | started {caps} : Ends (.registered caps) (.ok (.started (.ok ())))
  | refused {e} : Ends (.resolved (.ok (.error e)))
      (.ok (.started (.error (.ofRuntime "resolve_capabilities" 0 e))))
  | panicked {panic} : Ends (.resolved (.error panic)) (.error panic)
  | late {what} : Ends .lost (.ok (.started (.error (.alreadyInitialized what))))
  | unaware {sightings} (confirmed : sightings.Pairwise Sighting.Confirmed) :
      Ends .unaware (.ok (.seen sightings))
  | aware {runtime sightings} (confirmed : sightings.Pairwise Sighting.Confirmed) :
      Ends (.aware runtime) (.ok (.seen sightings))

variable {caller : Caller τ ρ κ ς β} {i : ι}

/-- The caller takes its steps as its phases allow, and `Post` says what it comes to in which
phase. -/
def Keeps {α : Type} (caller : Caller τ ρ κ ς β) (i : ι)
    (Post : Phase ρ κ → Except Panic α → Prop) : Phase ρ κ → Call (Startup τ ι ρ κ ς β) α → Prop :=
  Routine.Follows (fun phase s => Fits caller i s.backend phase)
    (fun phase s phase' t => Move caller i phase s.backend phase' t.backend) Post

section Steps

variable {α γ ε : Type} {Post : Phase ρ κ → Except Panic α → Prop} {phase : Phase ρ κ}

/-- What is read can be out of date at the next step. -/
theorem Keeps.read {p : Place (Startup τ ι ρ κ ς β) γ}
    {next : γ → Call (Startup τ ι ρ κ ς β) α}
    (h : ∀ s, Fits caller i s phase → Keeps caller i Post phase (next (p.get s))) :
    Keeps caller i Post phase (Call.read p >>= next) := by
  refine Routine.Follows.single_bind fun s hs => ?_
  exact ⟨phase, .quiet rfl rfl, h s.backend hs⟩

/-- A starter that finds a cell set gives up. -/
theorem Keeps.check {p : Place (Startup τ ι ρ κ ς β) γ} {test : γ → Bool}
    {refused next : Call (Startup τ ι ρ κ ς β) α}
    (hset : ∀ s, test (p.get s) → s.bridge.registry.slot.isSome ∨ s.bridge.cache.slot.isSome)
    (hrefused : Keeps caller i Post .lost refused) (hnext : Keeps caller i Post .resolving next) :
    Keeps caller i Post .resolving (Call.read p >>= fun a => if test a then refused else next) := by
  refine Routine.Follows.single_bind fun s _ => ?_
  by_cases h : test (p.get s.backend)
  · rw [if_pos h]
    exact ⟨.lost, .refuse (hset s.backend h), hrefused⟩
  · rw [if_neg h]
    exact ⟨.resolving, .quiet rfl rfl, hnext⟩

theorem Keeps.note {line : LogLine} {next : Unit → Call (Startup τ ι ρ κ ς β) α}
    (h : Keeps caller i Post phase (next ())) :
    Keeps caller i Post phase (Call.note line >>= next) := by
  refine Routine.Follows.single_bind fun s hs => ?_
  exact ⟨phase, .quiet rfl rfl, h⟩

/-- A write that is refused leaves everything as it is. -/
theorem Keeps.tryModify {p : Place (Startup τ ι ρ κ ς β) γ} {f : γ → Except ε γ}
    {next : Except ε Unit → Call (Startup τ ι ρ κ ς β) α}
    (h : ∀ s, Fits caller i s phase → ∃ phase',
      match f (p.get s) with
      | .ok a =>
        Move caller i phase s phase' (p.set a s) ∧ Keeps caller i Post phase' (next (.ok ()))
      | .error e => Move caller i phase s phase' s ∧ Keeps caller i Post phase' (next (.error e))) :
    Keeps caller i Post phase (Call.tryModify p f >>= next) := by
  refine Routine.Follows.single_bind fun s hs => ?_
  obtain ⟨phase', h⟩ := h s.backend hs
  refine ⟨phase', ?_⟩
  cases hf : f (p.get s.backend) with
  | ok a | error e =>
    simp only [hf] at h ⊢
    exact h

end Steps

/-- The steps of the context are quiet ones, and the note of what it came to is the last. -/
theorem resolve_keeps {runtime : ρ} {ctx : CallContext τ κ ς β}
    (hcaller : caller = .starter runtime ctx) (call : Call τ (Except RuntimeError κ)) :
    Keeps caller i (fun phase ended => phase = .resolved ended) .resolving
      (call.recorded outsidePlace fun ended => record i (.resolveCapabilities ended)) := by
  induction call with
  | done result | panicked panic =>
    intro s hs
    exact ⟨.resolved _, .resolve hcaller, rfl⟩
  | step change next ih =>
    intro s hs
    exact ⟨.resolving, .quiet rfl rfl, ih _⟩

/-- How filling the cache comes back from a phase. -/
inductive FillEnds : Phase ρ κ → Except Panic (Except BridgeError Unit) → Prop
  | stored {caps} : FillEnds (.stored caps) (.ok (.ok ()))
  | refused {e} : FillEnds (.resolved (.ok (.error e)))
      (.ok (.error (.ofRuntime "resolve_capabilities" 0 e)))
  | panicked {panic} : FillEnds (.resolved (.error panic)) (.error panic)
  | late {what} : FillEnds .lost (.ok (.error (.alreadyInitialized what)))

theorem fill_keeps {runtime : ρ} {ctx : CallContext τ κ ς β}
    (hcaller : caller = .starter runtime ctx) :
    Keeps caller i FillEnds .resolving
      (CapabilityCache.fill (bridgePlace.inside Bridge.cachePlace)
        (ctx.recorded outsidePlace (record i))) := by
  refine Keeps.check (fun s hset => .inr hset) .late ?_
  refine Routine.Follows.bind (resolve_keeps hcaller ctx.resolveCapabilities) ?_ ?_
  · intro phase panic hphase
    subst hphase
    exact .panicked
  · intro phase result hphase
    subst hphase
    cases result with
    | error e => exact FillEnds.refused
    | ok caps =>
      refine Keeps.tryModify fun s _ => ?_
      cases hslot : s.bridge.cache.slot with
      | none =>
        refine ⟨.stored caps, ?_⟩
        simp only [Place.inside, bridgePlace, Bridge.cachePlace, CapabilityCache.store,
          CapabilityCache.isInitialized, hslot]
        exact ⟨.store hslot, Keeps.note FillEnds.stored⟩
      | some other =>
        refine ⟨.lost, ?_⟩
        simp only [Place.inside, bridgePlace, Bridge.cachePlace, CapabilityCache.store,
          CapabilityCache.isInitialized, hslot]
        exact ⟨.lose (by simp [hslot]), FillEnds.late⟩

theorem start_keeps {runtime : ρ} {ctx : CallContext τ κ ς β}
    (hcaller : caller = .starter runtime ctx) :
    Keeps caller i (fun phase ended => Ends phase (ended.map .started)) .resolving
      (Bridge.start bridgePlace runtime (ctx.recorded outsidePlace (record i))) := by
  refine Keeps.check (fun s hset => .inl hset) .late ?_
  refine Routine.Follows.bind (fill_keeps hcaller) ?_ ?_
  · intro phase panic hended
    cases hended
    exact .panicked
  · intro phase result hended
    cases hended with
    | refused => exact Ends.refused
    | late => exact Ends.late
    | @stored caps =>
      refine Keeps.tryModify fun s hs => ⟨.registered caps, ?_⟩
      have hempty : s.bridge.registry.slot = none := hs.2.2
      simp only [Place.inside, bridgePlace, Bridge.registryPlace, RuntimeRegistry.set,
        RuntimeRegistry.isSet, hempty]
      exact ⟨.register hcaller hempty, Keeps.note Ends.started⟩

/-- A reader that has seen the runtime sees nothing that disagrees with it. -/
theorem ask_keeps_aware (runtime : ρ) (query : Query) :
    Keeps caller i (fun phase ended => phase = .aware runtime ∧
        ∃ sighting, ended = .ok sighting ∧ sighting.Agrees runtime) (.aware runtime)
      (query.ask : Call (Startup τ ι ρ κ ς β) (Sighting ρ κ)) := by
  cases query with
  | runtime =>
    refine Keeps.read fun s hs => ⟨rfl, _, rfl, ?_⟩
    simp [Sighting.Agrees, bridgePlace, Bridge.runtime, RuntimeRegistry.get, hs.1]
  | capabilities =>
    refine Keeps.read fun s hs => ⟨rfl, _, rfl, ?_⟩
    obtain ⟨caps, hcaps⟩ := Option.isSome_iff_exists.mp hs.2
    simp [Sighting.Agrees, bridgePlace, Bridge.capabilities, CapabilityCache.get, hcaps]
  | isInitialized =>
    refine Keeps.read fun s hs => ?_
    rw [if_pos (by simp [bridgePlace, RuntimeRegistry.isSet, hs.1])]
    exact Keeps.read fun t ht => ⟨rfl, _, rfl, ht.2⟩

/-- A reader that has not seen the runtime either does so now or does not. -/
theorem ask_keeps_unaware (query : Query) :
    Keeps caller i (fun phase ended => ∃ sighting, ended = .ok sighting ∧
        ((phase = .unaware ∧ ∀ runtime, sighting ≠ .runtime (.ok runtime)) ∨
          ∃ runtime, phase = .aware runtime ∧ sighting = .runtime (.ok runtime))) .unaware
      (query.ask : Call (Startup τ ι ρ κ ς β) (Sighting ρ κ)) := by
  cases query with
  | runtime =>
    refine Routine.Follows.single_bind fun s _ => ?_
    cases hslot : s.backend.bridge.registry.slot with
    | none =>
      refine ⟨.unaware, .quiet rfl rfl, _, rfl, .inl ⟨rfl, ?_⟩⟩
      simp [bridgePlace, Bridge.runtime, RuntimeRegistry.get, hslot]
    | some runtime =>
      refine ⟨.aware runtime, .notice hslot, _, rfl, .inr ⟨runtime, rfl, ?_⟩⟩
      simp [bridgePlace, Bridge.runtime, RuntimeRegistry.get, hslot]
  | capabilities =>
    refine Keeps.read fun s _ => ⟨_, rfl, .inl ⟨rfl, ?_⟩⟩
    simp
  | isInitialized =>
    refine Keeps.read fun s _ => ?_
    split
    · refine Keeps.read fun t _ => ⟨_, rfl, .inl ⟨rfl, ?_⟩⟩
      simp
    · refine ⟨_, rfl, .inl ⟨rfl, ?_⟩⟩
      simp

theorem askAll_keeps_aware (runtime : ρ) (queries : List Query) :
    Keeps caller i (fun phase ended => phase = .aware runtime ∧
        ∃ sightings, ended = .ok sightings ∧ ∀ sighting ∈ sightings, sighting.Agrees runtime)
      (.aware runtime) (askAll queries : Call (Startup τ ι ρ κ ς β) (List (Sighting ρ κ))) := by
  induction queries with
  | nil => exact ⟨rfl, [], rfl, by simp⟩
  | cons query queries ih =>
    refine Routine.Follows.bind (ask_keeps_aware runtime query) (by simp) ?_
    intro phase sighting hended
    obtain ⟨rfl, _, ⟨⟩, hsighting⟩ := hended
    refine Routine.Follows.bind ih (by simp) ?_
    intro phase sightings hended
    obtain ⟨rfl, _, ⟨⟩, hsightings⟩ := hended
    exact ⟨rfl, _, rfl, by simpa using ⟨hsighting, hsightings⟩⟩

theorem askAll_keeps (queries : List Query) :
    Keeps caller i (fun phase ended => (phase = .unaware ∨ ∃ runtime, phase = .aware runtime) ∧
        ∃ sightings, ended = .ok sightings ∧ sightings.Pairwise Sighting.Confirmed) .unaware
      (askAll queries : Call (Startup τ ι ρ κ ς β) (List (Sighting ρ κ))) := by
  induction queries with
  | nil => exact ⟨.inl rfl, [], rfl, .nil⟩
  | cons query queries ih =>
    refine Routine.Follows.bind (ask_keeps_unaware query) (by simp) ?_
    intro phase sighting hended
    rcases hended with ⟨_, ⟨⟩, ⟨rfl, hother⟩ | ⟨runtime, rfl, rfl⟩⟩
    · refine Routine.Follows.bind ih (by simp) ?_
      intro phase sightings hended
      obtain ⟨hphase, _, ⟨⟩, hsightings⟩ := hended
      have hfirst : ∀ next ∈ sightings, Sighting.Confirmed sighting next :=
        fun next _ runtime hseen => absurd hseen (hother runtime)
      exact ⟨hphase, _, rfl, .cons hfirst hsightings⟩
    · refine Routine.Follows.bind (askAll_keeps_aware runtime queries) (by simp) ?_
      intro phase sightings hended
      obtain ⟨rfl, _, ⟨⟩, hsightings⟩ := hended
      have hall : ∀ next ∈ .runtime (.ok runtime) :: sightings, Sighting.Agrees runtime next := by
        simpa [Sighting.Agrees] using hsightings
      exact ⟨.inr ⟨runtime, rfl⟩, _, rfl, Sighting.pairwise_confirmed hall⟩

theorem caller_keeps (caller : Caller τ ρ κ ς β) (i : ι) :
    Keeps caller i Ends caller.firstPhase (caller.routine i) := by
  cases caller with
  | starter runtime ctx =>
    refine Routine.Follows.bind (start_keeps rfl) ?_ ?_
    · exact fun phase panic hended => hended
    · exact fun phase result hended => hended
  | reader queries =>
    refine Routine.Follows.bind (askAll_keeps queries) (by simp) ?_
    intro phase sightings hended
    rcases hended with ⟨rfl | ⟨runtime, rfl⟩, _, ⟨⟩, hsightings⟩
    · exact Ends.unaware hsightings
    · exact Ends.aware hsightings

end Startup

end ManagedBridge
