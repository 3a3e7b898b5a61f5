import ManagedBridge.Proofs.Startup

/-!
# Initialization

The cells of a bridge are written by separate steps, with a check and the resolution of the
capabilities before them, so several callers can pass the checks before one of them writes. Only
the caller whose capabilities are stored goes on to register its runtime, and until it has done so
nobody else can. So whoever is refused has published nothing, and a bridge is never left half
published.
-/

namespace ManagedBridge.Startup

variable {τ ι ρ κ ς β : Type}

section Step

variable {caller : Caller τ ρ κ ς β} {i : ι} {s t : Startup τ ι ρ κ ς β} {phase phase' : Phase ρ κ}

/-- What has been published or resolved stays so. -/
structure Grows (s t : Startup τ ι ρ κ ς β) : Prop where
  cache : ∀ caps, s.bridge.cache.slot = some caps → t.bridge.cache.slot = some caps
  registry : ∀ runtime, s.bridge.registry.slot = some runtime →
    t.bridge.registry.slot = some runtime
  resolution : ∀ j ended, s.Resolution j ended → t.Resolution j ended

theorem Grows.refl (s : Startup τ ι ρ κ ς β) : Grows s s :=
  ⟨fun _ h => h, fun _ h => h, fun _ _ h => h⟩

theorem Grows.trans {u : Startup τ ι ρ κ ς β} (h : Grows s t) (h' : Grows t u) : Grows s u :=
  ⟨fun _ hs => h'.cache _ (h.cache _ hs), fun _ hs => h'.registry _ (h.registry _ hs),
    fun _ _ hs => h'.resolution _ _ (h.resolution _ _ hs)⟩

theorem Move.grows (h : Move caller i phase s phase' t) : Grows s t := by
  cases h with
  | quiet hbridge hcalls =>
    exact ⟨by simp [hbridge], by simp [hbridge], by simp [Resolution, hcalls]⟩
  | resolve => exact ⟨fun _ h => h, fun _ h => h, fun _ _ h => List.mem_append_left _ h⟩
  | store hempty => exact ⟨fun _ h => absurd h (by simp [hempty]), fun _ h => h, fun _ _ h => h⟩
  | register _ hempty =>
    exact ⟨fun _ h => h, fun _ h => absurd h (by simp [hempty]), fun _ _ h => h⟩
  | refuse | lose | notice => exact .refl s

/-- The phases to which a caller can come whose capabilities have been resolved. -/
def Phase.Passed : Phase ρ κ → Prop
  | resolved (.ok (.ok _)) => True
  | stored _ => True
  | registered _ => True
  | lost => True
  | _ => False

def Phase.Registered (phase : Phase ρ κ) : Prop := ∃ caps, phase = registered caps

theorem Move.published (h : Move caller i phase s phase' t) (hphase : phase.Published) :
    phase'.Published := by
  cases h with
  | quiet => exact hphase
  | register => trivial
  | refuse | resolve | store | lose | notice => exact hphase.elim

theorem Move.registered (h : Move caller i phase s phase' t) (hphase : phase.Registered) :
    phase'.Registered := by
  obtain ⟨caps, rfl⟩ := hphase
  cases h
  exact ⟨caps, rfl⟩

theorem Move.passed (h : Move caller i phase s phase' t) (hphase : phase.Passed) :
    phase'.Passed := by
  cases h with
  | quiet => exact hphase
  | store | lose | register => trivial
  | refuse | resolve | notice => exact hphase.elim

/-- Who publishes for the first time finds the cache empty. -/
theorem Move.published_new (h : Move caller i phase s phase' t) (hphase' : phase'.Published) :
    phase.Published ∨ s.bridge.cache.slot = none := by
  cases h with
  | quiet => exact .inl hphase'
  | store hempty => exact .inr hempty
  | register => exact .inl trivial
  | refuse | resolve | lose | notice => exact hphase'.elim

/-- Whoever changes the bridge has published something. -/
theorem Move.published_of_bridge_ne (h : Move caller i phase s phase' t)
    (hne : t.bridge ≠ s.bridge) : phase'.Published := by
  cases h with
  | quiet hbridge => exact absurd hbridge hne
  | store | register => trivial
  | refuse | resolve | lose | notice => exact absurd rfl hne

theorem Move.cache_new (h : Move caller i phase s phase' t)
    (hset : t.bridge.cache.slot.isSome) : s.bridge.cache.slot.isSome ∨ phase'.Published := by
  cases h with
  | quiet hbridge => exact .inl (hbridge ▸ hset)
  | store => exact .inr trivial
  | refuse | resolve | lose | register | notice => exact .inl hset

theorem Move.registry_new (h : Move caller i phase s phase' t)
    (hset : t.bridge.registry.slot.isSome) :
    s.bridge.registry.slot.isSome ∨ phase.Published ∧ phase'.Registered := by
  cases h with
  | quiet hbridge => exact .inl (hbridge ▸ hset)
  | register => exact .inr ⟨trivial, _, rfl⟩
  | refuse | resolve | store | lose | notice => exact .inl hset

theorem Move.resolution_new (h : Move caller i phase s phase' t) {j : ι} {caps : κ}
    (hresolved : t.Resolution j (.ok (.ok caps))) : s.Resolution j (.ok (.ok caps)) ∨
      j = i ∧ phase'.Passed ∧ ∃ runtime ctx, caller = .starter runtime ctx := by
  cases h with
  | quiet _ hcalls => exact .inl (by simpa [Resolution, hcalls] using hresolved)
  | resolve hcaller =>
    rcases List.mem_append.mp hresolved with hold | hnew
    · exact .inl hold
    · cases List.mem_singleton.mp hnew
      exact .inr ⟨rfl, trivial, _, _, hcaller⟩
  | refuse | store | lose | register | notice => exact .inl hresolved

/-- What a caller relies on stands the steps of the others, except that a caller that has stored its
capabilities needs the registry to be left empty. -/
theorem Fits.stands (h : Fits caller i s phase) (hgrows : Grows s t)
    (hempty : ∀ caps, phase = .stored caps → t.bridge.registry.slot = none) :
    Fits caller i t phase := by
  have hcache : s.bridge.cache.slot.isSome → t.bridge.cache.slot.isSome := by
    intro hset
    obtain ⟨caps, hcaps⟩ := Option.isSome_iff_exists.mp hset
    simp [hgrows.cache caps hcaps]
  have hregistry : s.bridge.registry.slot.isSome → t.bridge.registry.slot.isSome := by
    intro hset
    obtain ⟨runtime, hruntime⟩ := Option.isSome_iff_exists.mp hset
    simp [hgrows.registry runtime hruntime]
  cases phase with
  | resolving | unaware => trivial
  | resolved ended => exact hgrows.resolution i ended h
  | stored caps =>
    obtain ⟨hresolved, hcaps, _⟩ := h
    exact ⟨hgrows.resolution i _ hresolved, hgrows.cache caps hcaps, hempty caps rfl⟩
  | registered caps =>
    obtain ⟨hresolved, hcaps, runtime, ctx, hcaller, hruntime⟩ := h
    exact ⟨hgrows.resolution i _ hresolved, hgrows.cache caps hcaps, runtime, ctx, hcaller,
      hgrows.registry runtime hruntime⟩
  | lost => exact h.imp hregistry hcache
  | aware runtime => exact ⟨hgrows.registry runtime h.1, hcache h.2⟩

/-- Whoever has published has its capabilities in the cache. -/
theorem Fits.cache (h : Fits caller i s phase) (hphase : phase.Published) :
    ∃ caps, s.Resolution i (.ok (.ok caps)) ∧ s.bridge.cache.slot = some caps := by
  cases phase with
  | stored caps | registered caps => exact ⟨caps, h.1, h.2.1⟩
  | _ => exact hphase.elim

variable {ended : Except Panic (Answer ρ κ)}

/-- A caller that has published something comes back only without an error. -/
theorem Ends.eq_started (h : Ends phase ended) (hphase : phase.Published) :
    ended = .ok (.started (.ok ())) := by
  cases h with
  | started => rfl
  | _ => exact hphase.elim

theorem Ends.registered (h : Ends phase (.ok (.started (.ok ())))) : phase.Registered := by
  cases h
  exact ⟨_, rfl⟩

theorem Ends.confirmed {sightings : List (Sighting ρ κ)} (h : Ends phase (.ok (.seen sightings))) :
    sightings.Pairwise Sighting.Confirmed := by
  cases h with
  | unaware confirmed | aware confirmed => exact confirmed

/-- A caller whose capabilities have been resolved comes back only if something is published. -/
theorem Fits.set_of_passed (h : Fits caller i s phase) (hends : Ends phase ended)
    (hphase : phase.Passed) : s.bridge.registry.slot.isSome ∨ s.bridge.cache.slot.isSome := by
  cases hends with
  | started => exact .inr (by simp [h.2.1])
  | late => exact h
  | _ => exact hphase.elim

/-- Starting fails because the resolution did, or because something was published. -/
theorem Fits.refused (h : Fits caller i s phase) {e : BridgeError}
    (hends : Ends phase (.ok (.started (.error e)))) :
    (∃ refusal, s.Resolution i (.ok (.error refusal)) ∧
      e = .ofRuntime "resolve_capabilities" 0 refusal) ∨
    (∃ what, e = .alreadyInitialized what) ∧
      (s.bridge.registry.slot.isSome ∨ s.bridge.cache.slot.isSome) := by
  cases hends with
  | refused => exact .inl ⟨_, h, rfl⟩
  | late => exact .inr ⟨⟨_, rfl⟩, h⟩

theorem Fits.panicked (h : Fits caller i s phase) {panic : Panic}
    (hends : Ends phase (.error panic)) : s.Resolution i (.error panic) := by
  cases hends
  exact h

end Step

section Together

variable {callers : ι → Caller τ ρ κ ς β} {phases : ι → Phase ρ κ} {s t : Startup τ ι ρ κ ς β}

/-- What the step of a caller does not take from its phase, no phase loses. -/
theorem Phase.holds_update [DecidableEq ι] {P : Phase ρ κ → Prop} {i : ι} {phase : Phase ρ κ}
    (hkeep : P (phases i) → P phase) {j : ι} (h : P (phases j)) :
    P (Function.update phases i phase j) := by
  by_cases hj : j = i
  · subst hj
    rw [Function.update_self]
    exact hkeep h
  · rw [Function.update_of_ne hj]
    exact h

/-- The phases of all callers fit the state, and what is published comes from one of them. -/
structure Consistent (callers : ι → Caller τ ρ κ ς β) (phases : ι → Phase ρ κ)
    (s : Startup τ ι ρ κ ς β) : Prop where
  fits : ∀ i, Fits (callers i) i s (phases i)
  single : ∀ i j, (phases i).Published → (phases j).Published → i = j
  cache_from : s.bridge.cache.slot.isSome → ∃ i, (phases i).Published
  registry_from : s.bridge.registry.slot.isSome → ∃ i, (phases i).Registered
  resolved_by : ∀ i caps, s.Resolution i (.ok (.ok caps)) →
    (phases i).Passed ∧ ∃ runtime ctx, callers i = .starter runtime ctx

namespace Consistent

/-- Before the first step. -/
theorem opening (callers : ι → Caller τ ρ κ ς β) (outside : τ) :
    Consistent callers (fun i => (callers i).firstPhase) { outside } where
  fits i := by cases hi : callers i <;> trivial
  single i j hi _ := by
    cases h : callers i <;> simp [h, Caller.firstPhase, Phase.Published] at hi
  cache_from h := by simp at h
  registry_from h := by simp at h
  resolved_by i caps h := by simp [Resolution] at h

/-- Whatever is published, the capabilities are. -/
theorem cache_of_set (h : Consistent callers phases s)
    (hset : s.bridge.registry.slot.isSome ∨ s.bridge.cache.slot.isSome) :
    s.bridge.cache.slot.isSome := by
  rcases hset with hregistry | hcache
  · obtain ⟨i, _, hi⟩ := h.registry_from hregistry
    obtain ⟨caps, _, hcaps⟩ := (h.fits i).cache (by rw [hi]; trivial)
    simp [hcaps]
  · exact hcache

section Move

variable {i : ι} {phase : Phase ρ κ}

theorem fits_mover (h : Consistent callers phases s)
    (hmove : Move (callers i) i (phases i) s phase t) : Fits (callers i) i t phase := by
  have hi := h.fits i
  have hgrows := hmove.grows
  generalize phases i = before at hi hmove
  cases hmove with
  | quiet hbridge =>
    refine hi.stands hgrows fun caps hstored => ?_
    subst hstored
    rw [hbridge]
    exact hi.2.2
  | resolve => exact List.mem_append_right _ (List.mem_singleton_self _)
  | @store caps _ hempty =>
    refine ⟨hi, rfl, ?_⟩
    by_contra hset
    have hcache := h.cache_of_set (.inl (Option.isSome_iff_ne_none.mpr hset))
    simp [hempty] at hcache
  | refuse hset => exact hset
  | lose hset => exact .inr hset
  | register hcaller => exact ⟨hi.1, hi.2.1, _, _, hcaller, rfl⟩
  | notice hset => exact ⟨hset, h.cache_of_set (.inl (by simp [hset]))⟩

/-- While one caller is between its two writes, no other registers a runtime. -/
theorem fits_other (h : Consistent callers phases s)
    (hmove : Move (callers i) i (phases i) s phase t) {j : ι} (hj : j ≠ i) :
    Fits (callers j) j t (phases j) := by
  refine (h.fits j).stands hmove.grows fun caps hstored => ?_
  have hfits := h.fits j
  rw [hstored] at hfits
  by_contra hset
  rcases hmove.registry_new (Option.isSome_iff_ne_none.mpr hset) with hbefore | ⟨hpublished, _⟩
  · simp [hfits.2.2] at hbefore
  · exact hj (h.single j i (by rw [hstored]; trivial) hpublished)

/-- Nobody else has published when a caller is about to, or has. -/
theorem published_mover (h : Consistent callers phases s)
    (hmove : Move (callers i) i (phases i) s phase t) (hphase : phase.Published) {j : ι}
    (hpublished : (phases j).Published) : j = i := by
  rcases hmove.published_new hphase with hbefore | hempty
  · exact h.single j i hpublished hbefore
  · obtain ⟨caps, _, hcaps⟩ := (h.fits j).cache hpublished
    simp [hempty] at hcaps

variable [DecidableEq ι]

theorem single_move (h : Consistent callers phases s)
    (hmove : Move (callers i) i (phases i) s phase t) (j k : ι)
    (hj : (Function.update phases i phase j).Published)
    (hk : (Function.update phases i phase k).Published) : j = k := by
  by_cases hji : j = i
  · by_cases hki : k = i
    · rw [hji, hki]
    · rw [hji, Function.update_self] at hj
      rw [Function.update_of_ne hki] at hk
      rw [hji, h.published_mover hmove hj hk]
  · rw [Function.update_of_ne hji] at hj
    by_cases hki : k = i
    · rw [hki, Function.update_self] at hk
      rw [hki, h.published_mover hmove hk hj]
    · rw [Function.update_of_ne hki] at hk
      exact h.single j k hj hk

theorem move (h : Consistent callers phases s)
    (hmove : Move (callers i) i (phases i) s phase t) :
    Consistent callers (Function.update phases i phase) t where
  fits j := by
    by_cases hj : j = i
    · subst hj
      rw [Function.update_self]
      exact h.fits_mover hmove
    · rw [Function.update_of_ne hj]
      exact h.fits_other hmove hj
  single := h.single_move hmove
  cache_from hset := by
    rcases hmove.cache_new hset with hbefore | hpublished
    · obtain ⟨j, hj⟩ := h.cache_from hbefore
      exact ⟨j, Phase.holds_update hmove.published hj⟩
    · exact ⟨i, by rwa [Function.update_self]⟩
  registry_from hset := by
    rcases hmove.registry_new hset with hbefore | ⟨_, hregistered⟩
    · obtain ⟨j, hj⟩ := h.registry_from hbefore
      exact ⟨j, Phase.holds_update hmove.registered hj⟩
    · exact ⟨i, by rwa [Function.update_self]⟩
  resolved_by j caps hresolved := by
    rcases hmove.resolution_new hresolved with hbefore | ⟨rfl, hpassed, hcaller⟩
    · obtain ⟨hpassed, hcaller⟩ := h.resolved_by j caps hbefore
      exact ⟨Phase.holds_update hmove.passed hpassed, hcaller⟩
    · exact ⟨by rwa [Function.update_self], hcaller⟩

end Move

end Consistent

/-- What has become of callers in `phases` at the state `s`, after steps of any of them. -/
structure Later (callers : ι → Caller τ ρ κ ς β) (phases : ι → Phase ρ κ)
    (s : Startup τ ι ρ κ ς β) (phases' : ι → Phase ρ κ) (t : Startup τ ι ρ κ ς β) : Prop where
  consistent : Consistent callers phases' t
  grows : Grows s t
  published : ∀ i, (phases i).Published → (phases' i).Published

theorem Consistent.later (h : Consistent callers phases s) : Later callers phases s phases s :=
  ⟨h, .refl s, fun _ hi => hi⟩

theorem Later.move [DecidableEq ι] {u : Startup τ ι ρ κ ς β} {phases' : ι → Phase ρ κ} {i : ι}
    {phase : Phase ρ κ} (h : Later callers phases s phases' t)
    (hmove : Move (callers i) i (phases' i) t phase u) :
    Later callers phases s (Function.update phases' i phase) u where
  consistent := h.consistent.move hmove
  grows := h.grows.trans hmove.grows
  published j hj := Phase.holds_update hmove.published (h.published j hj)

end Together

/-- Callers on their way. -/
abbrev Race (τ ι ρ κ ς β : Type) := Pool ι (Site (Startup τ ι ρ κ ς β)) (Answer ρ κ)

namespace Race

def bridge (race : Race τ ι ρ κ ς β) : Bridge ρ κ := race.shared.backend.bridge

/-- The starter `i` came back without an error. -/
def Started (race : Race τ ι ρ κ ς β) (i : ι) : Prop :=
  race.ended? i = some (.ok (.started (.ok ())))

/-- All starters have come to an end; readers may go on. -/
def Settled (callers : ι → Caller τ ρ κ ς β) (race : Race τ ι ρ κ ς β) : Prop :=
  ∀ i runtime ctx, callers i = .starter runtime ctx → (race.ended? i).isSome

/-- The capabilities and the runtime in the bridge are those of the caller `i`. -/
def PublishedBy (callers : ι → Caller τ ρ κ ς β) (race : Race τ ι ρ κ ς β) (i : ι) : Prop :=
  ∃ runtime ctx caps, callers i = .starter runtime ctx ∧
    race.shared.backend.Resolution i (.ok (.ok caps)) ∧
    race.bridge = ⟨⟨some runtime⟩, ⟨some caps⟩⟩

/-- The step that `i` takes after the schedule `front` changes the bridge. -/
def Writes [DecidableEq ι] (race : Race τ ι ρ κ ς β) (front : List ι) (i : ι) : Prop :=
  bridge (race.run (front ++ [i])) ≠ bridge (race.run front)

/-- What can be said of a race after a schedule of steps. -/
structure Atomic [DecidableEq ι] (callers : ι → Caller τ ρ κ ς β) (race : Race τ ι ρ κ ς β)
    (schedule : List ι) : Prop where
  /-- A runtime is registered only beside capabilities, and one caller brought both. -/
  together : (bridge (race.run schedule)).registry.isSet →
    ∃ i, PublishedBy callers (race.run schedule) i
  cache_kept : ∀ later caps, (bridge (race.run schedule)).cache.slot = some caps →
    (bridge (race.run (schedule ++ later))).cache.slot = some caps
  runtime_kept : ∀ later runtime, (bridge (race.run schedule)).registry.slot = some runtime →
    (bridge (race.run (schedule ++ later))).registry.slot = some runtime
  started_published : ∀ i, Started (race.run schedule) i →
    PublishedBy callers (race.run schedule) i
  started_single : ∀ i j, Started (race.run schedule) i → Started (race.run schedule) j → i = j
  /-- Who does not come back without an error has not written anything. -/
  refused : ∀ i, ((race.run schedule).ended? i).isSome → ¬ Started (race.run schedule) i →
    ∀ front back, schedule = front ++ i :: back → ¬ Writes race front i
  /-- Starting fails because the capabilities could not be resolved, or else came too late. -/
  reason : ∀ i e, (race.run schedule).ended? i = some (.ok (.started (.error e))) →
    (∃ refusal, (race.run schedule).shared.backend.Resolution i (.ok (.error refusal)) ∧
      e = .ofRuntime "resolve_capabilities" 0 refusal) ∨
    (∃ what, e = .alreadyInitialized what) ∧
      (bridge (race.run schedule)).cache.isInitialized
  panic_reason : ∀ i panic, (race.run schedule).ended? i = some (.error panic) →
    (race.run schedule).shared.backend.Resolution i (.error panic)
  /-- A reader that saw the runtime saw everything else from then on. -/
  seen : ∀ i sightings, (race.run schedule).ended? i = some (.ok (.seen sightings)) →
    sightings.Pairwise Sighting.Confirmed
  /-- A caller comes back if it goes on; nobody waits for anybody. -/
  comes_back : ∀ i, ∃ n, ((race.run (schedule ++ List.replicate n i)).ended? i).isSome
  /-- No bridge is left half published. -/
  whole : Settled callers (race.run schedule) →
    (bridge (race.run schedule)).registry.isSet =
      (bridge (race.run schedule)).cache.isInitialized
  settled : Settled callers (race.run schedule) →
    (∃ i caps, (race.run schedule).shared.backend.Resolution i (.ok (.ok caps))) →
    (bridge (race.run schedule)).isInitialized ∧ ∃! i, Started (race.run schedule) i

/-- Every caller goes on from its phase, and the phases fit the state. -/
structure Sound (callers : ι → Caller τ ρ κ ς β) (phases : ι → Phase ρ κ)
    (race : Race τ ι ρ κ ς β) : Prop where
  follows : race.Follows (fun i phase s => Fits (callers i) i s.backend phase)
    (fun i phase s phase' t => Move (callers i) i phase s.backend phase' t.backend)
    (fun _ => Ends) phases
  consistent : Consistent callers phases race.shared.backend

theorem sound_opening (callers : ι → Caller τ ρ κ ς β) (outside : τ) (log : List LogLine) :
    Sound callers (fun i => (callers i).firstPhase) (opening callers outside log) :=
  ⟨fun i => caller_keeps (callers i) i, .opening callers outside⟩

namespace Sound

variable {callers : ι → Caller τ ρ κ ς β} {phases : ι → Phase ρ κ} {race : Race τ ι ρ κ ς β}
  {i : ι} {ended : Except Panic (Answer ρ κ)}

theorem ends (h : Sound callers phases race) (hended : race.ended? i = some ended) :
    Ends (phases i) ended :=
  (h.follows i).ends hended

/-- A caller that has published something comes back only without an error. -/
theorem started_of_published (h : Sound callers phases race) (hi : (phases i).Published)
    (hended : (race.ended? i).isSome) : race.Started i := by
  obtain ⟨ended, hended⟩ := Option.isSome_iff_exists.mp hended
  obtain rfl := (h.ends hended).eq_started hi
  exact hended

/-- Only a caller that has registered its runtime comes back without an error. -/
theorem registered_of_started (h : Sound callers phases race) (hi : race.Started i) :
    (phases i).Registered :=
  (h.ends hi).registered

theorem publishedBy_of_registered (h : Sound callers phases race) (hi : (phases i).Registered) :
    PublishedBy callers race i := by
  obtain ⟨caps, hphase⟩ := hi
  have hfits := h.consistent.fits i
  rw [hphase] at hfits
  obtain ⟨hresolved, hcache, runtime, ctx, hcaller, hregistry⟩ := hfits
  refine ⟨runtime, ctx, caps, hcaller, hresolved, ?_⟩
  rw [bridge, ← hcache, ← hregistry]

theorem publishedBy_of_started (h : Sound callers phases race) (hi : race.Started i) :
    PublishedBy callers race i :=
  h.publishedBy_of_registered (h.registered_of_started hi)

theorem publishedBy_of_isSet (h : Sound callers phases race) (hset : race.bridge.registry.isSet) :
    ∃ i, PublishedBy callers race i := by
  obtain ⟨i, hi⟩ := h.consistent.registry_from hset
  exact ⟨i, h.publishedBy_of_registered hi⟩

theorem started_unique (h : Sound callers phases race) {j : ι} (hi : race.Started i)
    (hj : race.Started j) : i = j := by
  obtain ⟨_, hi⟩ := h.registered_of_started hi
  obtain ⟨_, hj⟩ := h.registered_of_started hj
  exact h.consistent.single i j (by rw [hi]; trivial) (by rw [hj]; trivial)

/-- Who stored its capabilities comes back, and then it has registered its runtime as well. -/
theorem started_of_cache (h : Sound callers phases race) (hsettled : Settled callers race)
    (hset : race.bridge.cache.isInitialized) : ∃ i, race.Started i := by
  obtain ⟨i, hi⟩ := h.consistent.cache_from hset
  obtain ⟨caps, hresolved, _⟩ := (h.consistent.fits i).cache hi
  obtain ⟨_, runtime, ctx, hcaller⟩ := h.consistent.resolved_by i caps hresolved
  exact ⟨i, h.started_of_published hi (hsettled i runtime ctx hcaller)⟩

/-- A caller whose resolution succeeded comes back only if the cache is full. -/
theorem cache_of_resolved (h : Sound callers phases race) (hsettled : Settled callers race)
    {caps : κ} (hresolved : race.shared.backend.Resolution i (.ok (.ok caps))) :
    race.bridge.cache.isInitialized := by
  obtain ⟨hpassed, runtime, ctx, hcaller⟩ := h.consistent.resolved_by i caps hresolved
  obtain ⟨ended, hended⟩ := Option.isSome_iff_exists.mp (hsettled i runtime ctx hcaller)
  have hset := (h.consistent.fits i).set_of_passed (h.ends hended) hpassed
  exact h.consistent.cache_of_set hset

theorem isSet_eq_isInitialized (h : Sound callers phases race) (hsettled : Settled callers race) :
    race.bridge.registry.isSet = race.bridge.cache.isInitialized := by
  rw [Bool.eq_iff_iff]
  constructor
  · intro hset
    obtain ⟨_, _, _, _, _, _, hbridge⟩ := h.publishedBy_of_isSet hset
    rw [hbridge]
    rfl
  · intro hset
    obtain ⟨i, hi⟩ := h.started_of_cache hsettled hset
    obtain ⟨_, _, _, _, _, hbridge⟩ := h.publishedBy_of_started hi
    rw [hbridge]
    rfl

theorem started_of_resolved (h : Sound callers phases race) (hsettled : Settled callers race)
    {caps : κ} (hresolved : race.shared.backend.Resolution i (.ok (.ok caps))) :
    race.bridge.isInitialized ∧ ∃! j, race.Started j := by
  have hcache := h.cache_of_resolved hsettled hresolved
  obtain ⟨j, hj⟩ := h.started_of_cache hsettled hcache
  refine ⟨?_, j, hj, fun k hk => h.started_unique hk hj⟩
  rw [Bridge.isInitialized, h.isSet_eq_isInitialized hsettled, Bool.and_self]
  exact hcache

theorem reason (h : Sound callers phases race) {e : BridgeError}
    (hended : race.ended? i = some (.ok (.started (.error e)))) :
    (∃ refusal, race.shared.backend.Resolution i (.ok (.error refusal)) ∧
      e = .ofRuntime "resolve_capabilities" 0 refusal) ∨
    (∃ what, e = .alreadyInitialized what) ∧ race.bridge.cache.isInitialized :=
  ((h.consistent.fits i).refused (h.ends hended)).imp_right fun hlate =>
    ⟨hlate.1, h.consistent.cache_of_set hlate.2⟩

variable [DecidableEq ι]

theorem run (h : Sound callers phases race) (schedule : List ι) : ∃ phases',
    Sound callers phases' (race.run schedule) ∧
      Later callers phases race.shared.backend phases' (race.run schedule).shared.backend := by
  obtain ⟨phases', hfollows, hlater⟩ := h.follows.run
    (fun phases' s => Later callers phases race.shared.backend phases' s.backend)
    (fun _ _ i hlater => hlater.consistent.fits i) (fun _ _ _ _ _ hlater hmove => hlater.move hmove)
    h.consistent.later schedule
  exact ⟨phases', ⟨hfollows, hlater.consistent⟩, hlater⟩

/-- After a step of its own that changes the bridge a caller has published something. -/
theorem advance (h : Sound callers phases race) (i : ι)
    (hchange : bridge (race.advance i) ≠ race.bridge) :
    ∃ phases', Sound callers phases' (race.advance i) ∧ (phases' i).Published := by
  rcases h.follows.advance (h.consistent.fits i) with hsame | ⟨phase, hmove, hfollows⟩
  · exact absurd (by rw [hsame]) hchange
  · refine ⟨Function.update phases i phase, ⟨hfollows, h.consistent.move hmove⟩, ?_⟩
    rw [Function.update_self]
    exact hmove.published_of_bridge_ne hchange

/-- Once a step of its own has changed the bridge, a caller comes back without an error. -/
theorem started_of_change (h : Sound callers phases race)
    (hchange : bridge (race.advance i) ≠ race.bridge) (later : List ι)
    (hended : (((race.advance i).run later).ended? i).isSome) :
    Started ((race.advance i).run later) i := by
  obtain ⟨between, hbetween, hi⟩ := h.advance i hchange
  obtain ⟨_, hsound, hlater⟩ := hbetween.run later
  exact hsound.started_of_published (hlater.published i hi) hended

end Sound

/-- However the steps of any callers are interleaved, initialization publishes atomically. -/
theorem publishes_atomically [DecidableEq ι] (callers : ι → Caller τ ρ κ ς β) (outside : τ)
    (log : List LogLine) (schedule : List ι) :
    Atomic callers (opening callers outside log) schedule := by
  have hopening := sound_opening callers outside log
  obtain ⟨phases, hsound, _⟩ := hopening.run schedule
  have hgrows : ∀ later, Grows ((opening callers outside log).run schedule).shared.backend
      ((opening callers outside log).run (schedule ++ later)).shared.backend := by
    intro later
    obtain ⟨_, _, hlater⟩ := hsound.run later
    rw [Pool.run_append]
    exact hlater.grows
  constructor
  case together => exact hsound.publishedBy_of_isSet
  case cache_kept => exact fun later => (hgrows later).cache
  case runtime_kept => exact fun later => (hgrows later).registry
  case started_published => exact fun i => hsound.publishedBy_of_started
  case started_single => exact fun i j => hsound.started_unique
  case refused =>
    intro i hended hrefused front back hschedule hwrites
    obtain ⟨_, hfront, _⟩ := hopening.run front
    subst hschedule
    rw [Pool.run_append] at hended hrefused
    rw [Writes, Pool.run_append] at hwrites
    exact hrefused (hfront.started_of_change hwrites back hended)
  case reason => exact fun i e => hsound.reason
  case panic_reason =>
    exact fun i panic hended => (hsound.consistent.fits i).panicked (hsound.ends hended)
  case seen => exact fun i sightings hended => (hsound.ends hended).confirmed
  case comes_back =>
    intro i
    simp only [Pool.run_append]
    exact Pool.exists_run_ended _ i
  case whole => exact hsound.isSet_eq_isInitialized
  case settled =>
    intro hsettled ⟨i, caps, hresolved⟩
    exact hsound.started_of_resolved hsettled hresolved

end Race

end ManagedBridge.Startup
