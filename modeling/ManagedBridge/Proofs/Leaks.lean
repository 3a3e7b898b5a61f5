import Mathlib.Data.Set.Lattice
import Mathlib.Order.CompletePartialOrder
import ManagedBridge.Proofs.SimulatedReferences

/-!
# References that a resolution leaves behind

A resolution of capabilities finds the class, looks up in it, finds the charset and keeps both by
global references. When it succeeds it has deleted every local reference that it took. When it fails
no global reference is left, but of the local ones only the name of the charset and the class of
charsets are deleted: what was found by then stays in use.
-/

namespace ManagedBridge.Jvm

variable {μ ε : Type}

namespace Context

/-- What is found beside the class. -/
structure Finding where
  constructor : MethodId
  getBytes : MethodId
  charset : Handle

/-- The methods of the class, and the charset. -/
def lookUp (jni : NativeInterface μ) (config : BridgeConfig) (cls : Handle) :
    Mapped μ Finding := do
  let constructor ← .ofChecked (Checked.getMethodId jni cls "<init>" constructorSignature)
  let getBytes ← .ofChecked (Checked.getMethodId jni cls "getBytes" getBytesSignature)
  let charset ← charsetForName jni config.charset
  return { constructor, getBytes, charset }

/-- Keeps the class and the charset by global references. -/
def pin (vm : InvocationInterface μ ε) (t : ThreadId) (c : Context ε) (cls : Handle)
    (finding : Finding) : Mapped μ Capabilities := do
  let jni := vm.functions c.env
  let stringClass ← .ofChecked (Checked.newGlobalRef jni cls)
  match ← .lift (Checked.newGlobalRef jni finding.charset).run with
  | .error e =>
    .lift (Link.dropGlobalRef vm t stringClass)
    throw e.toRuntime
  | .ok pinned =>
    .lift (dropLocal jni cls)
    .lift (dropLocal jni finding.charset)
    .lift (Call.note (resolvedLine c.config))
    return { stringClass, charset := pinned,
             constructor := finding.constructor, getBytes := finding.getBytes }

theorem resolve_eq (vm : InvocationInterface μ ε) (t : ThreadId) (c : Context ε) :
    c.resolve vm t = (do
      let cls ← .ofChecked (Checked.findClass (vm.functions c.env) c.config.stringClass)
      let finding ← lookUp (vm.functions c.env) c.config cls
      c.pin vm t cls finding) := by
  simp only [lookUp, pin, bind_assoc, pure_bind]
  rfl

/-- What a resolution from `s` leaves in use of what it took, if it fails. -/
inductive Abandons (jni : NativeInterface μ) (config : BridgeConfig) (s : Site (Link μ)) :
    Set Handle → Prop
  /-- Nothing is left if there is no class. -/
  | noClass (h : ∀ cls u, ¬ Succeeds (Checked.findClass jni config.stringClass) s cls u) :
      Abandons jni config s ∅
  /-- The class is left if it does not have the methods, or if there is no charset. -/
  | notFound {cls : Handle} {u : Site (Link μ)}
      (found : Succeeds (Checked.findClass jni config.stringClass) s cls u)
      (h : ∀ finding v, ¬ Succeeds (lookUp jni config cls) u finding v) :
      Abandons jni config s {cls}
  /-- Both are left if not both can be kept by global references. -/
  | notPinned {cls : Handle} {u v : Site (Link μ)} {finding : Finding}
      (found : Succeeds (Checked.findClass jni config.stringClass) s cls u)
      (complete : Succeeds (lookUp jni config cls) u finding v) :
      Abandons jni config s {cls, finding.charset}

section Resolution

open References

variable {R : References μ} {L G : Set Handle} {jni : NativeInterface μ}

theorem lookUp_leaves (h : jni.Tracks R) (config : BridgeConfig) (cls : Handle) :
    R.Leaves (lookUp jni config cls) fun finding => some finding.charset := by
  refine (getMethodId_leaves h (some cls) _ _).adapt.bind fun constructor => ?_
  refine (getMethodId_leaves h (some cls) _ _).adapt.bind fun getBytes => ?_
  exact (charsetForName_leaves h config.charset).pass fun charset => ⟨_, rfl, rfl⟩

variable {vm : InvocationInterface μ ε} {t : ThreadId} {c : Context ε}

/-- What is kept by global references is no longer kept by local ones, or it is as it was. -/
theorem pin_returns (h : vm.Tracks t c.env R) (cls : Handle) (finding : Finding)
    (hcls : Fresh (some cls) L)
    (hcharset : Fresh (some finding.charset) (added L (some cls))) :
    (c.pin vm t cls finding).run.Returns
      (fun l => R.At (added (added L (some cls)) (some finding.charset)) G l.machine)
      fun r l =>
        (∀ caps, r = .ok caps →
          R.At L (added (added G caps.stringClass) caps.charset) l.machine) ∧
        ∀ e, r = .error e →
          R.At (added (added L (some cls)) (some finding.charset)) G l.machine := by
  refine Routine.Returns.bind
    (returns_adapt (newGlobalRef_returns h.functions (some cls))) fun r => ?_
  rintro s ⟨kept, rfl, hs⟩
  cases kept with
  | error e => exact ⟨.error e.toRuntime, s, rfl, nofun, fun _ _ => hs.none_now⟩
  | ok stringClass =>
    have hpinned := newGlobalRef_returns (L := added (added L (some cls)) (some finding.charset))
      (G := added G stringClass) h.functions (some finding.charset)
    refine (returns_lift_bind hpinned fun pinned => ?_) s hs.now
    cases pinned with
    | error e =>
      intro s hs'
      refine (returns_lift_bind (dropGlobalRef_returns h stringClass) fun _ => ?_) s hs'.none_now
      have hfresh : Fresh stringClass G := hs.fresh
      rw [removed_added hfresh]
      exact fun s hs => ⟨.error e.toRuntime, s, rfl, nofun, fun _ _ => hs⟩
    | ok pinned =>
      intro s hs'
      refine (returns_lift_bind (dropLocal_returns h.functions (some cls)) fun _ => ?_) s hs'.now
      rw [removed_added_added hcls hcharset]
      refine returns_lift_bind (dropLocal_returns h.functions (some finding.charset)) fun _ => ?_
      rw [removed_added hcharset.of_added]
      refine fun s hs => ⟨.ok ⟨stringClass, pinned, finding.constructor, finding.getBytes⟩,
        { s with log := resolvedLine c.config :: s.log }, rfl, ?_, nofun⟩
      rintro _ ⟨rfl⟩
      exact hs

/-- Every call returns. One that succeeds has the local references that there were before; one that
fails has what was found, and no global reference more. -/
theorem resolve_returns (h : vm.Tracks t c.env R) {s : Site (Link μ)}
    (hs : R.At L G s.backend.machine) :
    ∃ r v, (c.resolve vm t).run.run s = (.ok r, v) ∧
      (∀ caps, r = .ok caps →
        R.At L (added (added G caps.stringClass) caps.charset) v.backend.machine) ∧
      ∀ e, r = .error e → ∃ lost, Abandons (vm.functions c.env) c.config s lost ∧
        Disjoint lost L ∧ R.At (L ∪ lost) G v.backend.machine := by
  rw [resolve_eq]
  obtain ⟨r, u, hclass, hu⟩ := findClass_leaves h.functions c.config.stringClass L G s hs
  cases r with
  | error e =>
    refine ⟨_, u, Routine.run_bind_ok (run_ofChecked_error hclass) _, nofun, fun _ _ => ?_⟩
    have hno (cls : Handle) (v : Site (Link μ)) :
        ¬ Succeeds (Checked.findClass (vm.functions c.env) c.config.stringClass) s cls v := by
      intro hv
      cases hclass.symm.trans hv
    exact ⟨∅, .noClass hno, by simp, (Set.union_empty L).symm ▸ hu.none_now⟩
  | ok cls =>
    have hcls : Fresh (some cls) L := hu.fresh
    have hnow : R.At (added L (some cls)) G u.backend.machine := hu.now
    rw [Succeeds.run_bind (Succeeds.ofChecked hclass)]
    obtain ⟨r, v, hlook, hv⟩ := lookUp_leaves h.functions c.config cls _ G u hnow
    cases r with
    | error e =>
      refine ⟨_, v, Routine.run_bind_ok hlook _, nofun, fun _ _ => ?_⟩
      have hno (finding : Finding) (x : Site (Link μ)) :
          ¬ Succeeds (lookUp (vm.functions c.env) c.config cls) u finding x := by
        intro hx
        cases hlook.symm.trans hx
      refine ⟨{cls}, .notFound hclass hno, ?_, added_some cls ▸ hv.none_now⟩
      simpa using fresh_some.1 hcls
    | ok finding =>
      have hcharset : Fresh (some finding.charset) (added L (some cls)) := hv.fresh
      rw [Succeeds.run_bind hlook]
      obtain ⟨r, x, hpin, hcaps, herror⟩ := pin_returns h cls finding hcls hcharset v hv.now
      refine ⟨r, x, hpin, hcaps, fun e he => ?_⟩
      refine ⟨{cls, finding.charset}, .notPinned hclass hlook, ?_, ?_⟩
      · have hother := fresh_some.1 hcharset.of_added
        simpa using ⟨fresh_some.1 hcls, hother⟩
      · have hafter := herror e he
        rwa [added_some, added_some, Set.union_assoc, Set.singleton_union] at hafter

theorem Abandons.eq_empty_iff {config : BridgeConfig} {s : Site (Link μ)} {lost : Set Handle}
    (h : Abandons jni config s lost) :
    lost = ∅ ↔ ∀ cls u, ¬ Succeeds (Checked.findClass jni config.stringClass) s cls u := by
  cases h with
  | noClass hno => exact ⟨fun _ => hno, fun _ => rfl⟩
  | notFound found _ =>
    exact ⟨fun hempty => absurd hempty (Set.singleton_ne_empty _),
      fun hno => absurd found (hno _ _)⟩
  | notPinned found _ =>
    exact ⟨fun hempty => absurd hempty (Set.insert_nonempty _ _).ne_empty,
      fun hno => absurd found (hno _ _)⟩

/-- To have as many references as before is to have lost none. -/
theorem union_eq_left_iff {lost : Set Handle} (hlost : Disjoint lost L) :
    L ∪ lost = L ↔ lost = ∅ := by
  rw [Set.union_eq_left]
  constructor
  · intro hsub
    exact disjoint_self.1 (hlost.mono_right hsub)
  · rintro rfl
    exact Set.empty_subset L

/-- A resolution returns. If it succeeds it leaves no local reference, and the global ones that it
has taken are those of its result. If it fails it leaves no global reference, but what it had found
by then is left in use: so no local reference is left only if it has not even found the class. -/
theorem resolveCapabilities_abandons (h : vm.Tracks t c.env R) (s : Site (Link μ))
    (hs : R.sound s.backend.machine) :
    ∃ r v, (c.operations vm t).resolveCapabilities.run s = (.ok r, v) ∧
      (∀ caps, r = .ok caps → R.locals v.backend.machine = R.locals s.backend.machine ∧
        R.globals v.backend.machine =
          added (added (R.globals s.backend.machine) caps.stringClass) caps.charset) ∧
      (∀ e, r = .error e → R.globals v.backend.machine = R.globals s.backend.machine ∧
        ∃ lost, Abandons (vm.functions c.env) c.config s lost ∧
          Disjoint lost (R.locals s.backend.machine) ∧
          R.locals v.backend.machine = R.locals s.backend.machine ∪ lost) ∧
      (R.locals v.backend.machine = R.locals s.backend.machine ↔ (∃ caps, r = .ok caps) ∨
        ∀ cls u, ¬ Succeeds
          (Checked.findClass (vm.functions c.env) c.config.stringClass) s cls u) := by
  obtain ⟨r, v, hrun, hcaps, herror⟩ := resolve_returns h (⟨hs, rfl, rfl⟩ : R.At _ _ _)
  refine ⟨r, v, hrun, fun caps hr => ⟨(hcaps caps hr).locals_eq, (hcaps caps hr).globals_eq⟩,
    fun e hr => ?_, ?_⟩
  · obtain ⟨lost, habandons, hlost, hafter⟩ := herror e hr
    exact ⟨hafter.globals_eq, lost, habandons, hlost, hafter.locals_eq⟩
  · cases r with
    | ok caps =>
      have hsame := (hcaps caps rfl).locals_eq
      simp [hsame]
    | error e =>
      obtain ⟨lost, habandons, hlost, hafter⟩ := herror e rfl
      rw [hafter.locals_eq, union_eq_left_iff hlost, habandons.eq_empty_iff]
      simp

end Resolution

end Context

namespace Machine

/-- A class of strings that cannot be read: its other method is not found, and the class is left in
use. -/
theorem unreadableClass_abandoned :
    let m : Machine :=
      attach { classes := ⟨[("demo/Text", { hasConstructor := true })]⟩ } (.worker 0)
    ∃ e v, ((Context.operations (invocation []) (.worker 0)
        ⟨.worker 0, { stringClass := "demo/Text" }⟩).resolveCapabilities).run ⟨⟨m, []⟩, []⟩ =
          (.ok (.error e), v) ∧
      (m.view (.worker 0)).locals = 0 ∧ (v.backend.machine.view (.worker 0)).locals = 1 :=
  ⟨.exceptionPending, _, rfl, rfl, rfl⟩

/-- A machine that once refuses to give a global reference, at the second time it is asked. -/
def unpinning : Machine := attach { faults := [⟨"GetJavaVM", 1, { code := -1 }⟩] } (.worker 0)

/-- The first global reference is given back; the class and the charset are left in use. -/
theorem resolveCapabilities_abandons_unpinning :
    ∃ e v, ((Context.operations (invocation []) (.worker 0)
        ⟨.worker 0, {}⟩).resolveCapabilities).run ⟨⟨unpinning, []⟩, []⟩ = (.ok (.error e), v) ∧
      v.backend.machine.held none = unpinning.held none ∧
      v.backend.machine.held (some (.worker 0)) ≠ unpinning.held (some (.worker 0)) := by
  have htracks : (invocation []).Tracks (.worker 0) (.worker 0) (references (.worker 0)) :=
    invocation_tracks List.not_mem_nil List.not_mem_nil List.not_mem_nil
  have hsound : (references (.worker 0)).sound unpinning := by
    refine ⟨rfl, nofun, fun shot hshot => ?_⟩
    obtain rfl := List.mem_singleton.1 hshot
    exact .inl rfl
  obtain ⟨r, v, hrun, -, herror, hsame⟩ := Context.resolveCapabilities_abandons
    (c := (⟨.worker 0, {}⟩ : Context ThreadId)) htracks ⟨⟨unpinning, []⟩, []⟩ hsound
  cases congrArg Prod.fst hrun
  refine ⟨_, v, hrun, (herror _ rfl).1, fun heq => ?_⟩
  obtain ⟨caps, hcaps⟩ | hnone := hsame.1 heq
  · cases hcaps
  · exact hnone Fault.codeBound _ rfl

end Machine

end ManagedBridge.Jvm
