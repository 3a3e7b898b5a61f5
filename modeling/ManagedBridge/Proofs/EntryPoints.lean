import ManagedBridge.Jvm.CInterface
import ManagedBridge.Proofs.Totality

/-!
# The entry points of the bridge

A host reaches the bridge to a virtual machine through the entry points listed here, and each of
them returns. A start of a bridge that holds nothing fills it or leaves it as it was. A start of a
bridge that holds a runtime fails, and no other entry point touches what the bridge holds.
-/

namespace ManagedBridge

namespace Bridge

variable {σ ρ κ ς β : Type} (place : Place σ (Bridge ρ κ)) (runtime : ρ)
  (ctx : CallContext σ κ ς β) {s u : Site σ}

theorem run_start_set (h : (place.get s.backend).registry.isSet = true) :
    (start place runtime ctx).run s = (.ok (.error (.alreadyInitialized "runtime")), s) := by
  rw [start, Routine.run_bind, Call.run_read]
  simp only [h, if_true]
  rfl

theorem run_start_refused {e : RuntimeError} (hempty : place.get s.backend = {})
    (h : ctx.resolveCapabilities.run s = (.ok (.error e), u)) :
    (start place runtime ctx).run s =
      (.ok (.error (.ofRuntime "resolve_capabilities" 0 e)), u) := by
  have hfill : (CapabilityCache.fill (place.inside cachePlace) ctx).run s =
      (.ok (.error (.ofRuntime "resolve_capabilities" 0 e)), u) := by
    rw [CapabilityCache.fill, Routine.run_bind, Call.run_read]
    simp only [Place.inside, hempty]
    exact Routine.run_bind_ok h _
  rw [start, Routine.run_bind, Call.run_read]
  simp only [hempty]
  exact Routine.run_bind_ok hfill _

theorem run_start_ok {caps : κ} (hplace : place.Lawful) (hempty : place.get s.backend = {})
    (h : ctx.resolveCapabilities.run s = (.ok (.ok caps), u)) (hkept : place.get u.backend = {}) :
    (start place runtime ctx).run s =
      (.ok (.ok ()), ⟨place.set ⟨⟨some runtime⟩, ⟨some caps⟩⟩ u.backend,
        initializedLine :: CapabilityCache.initializedLine :: u.log⟩) := by
  have hfill : (CapabilityCache.fill (place.inside cachePlace) ctx).run s =
      (.ok (.ok ()), ⟨place.set ⟨{}, ⟨some caps⟩⟩ u.backend,
        CapabilityCache.initializedLine :: u.log⟩) := by
    rw [CapabilityCache.fill, Routine.run_bind, Call.run_read]
    simp only [Place.inside, hempty]
    refine (Routine.run_bind_ok h _).trans ?_
    simp only [Routine.run_bind, Call.run_tryModify, hkept]
    rfl
  rw [start, Routine.run_bind, Call.run_read]
  simp only [hempty]
  refine (Routine.run_bind_ok hfill _).trans ?_
  simp only [Routine.run_bind, Call.run_tryModify, Place.inside, hplace.get_set]
  simp only [registryPlace, RuntimeRegistry.set, RuntimeRegistry.isSet, hplace.set_set]
  rfl

end Bridge

end ManagedBridge

namespace ManagedBridge.Jvm

open Process CInterface

variable {μ ε α : Type}

/-- The entry points of the bridge with their arguments, and the type of their answers. A scope that
is bound to a body is its `attach`, the calls of the body, and its `exit`. A release is given the
memory of its caller, and has an answer if what it is to free is in use. -/
inductive EntryPoint (ε : Type) : Type → Type
  | load (pointer : VmPointer) : EntryPoint ε Int
  | startFromC (pointer : Option VmPointer) (env : Option ε) : EntryPoint ε Int
  | start (pointer : VmPointer) (env : ε) (config : BridgeConfig) :
    EntryPoint ε (Except BridgeError Unit)
  | globalVm : EntryPoint ε (Option VmPointer)
  | getString (env : Option ε) (string : Ref) : EntryPoint ε (Option (List UInt8))
  | newString (env : Option ε) (block? : Option (List UInt8)) : EntryPoint ε Ref
  | catchException (env : Option ε) : EntryPoint ε Bool
  | attachThread (scope? : Option (Scope ε)) : EntryPoint ε (Int × Option (Scope ε))
  | detachThread (scope? : Option (Scope ε)) : EntryPoint ε (Option (Scope ε))
  | releaseString (heap : Heap) (slot? : Option Pointer) :
    EntryPoint ε (Option (Option Pointer × Heap))
  | nativeFromManaged (c : Context ε) (string : Ref) :
    EntryPoint ε (Except BridgeError (Option ByteBuffer))
  | managedFromNative (c : Context ε) (bytes? : Option (List UInt8)) :
    EntryPoint ε (Except BridgeError Ref)
  | stringFromManaged (c : Context ε) (string : Ref) :
    EntryPoint ε (Except BridgeError (Option String))
  | drain (c : Context ε) : EntryPoint ε Bool
  | attach : EntryPoint ε (Except BridgeError (Runtime × Context ε × Attachment))
  | exit (rt : Runtime) (a : Attachment) : EntryPoint ε Unit

namespace EntryPoint

/-- What an entry point does when a thread calls it. -/
def perform (vm : InvocationInterface μ ε) (t : ThreadId) : EntryPoint ε α → Act (Process μ) α
  | load pointer => (Process.load vm t pointer).inWorld
  | startFromC pointer env => (CInterface.start vm t pointer env).inWorld
  | start pointer env config => (Process.start vm t pointer env config).inWorld
  | globalVm => CInterface.globalVm.inWorld
  | getString env string => CInterface.getString vm t env string
  | newString env block? => CInterface.newString vm t env block?
  | catchException env => CInterface.catchException vm t env
  | attachThread scope? => CInterface.attachThread vm t scope?
  | detachThread scope? => CInterface.detachThread vm t scope?
  | releaseString heap slot? => return CInterface.releaseString heap slot?
  | nativeFromManaged c string => Process.nativeFromManaged vm t c string
  | managedFromNative c bytes? => Process.managedFromNative vm t c bytes?
  | stringFromManaged c string => Process.stringFromManaged vm t c string
  | drain c => ManagedBridge.drain (context vm t c)
  | attach => Bridge.attach bridgePlace (runtime vm t)
  | exit rt a => Attachment.exit (runtime vm t rt) a

/-- Whether the entry point starts the bridge. -/
def isStart : EntryPoint ε α → Bool
  | load _ | startFromC _ _ | start _ _ _ => true
  | _ => false

/-- Whether the answer reports that the bridge was started. -/
def succeeded : EntryPoint ε α → α → Bool
  | load _, status => status == requiredVersion
  | startFromC _ _, status => status == successCode
  | start _ _ _, result => result.isOk
  | _, _ => false

/-- Whether the answer reports that the bridge could not be started. -/
def failed : EntryPoint ε α → α → Bool
  | load _, status | startFromC _ _, status => status == failureCode
  | start _ _ _, result => !result.isOk
  | _, _ => false

/-- The machine and the settings that a start is to register, if it gets that far. -/
def request (settings : Option (List UInt8)) : EntryPoint ε α → Option Runtime
  | load pointer | startFromC (some pointer) _ =>
    match BridgeConfig.ofEnvironment settings with
    | .ok config => some ⟨pointer, config⟩
    | .error _ => none
  | start pointer _ config => some ⟨pointer, config⟩
  | _ => none

/-- How the C interface answers while the bridge is not started: null, no, and failure. A scope that
it is given is emptied. -/
def refusal? : EntryPoint ε α → Option α
  | globalVm | getString _ _ | newString _ _ => some none
  | catchException _ => some false
  | attachThread scope? => some (failureCode, scope?.map fun _ => {})
  | detachThread scope? => some (scope?.map fun _ => {})
  | _ => none

end EntryPoint

/-- A thread has resolved capabilities by these settings, and the bridge holds them now, with the
runtime. -/
def Started (vm : InvocationInterface μ ε) (t : ThreadId) (rt : Runtime) (p : Process μ) : Prop :=
  ∃ env caps, ∃ s left : Site (Link μ),
    ((⟨env, rt.config⟩ : Context ε).resolve vm t).run.run s = (.ok (.ok caps), left) ∧
      p.link = left.backend ∧ p.bridge = ⟨⟨some rt⟩, ⟨some caps⟩⟩

/-- Asking for an environment is one function of the machine. -/
theorem Checked.run_getEnv (vm : InvocationInterface μ ε) (t : ThreadId) (s : Site (Link μ)) :
    ∃ r, (getEnv vm t).run.run s = (.ok r,
      { s with backend := { s.backend with machine := (vm.getEnv t s.backend.machine).2 } }) := by
  have hstatus (out : Int32 × Option ε) : ∃ r, (orStatus out : Checked μ ε).run = pure r := by
    obtain ⟨code, env⟩ := out
    unfold orStatus
    dsimp only
    rcases Status.ofCode? code with _ | status
    · rcases env with _ | env
      · exact ⟨.error _, rfl⟩
      · exact ⟨.ok env, rfl⟩
    · exact ⟨.error _, rfl⟩
  obtain ⟨r, hr⟩ := hstatus (vm.getEnv t s.backend.machine).1
  refine ⟨r, ?_⟩
  show (orStatus (vm.getEnv t s.backend.machine).1 : Checked μ ε).run.run _ = _
  rw [hr]
  rfl

section Starting

variable (vm : InvocationInterface μ ε) (t : ThreadId) (pointer : VmPointer) (env : ε)
  (config : BridgeConfig)

theorem start_returns :
    (Process.start vm t pointer env config).Returns (·.bridge = {}) fun result p =>
      result = .ok () ∧ Started vm t ⟨pointer, config⟩ p ∨
        (∃ e, result = .error e) ∧ p.bridge = {} := by
  intro s hempty
  let ctx := context vm t ⟨env, config⟩
  obtain ⟨r, left, hresolve, -⟩ :=
    Context.resolve_ends vm t ⟨env, config⟩ (linkPlace.site.get s) trivial
  have hzoom : ctx.resolveCapabilities.run s =
      (.ok r, linkPlace.site.set left s) := by
    have halone : ((⟨env, config⟩ : Context ε).operations vm t).resolveCapabilities.run
        (linkPlace.site.get s) = (.ok r, left) := hresolve
    refine (Call.run_zoom lawful_linkPlace _ s).trans ?_
    rw [halone]
  cases r with
  | error e =>
    have hstart := Bridge.run_start_refused bridgePlace ⟨pointer, config⟩ ctx hempty hzoom
    exact ⟨_, _, Routine.run_bind_ok hstart _, .inr ⟨⟨_, rfl⟩, hempty⟩⟩
  | ok caps =>
    have hstart := Bridge.run_start_ok bridgePlace ⟨pointer, config⟩ ctx lawful_bridgePlace hempty
      hzoom hempty
    refine ⟨_, _, Routine.run_bind_ok hstart _, .inl ⟨rfl, env, caps, _, left, hresolve, rfl, rfl⟩⟩

theorem startLogged_returns (success : Int) :
    (startLogged vm t pointer env config success).Returns (·.bridge = {}) fun status p =>
      status = success ∧ Started vm t ⟨pointer, config⟩ p ∨
        status = failureCode ∧ p.bridge = {} := by
  refine (start_returns vm t pointer env config).bind ?_
  rintro (e | _)
  · refine fun s hs => ⟨_, _, rfl, .inr ⟨rfl, ?_⟩⟩
    simpa using hs
  · refine fun s hs => ⟨_, _, rfl, .inl ⟨rfl, ?_⟩⟩
    simpa using hs

theorem readSettings_returns (settings : Option (List UInt8)) :
    (readSettings : Call (Process μ) _).Returns (fun p => p.bridge = {} ∧ p.settings = settings)
      fun r p => r = BridgeConfig.ofEnvironment settings ∧ p.bridge = {} :=
  Call.returns_step fun _ hs => ⟨by rw [hs.2], hs.1⟩

theorem refused_returns {P : Site (Process μ) → Prop} {Q : α → Site (Process μ) → Prop}
    {message reason : String} {answer : α}
    (h : ∀ s log, P s → Q answer { s with log }) :
    Routine.Returns P (refused message reason answer) Q :=
  fun s hs => ⟨answer, _, rfl, h s _ hs⟩

theorem refused_inWorld_returns {P : World (Process μ) → Prop}
    {Q : α → World (Process μ) → Prop} {message reason : String} {answer : α}
    (h : ∀ w log, P w → Q answer { w with log }) :
    Routine.Returns P (refused message reason answer).inWorld Q :=
  fun w hw => ⟨answer, _, rfl, h w _ hw⟩

/-- Asking for an environment changes nothing but the machine. -/
theorem getEnv_returns (p : Process μ) :
    (Call.zoom linkPlace (Checked.getEnv vm t).run).Returns (· = p) fun _ q =>
      q = { p with link := { p.link with machine := (vm.getEnv t p.link.machine).2 } } := by
  rintro s rfl
  obtain ⟨r, hrun⟩ := Checked.run_getEnv vm t (linkPlace.site.get s)
  have hzoom := Call.run_zoom lawful_linkPlace (Checked.getEnv vm t).run s
  rw [hrun] at hzoom
  exact ⟨r, _, hzoom, rfl⟩

theorem load_returns (settings : Option (List UInt8)) :
    (load vm t pointer).Returns (fun p => p.bridge = {} ∧ p.settings = settings) fun status p =>
      status = requiredVersion ∧
        (∃ config, BridgeConfig.ofEnvironment settings = .ok config ∧
          Started vm t ⟨pointer, config⟩ p) ∨
        status = failureCode ∧ p.bridge = {} := by
  refine (readSettings_returns settings).bind_value ?_
  cases hconfig : BridgeConfig.ofEnvironment settings with
  | error e => exact refused_returns fun _ _ hs => .inr ⟨rfl, hs⟩
  | ok config =>
    have hgetEnv : (Call.zoom linkPlace (Checked.getEnv vm t).run).Returns
        (fun p : Process μ => p.bridge = {}) fun _ p => p.bridge = {} := by
      intro s hs
      obtain ⟨a, u, hrun, hu⟩ := getEnv_returns vm t s.backend s rfl
      exact ⟨a, u, hrun, (congrArg Process.bridge hu).trans hs⟩
    refine hgetEnv.bind ?_
    rintro (e | env)
    · exact refused_returns fun _ _ hs => .inr ⟨rfl, hs⟩
    · refine (startLogged_returns vm t pointer env config requiredVersion).mono ?_
      rintro status p (⟨hstatus, hstarted⟩ | hfailed)
      · exact .inl ⟨hstatus, config, rfl, hstarted⟩
      · exact .inr hfailed

theorem startFromC_returns (pointer : Option VmPointer) (env : Option ε)
    (settings : Option (List UInt8)) :
    (CInterface.start vm t pointer env).Returns (fun p => p.bridge = {} ∧ p.settings = settings)
      fun status p =>
        status = successCode ∧
          (∃ address config, pointer = some address ∧
            BridgeConfig.ofEnvironment settings = .ok config ∧
              Started vm t ⟨address, config⟩ p) ∨
          status = failureCode ∧ p.bridge = {} := by
  refine (readSettings_returns settings).bind_value ?_
  cases hconfig : BridgeConfig.ofEnvironment settings with
  | error e => exact refused_returns fun _ _ hs => .inr ⟨rfl, hs⟩
  | ok config =>
    cases pointer with
    | none => exact refused_returns fun _ _ hs => .inr ⟨rfl, hs⟩
    | some address =>
      cases env with
      | none => exact refused_returns fun _ _ hs => .inr ⟨rfl, hs⟩
      | some env =>
        refine (startLogged_returns vm t address env config successCode).mono ?_
        rintro status p (⟨hstatus, hstarted⟩ | hfailed)
        · exact .inl ⟨hstatus, address, config, rfl, rfl, hstarted⟩
        · exact .inr hfailed

variable {p : Process μ}

theorem start_refused (hset : p.bridge.registry.isSet = true) :
    (Process.start vm t pointer env config).Returns (· = p) fun result q =>
      result = .error (.alreadyInitialized "runtime") ∧ q = p := by
  rintro s rfl
  have hstart := Bridge.run_start_set bridgePlace ⟨pointer, config⟩
    (context vm t ⟨env, config⟩) hset
  exact ⟨_, _, Routine.run_bind_ok hstart _, rfl, rfl⟩

theorem startLogged_refused (hset : p.bridge.registry.isSet = true) (success : Int) :
    (startLogged vm t pointer env config success).Returns (· = p) fun status q =>
      status = failureCode ∧ q = p :=
  (start_refused vm t pointer env config hset).bind_value
    (refused_returns fun _ _ hs => ⟨rfl, hs⟩)

theorem load_refused (hset : p.bridge.registry.isSet = true) :
    (load vm t pointer).Returns (· = p) fun status q =>
      status = failureCode ∧ (q = p ∨
        q = { p with link := { p.link with machine := (vm.getEnv t p.link.machine).2 } }) := by
  have hread : (readSettings : Call (Process μ) _).Returns (· = p) fun _ q => q = p :=
    Call.returns_step fun _ => id
  refine hread.bind ?_
  rintro (e | config)
  · exact refused_returns fun _ _ hs => ⟨rfl, .inl hs⟩
  · refine (getEnv_returns vm t p).bind ?_
    rintro (e | env)
    · exact refused_returns fun _ _ hs => ⟨rfl, .inr hs⟩
    · refine (startLogged_refused vm t pointer env config ?_ requiredVersion).mono ?_
      · exact hset
      · exact fun _ _ hs => ⟨hs.1, .inr hs.2⟩

theorem startFromC_refused (hset : p.bridge.registry.isSet = true) (pointer : Option VmPointer)
    (env : Option ε) :
    (CInterface.start vm t pointer env).Returns (· = p) fun status q =>
      status = failureCode ∧ q = p := by
  have hread : (readSettings : Call (Process μ) _).Returns (· = p) fun _ q => q = p :=
    Call.returns_step fun _ => id
  refine hread.bind ?_
  rintro (e | config)
  · exact refused_returns fun _ _ hs => ⟨rfl, hs⟩
  · rcases pointer with _ | address
    · exact refused_returns fun _ _ hs => ⟨rfl, hs⟩
    · rcases env with _ | env
      · exact refused_returns fun _ _ hs => ⟨rfl, hs⟩
      · exact startLogged_refused vm t address env config hset successCode

end Starting

section Using

variable (vm : InvocationInterface μ ε) (t : ThreadId)

theorem callerContext_returns (env : Option ε) (whole : Process μ) :
    (callerContext env).Returns (Beside whole) fun _ => Beside whole := by
  refine (Call.returns_read bridgePlace).bind fun bridge => ?_
  rcases bridge.runtime with e | rt
  · exact refused_returns fun _ _ => id
  · rcases env with _ | env
    · exact refused_returns fun _ _ => id
    · exact .pure fun _ => id

/-- A call from C that goes on with the context of its caller, or ends if there is none. -/
theorem withCaller_returns {env : Option ε} {whole : Process μ}
    {next : Option (Context ε) → Act (Process μ) α} {a : α} (hnone : next none = pure a)
    (hsome : ∀ c, (next (some c)).Returns (Beside whole) fun _ => Beside whole) :
    Act.Returns (Beside whole) (liftM (callerContext env : Call (Process μ) _) >>= next)
      fun _ => Beside whole := by
  refine (callerContext_returns env whole).monadLift.bind ?_
  rintro (_ | c)
  · rw [hnone]
    exact .pure fun _ => id
  · exact hsome c

theorem globalVm_returns (p : Process μ) :
    CInterface.globalVm.Returns (· = p) fun answer q =>
      answer = p.bridge.registry.slot.map Runtime.vm ∧ q = p := by
  rintro s rfl
  cases hslot : s.backend.bridge.registry.slot with
  | none =>
    refine ⟨none, s, (Routine.run_bind_ok (Call.run_read bridgePlace s) _).trans ?_, rfl, rfl⟩
    simp [bridgePlace, Bridge.runtime, RuntimeRegistry.get, hslot]
  | some rt =>
    refine ⟨some rt.vm, s, (Routine.run_bind_ok (Call.run_read bridgePlace s) _).trans ?_, rfl, rfl⟩
    simp [bridgePlace, Bridge.runtime, RuntimeRegistry.get, hslot]

theorem managedFromNative_returns (c : Context ε) (bytes? : Option (List UInt8))
    (whole : Process μ) :
    (Process.managedFromNative vm t c bytes?).Returns (Beside whole) fun _ => Beside whole := by
  refine ((context_reliable vm t c whole).managedFromNative bridgePlace 0 bytes?).bind ?_
  rintro (e | string) <;> exact .pure fun _ => id

/-- Only a start touches anything but the link to the machine. -/
theorem perform_beside {call : EntryPoint ε α} (h : call.isStart = false) (whole : Process μ) :
    (call.perform vm t).Returns (Beside whole) fun _ => Beside whole := by
  cases call with
  | load | startFromC | start => cases h
  | globalVm =>
    rintro w hw
    obtain ⟨answer, v, hrun, -, hv⟩ := (globalVm_returns w.backend).monadLift w rfl
    exact ⟨answer, v, hrun, (congrArg (Beside whole) hv).mpr hw⟩
  | getString env string =>
    rcases string with _ | string
    · exact .pure fun _ => id
    · refine withCaller_returns rfl fun c => ?_
      refine ((context_reliable vm t c whole).nativeFromManaged bridgePlace 0 _).bind ?_
      rintro (e | buffer)
      · exact (Act.returns_note _).bind fun _ => .pure fun _ => id
      · exact .pure fun _ => id
  | newString env block? =>
    rcases block? with _ | block
    · exact .pure fun _ => id
    · refine withCaller_returns rfl fun c => ?_
      refine (managedFromNative_returns vm t c _ whole).bind ?_
      rintro (e | string)
      · exact (Act.returns_note _).bind fun _ => .pure fun _ => id
      · exact .pure fun _ => id
  | catchException env =>
    exact withCaller_returns rfl fun c => (context_reliable vm t c whole).drain 0
  | attachThread scope? =>
    rcases scope? with _ | scope
    · exact .pure fun _ => id
    · refine (Call.returns_read bridgePlace).monadLift.bind fun bridge => ?_
      rcases bridge.runtime with e | rt
      · exact (refused_inWorld_returns fun _ _ => id).bind fun _ => .pure fun _ => id
      · refine (enter_returns vm t rt whole).bind ?_
        rintro (e | ⟨c, attachment⟩) <;> exact .pure fun _ => id
  | detachThread scope? =>
    rcases scope? with _ | scope
    · exact .pure fun _ => id
    · simp only [EntryPoint.perform, CInterface.detachThread]
      split
      · refine (Call.returns_read bridgePlace).monadLift.bind fun bridge => ?_
        rcases bridge.runtime with e | rt
        · exact (refused_inWorld_returns fun _ _ => id).bind fun _ => .pure fun _ => id
        · exact (exit_returns vm t rt _ whole).bind fun _ => .pure fun _ => id
      · exact .pure fun _ => id
  | releaseString heap slot? => exact .pure fun _ => id
  | nativeFromManaged c string =>
    exact (context_reliable vm t c whole).nativeFromManaged bridgePlace 0 _
  | managedFromNative c bytes? => exact managedFromNative_returns vm t c bytes? whole
  | stringFromManaged c string =>
    exact (context_reliable vm t c whole).stringFromManaged bridgePlace 0 _
  | drain c => exact (context_reliable vm t c whole).drain 0
  | attach =>
    refine (Call.returns_read bridgePlace).monadLift.bind fun bridge => ?_
    rcases bridge.runtime with e | rt
    · exact .pure fun _ => id
    · refine (enter_returns vm t rt whole).bind ?_
      rintro (e | ⟨c, attachment⟩) <;> exact .pure fun _ => id
  | exit rt a => exact exit_returns vm t rt a whole

variable {p : Process μ}

theorem callerContext_refused (hempty : p.bridge = {}) (env : Option ε) :
    (callerContext env).Returns (· = p) fun c? q => c? = none ∧ q = p := by
  have hread : (Call.read bridgePlace).Returns (· = p) fun bridge q => bridge = {} ∧ q = p :=
    Call.returns_step fun q hq => ⟨by rw [hq]; exact hempty, hq⟩
  exact hread.bind_value (refused_returns fun _ _ hs => ⟨rfl, hs⟩)

theorem perform_refused {call : EntryPoint ε α} {answer : α} (h : call.refusal? = some answer)
    (hempty : p.bridge = {}) :
    (call.perform vm t).Returns (· = p) fun a q => a = answer ∧ q = p := by
  have hread : (Call.read bridgePlace).Returns (· = p) fun bridge q => bridge = {} ∧ q = p :=
    Call.returns_step fun q hq => ⟨by rw [hq]; exact hempty, hq⟩
  cases call with
  | globalVm =>
    cases h
    refine (globalVm_returns p).monadLift.mono ?_
    rintro a w ⟨ha, hw⟩
    exact ⟨by rw [ha, hempty]; rfl, hw⟩
  | getString env string =>
    cases h
    rcases string with _ | string
    · exact .pure_value _
    · exact (callerContext_refused hempty env).monadLift.bind_value (.pure_value _)
  | newString env block? =>
    cases h
    rcases block? with _ | block
    · exact .pure_value _
    · exact (callerContext_refused hempty env).monadLift.bind_value (.pure_value _)
  | catchException env =>
    cases h
    exact (callerContext_refused hempty env).monadLift.bind_value (.pure_value _)
  | attachThread scope? =>
    cases h
    rcases scope? with _ | scope
    · exact .pure_value _
    · refine hread.monadLift.bind_value ?_
      exact (refused_inWorld_returns fun _ _ hw => ⟨rfl, hw⟩).bind_value (.pure_value _)
  | detachThread scope? =>
    cases h
    rcases scope? with _ | scope
    · exact .pure_value _
    · simp only [EntryPoint.perform, CInterface.detachThread]
      split
      · refine hread.monadLift.bind_value ?_
        exact (refused_inWorld_returns fun _ _ hw => ⟨rfl, hw⟩).bind_value (.pure_value _)
      · exact .pure_value _
  | _ => cases h

end Using

section Entries

variable (vm : InvocationInterface μ ε) (t : ThreadId) {call : EntryPoint ε α}
  {w : World (Process μ)}

/-- A start of a bridge that holds nothing succeeds as a whole or leaves it so. -/
theorem perform_start (hstart : call.isStart = true) (hempty : w.backend.bridge = {}) :
    ∃ answer v, (call.perform vm t).run w = (.ok answer, v) ∧
      call.succeeded answer = !call.failed answer ∧
      (call.succeeded answer = true → ∃ rt, call.request w.backend.settings = some rt ∧
        Started vm t rt v.backend) ∧
      (call.succeeded answer = false → v.backend.bridge = {}) := by
  cases call with
  | load pointer =>
    obtain ⟨status, v, hrun, hstatus⟩ :=
      (load_returns vm t pointer w.backend.settings).monadLift w ⟨hempty, rfl⟩
    refine ⟨status, v, hrun, ?_⟩
    rcases hstatus with ⟨rfl, config, hconfig, hstarted⟩ | ⟨rfl, hleft⟩
    · refine ⟨rfl, fun _ => ⟨_, ?_, hstarted⟩, nofun⟩
      simp only [EntryPoint.request, hconfig]
    · exact ⟨rfl, nofun, fun _ => hleft⟩
  | startFromC pointer env =>
    obtain ⟨status, v, hrun, hstatus⟩ :=
      (startFromC_returns vm t pointer env w.backend.settings).monadLift w ⟨hempty, rfl⟩
    refine ⟨status, v, hrun, ?_⟩
    rcases hstatus with ⟨rfl, address, config, rfl, hconfig, hstarted⟩ | ⟨rfl, hleft⟩
    · refine ⟨rfl, fun _ => ⟨_, ?_, hstarted⟩, nofun⟩
      simp only [EntryPoint.request, hconfig]
    · exact ⟨rfl, nofun, fun _ => hleft⟩
  | start pointer env config =>
    obtain ⟨result, v, hrun, hresult⟩ :=
      (start_returns vm t pointer env config).monadLift w hempty
    refine ⟨result, v, hrun, ?_⟩
    rcases hresult with ⟨rfl, hstarted⟩ | ⟨⟨e, rfl⟩, hleft⟩
    · exact ⟨rfl, fun _ => ⟨_, rfl, hstarted⟩, nofun⟩
    · exact ⟨rfl, nofun, fun _ => hleft⟩
  | _ => cases hstart

/-- A start of a bridge that holds a runtime fails. At most it asks for an environment. -/
theorem perform_restart (hstart : call.isStart = true)
    (hset : w.backend.bridge.registry.isSet = true) :
    ∃ answer v, (call.perform vm t).run w = (.ok answer, v) ∧
      call.failed answer = true ∧ call.succeeded answer = false ∧
      (v.backend = w.backend ∨ v.backend = { w.backend with
        link := { w.backend.link with machine := (vm.getEnv t w.backend.link.machine).2 } }) := by
  cases call with
  | load pointer =>
    obtain ⟨status, v, hrun, rfl, hleft⟩ := (load_refused vm t pointer hset).monadLift w rfl
    exact ⟨_, v, hrun, rfl, rfl, hleft⟩
  | startFromC pointer env =>
    obtain ⟨status, v, hrun, rfl, hleft⟩ :=
      (startFromC_refused vm t hset pointer env).monadLift w rfl
    exact ⟨_, v, hrun, rfl, rfl, .inl hleft⟩
  | start pointer env config =>
    obtain ⟨result, v, hrun, rfl, hleft⟩ :=
      (start_refused vm t pointer env config hset).monadLift w rfl
    exact ⟨_, v, hrun, rfl, rfl, .inl hleft⟩
  | _ => cases hstart

/-- One call: it returns, and unless it reports success the bridge stays as it is. -/
theorem perform_returns (call : EntryPoint ε α) (w : World (Process μ))
    (hwhole : w.backend.bridge = {} ∨ w.backend.bridge.registry.isSet = true) :
    ∃ answer v, (call.perform vm t).run w = (.ok answer, v) ∧
      (call.isStart = true → call.succeeded answer = !call.failed answer) ∧
      (call.succeeded answer = false → v.backend.bridge = w.backend.bridge) ∧
      (call.succeeded answer = true → w.backend.bridge = {} ∧
        ∃ rt, call.request w.backend.settings = some rt ∧ Started vm t rt v.backend) := by
  cases hstart : call.isStart with
  | false =>
    obtain ⟨answer, v, hrun, hbeside⟩ :=
      perform_beside vm t hstart w.backend w (.refl w.backend)
    have hquiet : call.succeeded answer = false := by cases call <;> first | rfl | cases hstart
    refine ⟨answer, v, hrun, nofun, fun _ => hbeside.bridge_eq, fun hsucceeded => ?_⟩
    rw [hquiet] at hsucceeded
    cases hsucceeded
  | true =>
    rcases hwhole with hempty | hset
    · obtain ⟨answer, v, hrun, hreport, hstarted, hleft⟩ := perform_start vm t hstart hempty
      exact ⟨answer, v, hrun, fun _ => hreport, fun h => (hleft h).trans hempty.symm,
        fun h => ⟨hempty, hstarted h⟩⟩
    · obtain ⟨answer, v, hrun, hfailed, hquiet, hleft⟩ := perform_restart vm t hstart hset
      refine ⟨answer, v, hrun, fun _ => by rw [hfailed, hquiet]; rfl, fun _ => ?_, fun h => ?_⟩
      · rcases hleft with h | h <;> rw [h]
      · rw [hquiet] at h
        cases h

end Entries

end ManagedBridge.Jvm
