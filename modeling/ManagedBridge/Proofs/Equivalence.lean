import Mathlib.Data.List.Basic
import ManagedBridge.Proofs.Performance
import ManagedBridge.Proofs.Rehearsal
import ManagedBridge.Proofs.SimulatedScopes

/-!
# Scripts come to the same everywhere

A script that drains what it raises before it goes on comes to the same over an in-process runtime
and over a virtual machine of which no function fails: to what is told of it, report by report.
-/

namespace ManagedBridge

open InProcess

/-- A thread is outside of all scopes of a willing runtime: detached, or attached with no exception
pending. -/
structure InProcess.Rests (t : ThreadId) (attached : Bool) (s : State) : Prop extends
    Willing s where
  record : (s.runtime.threads.get? t).map ThreadRecord.pending =
    if attached then some none else none

/-- Where a thread rests it stands outside of all scopes of a bridge with that runtime. -/
theorem InProcess.Rests.placed {ρ ι : Type} [DecidableEq ρ] {b : ι} {r : ρ} {t : ThreadId}
    {caps : Capabilities} {attached : Bool} {s : Installation ρ ι}
    (h : Rests t attached (s.runtimes r)) (hruntime : (s.bridges b).runtime = .ok r)
    (hcaps : (s.bridges b).capabilities = .ok caps) :
    ∃ position : Option ((ρ × ThreadId) × Bool), position.isSome = attached ∧
      Installation.Placed b r t caps position false [] s := by
  have hrecord := h.record
  cases attached with
  | false =>
    refine ⟨none, rfl, hruntime, hcaps, nofun, ⟨h.toWilling, fun _ => ?_, nofun, nofun⟩, nofun⟩
    exact (Runtime.standing_eq_detached ..).mpr (Option.map_eq_none_iff.mp hrecord)
  | true =>
    obtain ⟨record, hget, hpending⟩ := Option.map_eq_some_iff.mp hrecord
    refine ⟨some ((r, t), false), rfl, hruntime, hcaps, ?_, ⟨h.toWilling, nofun, ?_, nofun⟩, nofun⟩
    · rintro _ ⟨⟩
      rfl
    · exact fun _ _ => ⟨record, hget, by rw [hpending]; rfl⟩

namespace Jvm

variable {μ ε χ : Type}

/-- A thread is outside of all scopes of a machine: detached, and this side answers for nothing, or
attached with no exception pending. -/
inductive Rests (R : Reading μ ε χ) (Sound : μ → Prop) (t : ThreadId) : Bool → Link μ → Prop
  | detached {l : Link μ} (sound : Sound l.machine) (environment : R.environment l.machine t = none)
    (unguarded : t ∉ l.guarded) : Rests R Sound t false l
  | attached {l : Link μ} (env : ε) (environment : R.environment l.machine t = some env)
    (callable : R.callable l.machine env) (quiet : R.pending l.machine env = false) :
    Rests R Sound t true l

/-- Where a thread rests it stands outside of all scopes. -/
theorem Rests.standsAs {R : Reading μ ε χ} {Sound : μ → Prop} {x : Setting χ} {attached : Bool}
    {l : Link μ} (h : Rests R Sound x.thread attached l)
    (resolved : Resolved R x.runtime.config.stringClass x.charset x.caps l.machine) :
    ∃ position : Option (Context ε × Bool), position.isSome = attached ∧
      StandsAs R Sound x position false [] l := by
  cases h with
  | detached sound environment unguarded =>
    exact ⟨none, rfl, .away sound environment resolved unguarded⟩
  | attached env environment callable quiet =>
    have hpresent : StandsAs R Sound x (some (⟨env, x.runtime.config⟩, false))
        (R.pending l.machine env) [] l :=
      .present ⟨callable, environment, resolved, fun _ _ hmem => nomatch hmem⟩ nofun
    rw [quiet] at hpresent
    exact ⟨_, rfl, hpresent⟩

/-- A start that succeeds gives the bridge its runtime. -/
theorem Process.start_registers {vm : InvocationInterface μ ε} {t : ThreadId}
    {pointer : VmPointer} {env : ε} {config : BridgeConfig} {s u : Site (Process μ)}
    (hempty : s.backend.bridge = {})
    (started : (Process.start vm t pointer env config).run s = (.ok (.ok ()), u)) :
    u.backend.bridge.runtime = .ok ⟨pointer, config⟩ := by
  obtain ⟨_, _, hrun, ⟨-, _, _, _, _, -, -, hbridge⟩ | ⟨⟨e, rfl⟩, -⟩⟩ :=
    start_returns vm t pointer env config s hempty
  · cases hrun.symm.trans started
    rw [hbridge]
    rfl
  · cases hrun.symm.trans started

/-- A start that succeeds, and in which nothing fails, gives the bridge capabilities as well, for
the charset that it was to have. -/
theorem Process.start_provides {vm : InvocationInterface μ ε} {R : Reading μ ε χ} {C : Charsets χ}
    {t : ThreadId} {pointer : VmPointer} {env : ε} {config : BridgeConfig}
    {s u : Site (NotedProcess μ)}
    (faithful : (vm.functions env).Faithful R C config.stringClass env)
    (hempty : s.backend.bridge = {}) (hsound : R.callable s.backend.link.machine.1 env)
    (hcurrent : R.environment s.backend.link.machine.1 t = some env)
    (started : (Process.start (vm.recorded Prod.mk) t pointer env config).run s =
      (.ok (.ok ()), u))
    (calm : ¬ Failed vm R t u.backend.link) :
    ∃ cs caps, C.named config.charset = some cs ∧
      Resolved R.noted config.stringClass cs caps u.backend.link.machine ∧
      u.backend.bridge.runtime = .ok ⟨pointer, config⟩ ∧
      u.backend.bridge.capabilities = .ok caps := by
  obtain ⟨caps, left, hresolve, hlink, hcaps⟩ := Process.start_resolves hempty started
  rw [hlink] at calm ⊢
  obtain ⟨hclass, hcharset⟩ := resolve_pinned faithful hsound hcurrent hresolve calm
  obtain ⟨cs, hnamed, hresolved⟩ :=
    resolve_succeeds (faithful.recorded Prod.mk) hsound hresolve hclass hcharset
  exact ⟨cs, caps, hnamed, hresolved, Process.start_registers hempty started, hcaps⟩

end Jvm

/-- A thread that has done nothing yet is where a script can begin. -/
theorem Stands.idle {γ ς : Type} (position : Option (γ × Bool)) (scope : Scope γ ς false) :
    Stands position false [] scope := by
  rcases position with _ | ⟨c, created⟩
  · exact .detached
  · exact .outside c created false

open Jvm in
/-- Over an in-process runtime and over a virtual machine that knows UTF-8, scripts come to the
same. The thread is attached to both, or to neither, and no exception is pending; how the machine
describes exceptions makes no difference. Where the script drains each exception that it raises
before it converts or raises again, no function of the machine fails, and no array would be longer
than arrays can be, both report what is told of the script: the same outcomes, the same counts and
the same attachment after every step. -/
theorem Script.performed_alike {μ ε χ ρ ι : Type} [DecidableEq ρ] [DecidableEq ι]
    {vm : InvocationInterface μ ε} {R : Reading μ ε χ} {C : Charsets χ} {Sound : μ → Prop}
    {raise : ε → String → StateM μ Unit} {t t₀ : ThreadId} {pointer : VmPointer} {env₀ : ε}
    {config : BridgeConfig}
    (dependable : Dependable vm R C Sound raise t config.stringClass)
    (utf8 : config.charset = "UTF-8") {s u : Site (NotedProcess μ)}
    (hempty : s.backend.bridge = {}) (hsound : R.callable s.backend.link.machine.1 env₀)
    (hcurrent : R.environment s.backend.link.machine.1 t₀ = some env₀)
    (started : (Process.start (vm.recorded Prod.mk) t₀ pointer env₀ config).run s =
      (.ok (.ok ()), u))
    (calm : ¬ Failed vm R t₀ u.backend.link) {attached : Bool} {v : World (NotedProcess μ)}
    (hbridge : v.backend.bridge = u.backend.bridge)
    (hendures : R.Endures u.backend.link.machine.1 v.backend.link.machine.1)
    (hrests : Rests R.noted (soundNoted Sound) t attached v.backend.link)
    {b : ι} {r : ρ} {known : InProcess.Capabilities} {w : World (Installation ρ ι)}
    (hruntime : (w.backend.bridges b).runtime = .ok r)
    (hknown : (w.backend.bridges b).capabilities = .ok known)
    (hwilling : InProcess.Rests t attached (w.backend.runtimes r)) (script : Script false)
    (drained : script.tell Context.maxArrayLen attached false [] [] ≠ .error .undrained) :
    ∃ result v', (script.perform (Process.notedBackend vm R raise t) () []).run v =
        (.ok result, v') ∧
      ((∀ note ∈ v'.backend.link.machine.2, vm.fails R t note = false) →
        (∀ e, result = .error e → ¬ e.TooLong Context.maxArrayLen) →
        ∃ pending history w', result = .ok history ∧
          script.tell Context.maxArrayLen attached false [] [] = .ok (pending, history) ∧
          (script.perform (Installation.backend b r t) () []).run w =
            (.ok (.ok history), w')) := by
  obtain ⟨cs, caps, hnamed, hresolved, hregistered, hcaps⟩ :=
    Process.start_provides (dependable.natives env₀) hempty hsound hcurrent started calm
  let x : Setting χ := ⟨t, ⟨pointer, config⟩, cs, caps⟩
  have hresolved' : Resolved R.noted x.runtime.config.stringClass x.charset x.caps
      v.backend.link.machine := hresolved.endures hendures.beside
  obtain ⟨position, rfl, hstands⟩ := Rests.standsAs (x := x) hrests hresolved'
  have hserves := Process.backend_serves (x := x) dependable (utf8 ▸ hnamed)
  have hplaced : Process.Placed R.noted (soundNoted Sound) x position false [] v.backend :=
    ⟨hstands, by rw [hbridge]; exact hregistered, by rw [hbridge]; exact hcaps⟩
  have hbreach (breach : Breach) (htold : script.tell Context.maxArrayLen position.isSome false
      [] [] = .error breach) : True ∧ breach = .tooLong := by
    cases breach with
    | undrained => exact absurd htold drained
    | tooLong => exact ⟨trivial, rfl⟩
  obtain ⟨result, v', hperformed, hended⟩ :=
    hserves.agrees.performs script [] (.idle position ()) hbreach v hplaced
  refine ⟨result, v', hperformed, fun hnone hshort => ?_⟩
  rcases hended with
    ⟨e, rfl, ⟨note, hnoted, hfails⟩ | ⟨-, hlong⟩⟩ | ⟨pending, history, htold, rfl, -⟩
  · rw [hnone note hnoted] at hfails
    cases hfails
  · exact absurd hlong (hshort e rfl)
  · obtain ⟨position', hattached, hplaced'⟩ := hwilling.placed hruntime hknown
    rw [← hattached] at htold
    have hlimit (len : Nat) (hlen : len ≤ Context.maxArrayLen) : ByteBuffer.fits len = true :=
      ByteBuffer.fits_of_lt (Nat.lt_of_le_of_lt hlen (by decide))
    obtain ⟨_, w', hrehearsed, ⟨_, -, hfailed | ⟨hfalse, -⟩⟩ | ⟨_, _, htold', rfl, -⟩⟩ :=
      (Installation.backend_serves b r t known hlimit).agrees.performs script []
        (.idle position' ()) (fun _ htold' => nomatch htold.symm.trans htold') w hplaced'
    · exact hfailed.elim
    · exact hfalse.elim
    · cases htold.symm.trans htold'
      exact ⟨pending, history, w', rfl, hattached ▸ htold, hrehearsed⟩

section Example

open Jvm Jvm.Machine

/-- A script that makes a string of bytes that are not well-formed, and drains in a scope inside
what it raises outside of it. -/
def sampleScript : Script false :=
  .within
    (fun _ => .ask (.managedFromNative (some [0x61, 0x80])) fun _ =>
      .ask (.nativeFromManaged (some 0)) fun _ => .ask (.raise "lost") fun _ =>
        .within
          (fun _ => .ask .drain fun _ => .ask (.stringFromManaged none) fun _ => .done)
          fun _ => .ask (.stringFromManaged (some 0)) fun _ => .done)
    fun _ => .done

/-- A bridge over an in-process runtime to which no thread is attached. -/
def sampleInstallation : World (Installation Unit Unit) :=
  ⟨⟨⟨fun _ => {}, fun _ => ⟨⟨some ()⟩, ⟨some stringCapabilities⟩⟩⟩, []⟩, .zero⟩

/-- One thread starts a bridge of the simulated machine. -/
def sampleStart : Except Panic (Except BridgeError Unit) × Site (NotedProcess Machine) :=
  (Process.start (boundedInvocation.recorded Prod.mk) (.worker 0) address (.worker 0) {}).run
    twoThreads

/-- Another thread, which is not attached, performs the script there. -/
def samplePerformance :
    Except Panic (Except BridgeError (List Report)) × World (NotedProcess Machine) :=
  (sampleScript.perform (Process.notedBackend boundedInvocation (reading.during Tidy) Machine.raise
    (.worker 2)) () []).run ⟨sampleStart.2, .zero⟩

/-- The thread is attached and detached again, and the bytes come out with the replacement
character. -/
theorem performed_alike_sample : ∃ v w history,
    sampleStart.1 = .ok (.ok ()) ∧ samplePerformance = (.ok (.ok history), v) ∧
    (sampleScript.perform (Installation.backend () () (.worker 2)) () []).run sampleInstallation =
      (.ok (.ok history), w) ∧
    history.map Report.outcome = [.entered true, .string true,
      .bytes (some [0x61, 0xef, 0xbf, 0xbd]), .raised, .entered false, .drained true, .text none,
      .left false, .text (some "a\uFFFD"), .left true] := by
  have hopened : sampleStart = (.ok (.ok ()), sampleStart.2) := rfl
  have hcallable : (reading.during Tidy).callable twoThreads.backend.link.machine.1 (.worker 0) :=
    ⟨⟨rfl, rfl, ordered_of_entries nofun⟩, .nil⟩
  have hrests : Rests (reading.during Tidy).noted (soundNoted Sound) (.worker 2) false
      sampleStart.2.backend.link := by
    refine .detached ⟨rfl, ordered_of_entries ?_, ?_⟩ rfl ?_ <;> decide +kernel
  have hcalm : ¬ Failed boundedInvocation (reading.during Tidy) (.worker 0)
      sampleStart.2.backend.link :=
    not_failed_of_all (by decide +kernel)
  obtain ⟨r, v, hrun, halike⟩ := Script.performed_alike (boundedInvocation_dependable _ _) rfl rfl
    hcallable rfl hopened hcalm rfl (v := ⟨sampleStart.2, .zero⟩) .refl hrests
    (w := sampleInstallation) (b := ()) rfl rfl ⟨⟨rfl, rfl, rfl, rfl⟩, rfl⟩ sampleScript
    (by decide +kernel)
  have hperformed : samplePerformance = (.ok r, v) := hrun
  have hall : samplePerformance.2.backend.link.machine.2.all
      (!boundedInvocation.fails (reading.during Tidy) (.worker 2) ·) = true := by
    decide +kernel
  have hended : (samplePerformance.1.toOption.bind Except.toOption).isSome = true := by
    decide +kernel
  rw [hperformed] at hall hended
  obtain ⟨pending, history, w, rfl, htold, hrehearsed⟩ := halike (by simpa using hall) (by
    rintro e rfl
    cases hended)
  refine ⟨v, w, history, rfl, hperformed, hrehearsed, ?_⟩
  have houtcomes : (sampleScript.tell Context.maxArrayLen false false [] []).map
      (·.2.map Report.outcome) = .ok [.entered true, .string true,
        .bytes (some [0x61, 0xef, 0xbf, 0xbd]), .raised, .entered false, .drained true, .text none,
        .left false, .text (some "a\uFFFD"), .left true] := by
    decide +kernel
  rw [htold] at houtcomes
  exact Except.ok.inj houtcomes

end Example

end ManagedBridge
