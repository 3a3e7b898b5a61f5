import ManagedBridge.Jvm.Machine
import ManagedBridge.Proofs.EntryPoints
import ManagedBridge.Proofs.NativeRecording
import ManagedBridge.Proofs.Utf8

/-!
# Settings of the environment

A load and a start from C take their settings from an environment variable, whose value may be any
bytes. Bytes that are not UTF-8 are taken for no value at all. A text that is refused ends the start
before the machine is asked for anything.
-/

namespace ManagedBridge

open Text

namespace BridgeConfig

variable {value : Option (List UInt8)}

@[simp] theorem ofEnvironment_encode (s : String) :
    ofEnvironment (some (Utf8.encode s)) = ofJson s := by
  have hdecode : Utf8.decode? (Utf8.encode s) = some s := Utf8.decode?_eq_some_iff.mpr rfl
  simp [ofEnvironment, hdecode]

/-- Bytes that are not UTF-8 are as good as none. -/
theorem ofEnvironment_unreadable {bytes : List UInt8} (h : ¬ Utf8.WellFormed bytes) :
    ofEnvironment (some bytes) = ofEnvironment none := by
  have hdecode : Utf8.decode? bytes = none := Utf8.decode?_eq_none_iff.mpr h
  simp [ofEnvironment, hdecode]

/-- What a variable can hold: nothing, bytes that are not UTF-8, or a text. -/
theorem environment_cases (value : Option (List UInt8)) :
    value = none ∨ (∃ bytes, value = some bytes ∧ ¬ Utf8.WellFormed bytes) ∨
      ∃ s, value = some (Utf8.encode s) := by
  cases value with
  | none => exact .inl rfl
  | some bytes =>
    by_cases hwell : Utf8.WellFormed bytes
    · obtain ⟨s, rfl⟩ := hwell.encode
      exact .inr (.inr ⟨s, rfl⟩)
    · exact .inr (.inl ⟨bytes, rfl, hwell⟩)

theorem ofEnvironment_eq_ok_iff {config : BridgeConfig} :
    ofEnvironment value = .ok config ↔
      (config = {} ∧ (value = none ∨ ∃ bytes, value = some bytes ∧ ¬ Utf8.WellFormed bytes)) ∨
        ∃ s, value = some (Utf8.encode s) ∧ ofJson s = .ok config := by
  constructor
  · intro hok
    rcases environment_cases value with rfl | ⟨bytes, rfl, hill⟩ | ⟨s, rfl⟩
    · have hconfig : {} = config := Except.ok.inj hok
      exact .inl ⟨hconfig.symm, .inl rfl⟩
    · rw [ofEnvironment_unreadable hill] at hok
      have hconfig : {} = config := Except.ok.inj hok
      exact .inl ⟨hconfig.symm, .inr ⟨bytes, rfl, hill⟩⟩
    · rw [ofEnvironment_encode] at hok
      exact .inr ⟨s, rfl, hok⟩
  · rintro (⟨rfl, rfl | ⟨bytes, rfl, hill⟩⟩ | ⟨s, rfl, hok⟩)
    · rfl
    · exact ofEnvironment_unreadable hill
    · rw [ofEnvironment_encode, hok]

theorem ofEnvironment_eq_error_iff {e : ConfigError} :
    ofEnvironment value = .error e ↔
      ∃ s, value = some (Utf8.encode s) ∧ ofJson s = .error e := by
  constructor
  · intro herror
    rcases environment_cases value with rfl | ⟨bytes, rfl, hill⟩ | ⟨s, rfl⟩
    · cases herror
    · rw [ofEnvironment_unreadable hill] at herror
      cases herror
    · rw [ofEnvironment_encode] at herror
      exact ⟨s, rfl, herror⟩
  · rintro ⟨s, rfl, herror⟩
    rw [ofEnvironment_encode, herror]

end BridgeConfig

end ManagedBridge

namespace ManagedBridge.Jvm

open Text BridgeConfig

variable {μ ε : Type}

section Refusing

variable (vm : InvocationInterface μ ε) (t : ThreadId) {s : Site (Process μ)} {e : ConfigError}

/-- What the log says of settings that are refused. -/
def rejectedLine (e : ConfigError) : LogLine :=
  ⟨.error, "bridge config rejected", [("err", e.message)]⟩

/-- Settings that are refused are refused wherever they are read. -/
theorem run_readSettings_error (h : ofEnvironment s.backend.settings = .error e) :
    (Process.readSettings : Call (Process μ) _).run s = (.ok (.error e), s) := by
  rw [Process.readSettings, Call.run_step, h]

theorem load_rejected (h : ofEnvironment s.backend.settings = .error e) (pointer : VmPointer) :
    (Process.load vm t pointer).run s =
      (.ok Process.failureCode, { s with log := rejectedLine e :: s.log }) :=
  Routine.run_bind_ok (run_readSettings_error h) _

theorem startFromC_rejected (h : ofEnvironment s.backend.settings = .error e)
    (pointer : Option VmPointer) (env : Option ε) :
    (CInterface.start vm t pointer env).run s =
      (.ok Process.failureCode, { s with log := rejectedLine e :: s.log }) :=
  Routine.run_bind_ok (run_readSettings_error h) _

end Refusing

/-- What becomes of the value of the environment variable for the settings. -/
structure TakenFromEnvironment (vm : InvocationInterface μ ε) (value : Option (List UInt8)) :
    Prop where
  /-- The defaults are taken for a variable that is not set or is not UTF-8, and for a text that
  gives them. -/
  default_iff : ofEnvironment value = .ok {} ↔
    value = none ∨ (∃ bytes, value = some bytes ∧ ¬ Utf8.WellFormed bytes) ∨
      ∃ s, value = some (Utf8.encode s) ∧ ofJson s = .ok {}
  /-- All other settings that are taken are those of the text. -/
  ok_iff : ∀ config, config ≠ {} →
    (ofEnvironment value = .ok config ↔
      ∃ s, value = some (Utf8.encode s) ∧ ofJson s = .ok config)
  error_iff : ∀ e, ofEnvironment value = .error e ↔
    ∃ s, value = some (Utf8.encode s) ∧ ofJson s = .error e
  /-- Where the settings are refused, a load and a start from C fail. The process stays as it is
  with its bridge, its machine and the machine's record of all calls. -/
  load : ∀ e, ofEnvironment value = .error e →
    ∀ (t : ThreadId) (pointer : VmPointer) (s : Site (Process (μ × List NativeCall))),
      s.backend.settings = value →
        (Process.load vm.traced t pointer).run s =
          (.ok Process.failureCode, { s with log := rejectedLine e :: s.log })
  start : ∀ e, ofEnvironment value = .error e →
    ∀ (t : ThreadId) (pointer : Option VmPointer) (env : Option ε)
      (s : Site (Process (μ × List NativeCall))), s.backend.settings = value →
        (CInterface.start vm.traced t pointer env).run s =
          (.ok Process.failureCode, { s with log := rejectedLine e :: s.log })

theorem takenFromEnvironment (vm : InvocationInterface μ ε) (value : Option (List UInt8)) :
    TakenFromEnvironment vm value := by
  constructor
  case default_iff =>
    rw [ofEnvironment_eq_ok_iff]
    constructor
    · rintro (⟨-, hunset | hill⟩ | htext)
      · exact .inl hunset
      · exact .inr (.inl hill)
      · exact .inr (.inr htext)
    · rintro (hunset | hill | htext)
      · exact .inl ⟨rfl, .inl hunset⟩
      · exact .inl ⟨rfl, .inr hill⟩
      · exact .inr htext
  case ok_iff =>
    intro config hconfig
    rw [ofEnvironment_eq_ok_iff]
    constructor
    · rintro (⟨hdefault, -⟩ | htext)
      · exact absurd hdefault hconfig
      · exact htext
    · exact .inr
  case error_iff => exact fun e => ofEnvironment_eq_error_iff
  case load =>
    intro e herror t pointer s hs
    rw [← hs] at herror
    exact load_rejected vm.traced t herror pointer
  case start =>
    intro e herror t pointer env s hs
    rw [← hs] at herror
    exact startFromC_rejected vm.traced t herror pointer env

example : ofEnvironment (some [0x7b]) = .error (.parse ⟨.eofObject, ⟨1, 1⟩⟩) := rfl

/-- A process whose variable holds a byte that begins no code point. -/
def misencoded : Site (Process Machine) :=
  ⟨{ link := ⟨Machine.attach {} (.worker 0), []⟩, settings := some [0xff] }, []⟩

/-- The byte encodes no text, but a load succeeds, and the bridge holds the defaults. -/
theorem misencoded_loads :
    (∀ s, Utf8.encode s ≠ [0xff]) ∧ ofEnvironment (some [0xff]) = .ok {} ∧
      ∃ left, (Process.load (Machine.invocation []) (.worker 0) 1).run misencoded =
          (.ok Process.requiredVersion, left) ∧
        left.backend.bridge.runtime = .ok ⟨1, {}⟩ := by
  have hdecode : Utf8.decode? [0xff] = none := by decide
  refine ⟨fun s hs => ?_, ?_, _, rfl, rfl⟩
  · rw [Utf8.decode?_eq_some_iff.mpr hs] at hdecode
    cases hdecode
  · simp [ofEnvironment, hdecode]

end ManagedBridge.Jvm
