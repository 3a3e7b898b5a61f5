import ManagedBridge.Bridge
import ManagedBridge.Config.Reader
import ManagedBridge.Jvm.Context

/-!
# The bridge of a process

A process has one bridge, which is started when the machine loads the library or when a host asks
for it. Until then everything that needs the bridge is refused; after that the bridge stays as it
is.
-/

namespace ManagedBridge.Jvm

/-- A process that is linked to a machine with state `μ`. -/
structure Process (μ : Type) where
  link : Link μ
  bridge : Bridge Runtime Capabilities := {}
  /-- The value of the environment variable that holds the settings. -/
  settings : Option (List UInt8) := none

namespace Process

variable {μ ε : Type}

def linkPlace : Place (Process μ) (Link μ) := ⟨link, fun l p => { p with link := l }⟩

def bridgePlace : Place (Process μ) (Bridge Runtime Capabilities) :=
  ⟨bridge, fun b p => { p with bridge := b }⟩

theorem lawful_linkPlace : (linkPlace : Place (Process μ) _).Lawful :=
  ⟨fun _ _ => rfl, fun _ => rfl, fun _ _ _ => rfl⟩

theorem lawful_bridgePlace : (bridgePlace : Place (Process μ) _).Lawful :=
  ⟨fun _ _ => rfl, fun _ => rfl, fun _ _ _ => rfl⟩

/-- The operations of a context in this process. -/
def context (vm : InvocationInterface μ ε) (t : ThreadId) (c : Context ε) :
    CallContext (Process μ) Capabilities Ref Handle :=
  (c.operations vm t).zoom linkPlace

/-- The operations of a runtime in this process. -/
def runtime (vm : InvocationInterface μ ε) (t : ThreadId) (rt : Runtime) :
    ManagedRuntime (Process μ) (Context ε) :=
  (rt.operations vm t).zoom linkPlace

def readyLine : LogLine := ⟨.info, "Tether bridge v" ++ version ++ " ready", []⟩

/-- Starts the bridge with the machine at an address, on a thread with an environment. -/
def start (vm : InvocationInterface μ ε) (t : ThreadId) (pointer : VmPointer) (env : ε)
    (config : BridgeConfig) : Call (Process μ) (Except BridgeError Unit) := do
  match ← Bridge.start bridgePlace ⟨pointer, config⟩ (context vm t ⟨env, config⟩) with
  | .error e => return .error e
  | .ok () =>
    Call.note readyLine
    return .ok ()

/-- A refusal, with its reason in the log. -/
def refused {α : Type} (message reason : String) (answer : α) : Call (Process μ) α := do
  Call.note ⟨.error, message, [("err", reason)]⟩
  return answer

/-- The status by which a load or a call from C reports failure. -/
def failureCode : Int := -1

/-- The version of the native interface that a loaded library asks for, 1.6. -/
def requiredVersion : Int := 0x00010006

/-- Whether the bridge could be started by a load or by a call from C; a refusal is logged. -/
def startLogged (vm : InvocationInterface μ ε) (t : ThreadId) (pointer : VmPointer) (env : ε)
    (config : BridgeConfig) (success : Int) : Call (Process μ) Int := do
  match ← start vm t pointer env config with
  | .ok () => return success
  | .error e => refused "bridge initialization failed" e.message failureCode

/-- The settings of the environment. -/
def readSettings : Call (Process μ) (Except ConfigError BridgeConfig) :=
  Call.step fun p => (BridgeConfig.ofEnvironment p.settings, p)

/-- What the library does when the machine loads it, with the version it asks for as the answer. -/
def load (vm : InvocationInterface μ ε) (t : ThreadId) (pointer : VmPointer) :
    Call (Process μ) Int := do
  match ← readSettings with
  | .error e => refused "bridge config rejected" e.message failureCode
  | .ok config =>
    match ← Call.zoom linkPlace (Checked.getEnv vm t).run with
    | .error e => refused "JNI_OnLoad called without a JNIEnv" e.message failureCode
    | .ok env => startLogged vm t pointer env config requiredVersion

/-- Copies a string out; a null reference gives no buffer. -/
def nativeFromManaged (vm : InvocationInterface μ ε) (t : ThreadId) (c : Context ε)
    (string : Ref) : Act (Process μ) (Except BridgeError (Option ByteBuffer)) :=
  Bridge.nativeFromManaged bridgePlace (context vm t c) (string.map some)

/-- Builds a string; no bytes give a null reference. -/
def managedFromNative (vm : InvocationInterface μ ε) (t : ThreadId) (c : Context ε)
    (bytes? : Option (List UInt8)) : Act (Process μ) (Except BridgeError Ref) := do
  match ← Bridge.managedFromNative bridgePlace (context vm t c) bytes? with
  | .error e => return .error e
  | .ok string? => return .ok string?.join

/-- The text of a string, which may also be null and is then refused by the machine. -/
def stringFromManaged (vm : InvocationInterface μ ε) (t : ThreadId) (c : Context ε)
    (string : Ref) : Act (Process μ) (Except BridgeError (Option String)) :=
  Bridge.stringFromManaged bridgePlace (context vm t c) (some string)

end Process

end ManagedBridge.Jvm
