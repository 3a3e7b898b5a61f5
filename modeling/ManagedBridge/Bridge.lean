import ManagedBridge.Registry
import ManagedBridge.CapabilityCache
import ManagedBridge.Marshal
import ManagedBridge.Drain
import ManagedBridge.Attachment

/-!
# The bridge

A bridge holds one runtime `ρ` and the capabilities `κ` that its conversions use. Both are written
once, the capabilities first. A bridge is kept at a place in the backend's state; its operations
read it there each time.
-/

namespace ManagedBridge

structure Bridge (ρ κ : Type) where
  registry : RuntimeRegistry ρ := {}
  cache : CapabilityCache κ := {}
  deriving DecidableEq, Repr

namespace Bridge

variable {σ ρ κ ς β γ α : Type}

def isInitialized (b : Bridge ρ κ) : Bool := b.registry.isSet && b.cache.isInitialized

def runtime (b : Bridge ρ κ) : Except BridgeError ρ := b.registry.get

def capabilities (b : Bridge ρ κ) : Except BridgeError κ := b.cache.get

/-- A bridge that is initialized has capabilities to convert with. -/
theorem exists_capabilities {b : Bridge ρ κ} (h : b.isInitialized = true) :
    ∃ caps, b.capabilities = .ok caps := by
  simp only [isInitialized, Bool.and_eq_true, CapabilityCache.isInitialized,
    Option.isSome_iff_exists] at h
  obtain ⟨-, caps, hcaps⟩ := h
  exact ⟨caps, by rw [capabilities, CapabilityCache.get, hcaps]⟩

/-- The registry as a part of the bridge. -/
def registryPlace : Place (Bridge ρ κ) (RuntimeRegistry ρ) :=
  ⟨registry, fun r b => { b with registry := r }⟩

/-- The cache as a part of the bridge. -/
def cachePlace : Place (Bridge ρ κ) (CapabilityCache κ) := ⟨cache, fun c b => { b with cache := c }⟩

def initializedLine : LogLine := ⟨.debug, "bridge initialized", []⟩

/-- Resolves the capabilities through `ctx` and then registers `runtime`. A bridge that has a
runtime refuses before anything is resolved. -/
def start (place : Place σ (Bridge ρ κ)) (runtime : ρ) (ctx : CallContext σ κ ς β) :
    Call σ (Except BridgeError Unit) := do
  if (← Call.read place).registry.isSet then
    return .error (.alreadyInitialized "runtime")
  match ← CapabilityCache.fill (place.inside cachePlace) ctx with
  | .error e => return .error e
  | .ok () =>
    match ← Call.tryModify (place.inside registryPlace) (·.set runtime) with
    | .error e => return .error e
    | .ok () =>
      Call.note initializedLine
      return .ok ()

/-- Copies a managed string out with the bridge's capabilities; no string gives no buffer, whatever
state the bridge is in. -/
def nativeFromManaged [Memory] (place : Place σ (Bridge ρ κ)) (ctx : CallContext σ κ ς β)
    (string? : Option ς) : Act σ (Except BridgeError (Option ByteBuffer)) := do
  if string?.isNone then return .ok none
  match (← Call.read place).capabilities with
  | .error e => return .error e
  | .ok caps => Marshal.toNative ctx caps string?

/-- Builds a managed string with the bridge's capabilities; no bytes give no string, whatever state
the bridge is in. -/
def managedFromNative (place : Place σ (Bridge ρ κ)) (ctx : CallContext σ κ ς β)
    (bytes? : Option (List UInt8)) : Act σ (Except BridgeError (Option ς)) := do
  if bytes?.isNone then return .ok none
  match (← Call.read place).capabilities with
  | .error e => return .error e
  | .ok caps => Marshal.toManaged ctx caps bytes?

section Conversions

variable {place : Place σ (Bridge ρ κ)} {ctx : CallContext σ κ ς β} {caps : κ} {w : World σ}

theorem run_nativeFromManaged [Memory] (h : (place.get w.backend).capabilities = .ok caps)
    (string : ς) : (nativeFromManaged place ctx (some string)).run w =
      (Marshal.toNative ctx caps (some string)).run w := by
  refine (Routine.run_bind_ok (Call.run_monadLift (Call.read place) w) _).trans ?_
  simp only [h]
  rfl

theorem run_managedFromNative (h : (place.get w.backend).capabilities = .ok caps)
    (bytes : List UInt8) :
    (managedFromNative place ctx (some bytes)).run w =
      (Marshal.toManaged ctx caps (some bytes)).run w := by
  refine (Routine.run_bind_ok (Call.run_monadLift (Call.read place) w) _).trans ?_
  simp only [h]
  rfl

end Conversions

/-- The text of a managed string, decoded from UTF-8 with replacement. -/
def stringFromManaged [Memory] (place : Place σ (Bridge ρ κ)) (ctx : CallContext σ κ ς β)
    (string? : Option ς) : Act σ (Except BridgeError (Option String)) := do
  match ← nativeFromManaged place ctx string? with
  | .error e => return .error e
  | .ok buffer? => return .ok (buffer?.map ByteBuffer.textLossy)

/-- Begins a scope on the bridge's runtime; `backend` gives the operations of a runtime. -/
def attach (place : Place σ (Bridge ρ κ)) (backend : ρ → ManagedRuntime σ γ) :
    Act σ (Except BridgeError (ρ × γ × Attachment)) := do
  match (← Call.read place).runtime with
  | .error e => return .error e
  | .ok runtime =>
    match ← Attachment.enter (backend runtime) with
    | .error e => return .error e
    | .ok (context, attachment) => return .ok (runtime, context, attachment)

/-- Runs `body` with a context for the current thread, attached for as long as that takes. -/
def withAttachment (place : Place σ (Bridge ρ κ)) (backend : ρ → ManagedRuntime σ γ)
    (body : γ → Act σ α) : Act σ (Except BridgeError α) := do
  match (← Call.read place).runtime with
  | .error e => return .error e
  | .ok runtime => Attachment.within (backend runtime) body

end Bridge

/-- Gives a buffer back. -/
def ByteBuffer.release {σ : Type} (b : ByteBuffer) : Call σ Unit :=
  Call.note ⟨.trace, "releasing byte buffer", [("len", toString b.len)]⟩

/-- The version of the bridge. -/
def version : String := "0.1.0"

end ManagedBridge
