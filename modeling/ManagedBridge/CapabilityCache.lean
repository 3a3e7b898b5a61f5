import ManagedBridge.CallContext

/-!
# The capability cache

The handles that conversions need are resolved as one set. A set is stored only once it is
complete, and only one set is ever stored, so a reader sees all handles or none.
-/

namespace ManagedBridge

structure CapabilityCache (κ : Type) where
  slot : Option κ := none
  deriving DecidableEq, Repr

namespace CapabilityCache

variable {σ κ ς β : Type}

def isInitialized (c : CapabilityCache κ) : Bool := c.slot.isSome

def get (c : CapabilityCache κ) : Except BridgeError κ :=
  match c.slot with
  | some caps => .ok caps
  | none => .error (.notInitialized "capability cache")

/-- The cache with `caps` in it, unless a set is there already. -/
def store (c : CapabilityCache κ) (caps : κ) : Except BridgeError (CapabilityCache κ) :=
  if c.isInitialized then .error (.alreadyInitialized "capability cache") else .ok ⟨some caps⟩

def initializedLine : LogLine := ⟨.debug, "capability cache initialized", []⟩

/-- Resolves the capabilities through `ctx` and stores them in the cache at `place`. A cache that
is full refuses before anything is resolved, and again if it was filled in the meantime. -/
def fill (place : Place σ (CapabilityCache κ)) (ctx : CallContext σ κ ς β) :
    Call σ (Except BridgeError Unit) := do
  if (← Call.read place).isInitialized then
    return .error (.alreadyInitialized "capability cache")
  match ← ctx.resolveCapabilities with
  | .error e => return .error (.ofRuntime "resolve_capabilities" 0 e)
  | .ok caps =>
    match ← Call.tryModify place (·.store caps) with
    | .error e => return .error e
    | .ok () =>
      Call.note initializedLine
      return .ok ()

end CapabilityCache

end ManagedBridge
