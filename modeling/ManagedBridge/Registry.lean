import ManagedBridge.Error

/-!
# The runtime registry

Holds the one runtime of a bridge. It is written once and read ever after.
-/

namespace ManagedBridge

structure RuntimeRegistry (ρ : Type) where
  slot : Option ρ := none
  deriving DecidableEq, Repr

namespace RuntimeRegistry

variable {ρ : Type}

def isSet (r : RuntimeRegistry ρ) : Bool := r.slot.isSome

/-- The registry with `runtime` in it, unless one is there already. -/
def set (r : RuntimeRegistry ρ) (runtime : ρ) : Except BridgeError (RuntimeRegistry ρ) :=
  if r.isSet then .error (.alreadyInitialized "runtime") else .ok ⟨some runtime⟩

def get (r : RuntimeRegistry ρ) : Except BridgeError ρ :=
  match r.slot with
  | some runtime => .ok runtime
  | none => .error (.notInitialized "runtime")

end RuntimeRegistry

end ManagedBridge
