/-!
# The memory of C code

A string that goes out to C is a block in memory. It is in use from when it is handed over until it
is freed; where it lies is for the allocator to say.
-/

namespace ManagedBridge.Jvm

/-- An address, or null. -/
abbrev Pointer := Option Nat

/-- The memory that C code is given: the blocks that are in use, by their addresses. -/
abbrev Heap := Nat → Option (List UInt8)

namespace Heap

def empty : Heap := fun _ => none

def set (heap : Heap) (address : Nat) (block? : Option (List UInt8)) : Heap :=
  fun other => if other = address then block? else heap other

@[simp] theorem set_self (heap : Heap) (address : Nat) (block? : Option (List UInt8)) :
    heap.set address block? address = block? :=
  if_pos rfl

/-- What was put where nothing was leaves nothing behind. -/
theorem set_set_none {heap : Heap} {address : Nat} (unused : heap address = none)
    (block? : Option (List UInt8)) : (heap.set address block?).set address none = heap := by
  funext other
  by_cases hother : other = address
  · simp [set, hother, unused]
  · simp [set, hother]

/-- The block that a pointer leads to. -/
def block? (heap : Heap) (pointer : Pointer) : Option (List UInt8) := pointer.bind heap

/-- Hands an answer over. A block is copied to the address that is found for it. -/
def hand (heap : Heap) (address : Nat) : Option (List UInt8) → Pointer × Heap
  | none => (none, heap)
  | some block => (some address, heap.set address (some block))

/-- Gives a block back. Null is no block; to give back what is not in use has no meaning. -/
def free (heap : Heap) : Pointer → Option Heap
  | none => some heap
  | some address => (heap address).map fun _ => heap.set address none

end Heap

end ManagedBridge.Jvm
