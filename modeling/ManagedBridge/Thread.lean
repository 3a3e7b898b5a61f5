/-!
# Threads

A thread is known by its name, or by its number among the threads that a concurrent run makes.
-/

namespace ManagedBridge

inductive ThreadId
  | named (name : String)
  | worker (number : Nat)
  deriving DecidableEq, Repr

end ManagedBridge
