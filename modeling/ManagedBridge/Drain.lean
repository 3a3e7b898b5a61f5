import ManagedBridge.CallContext

/-!
# Draining exceptions

A pending exception is reported, cleared and counted.
-/

namespace ManagedBridge

variable {σ κ ς β : Type}

def drainedLine : LogLine := ⟨.warn, "cleared pending managed exception", []⟩

/-- Whether an exception was pending; it no longer is. -/
def drain (ctx : CallContext σ κ ς β) : Act σ Bool := do
  if ← ctx.exceptionPending then
    ctx.describeException
    ctx.clearException
    Act.count .exceptionDrained
    Act.note drainedLine
    return true
  else return false

end ManagedBridge
