import ManagedBridge.Effect
import ManagedBridge.Error

/-!
# Managed runtimes

The bridge never talks to a particular runtime. A backend gives two records of operations: what a
thread can do with the runtime (`ManagedRuntime`) and what it can do once it has a call context
(`CallContext`). Every statement about the bridge holds for all such records.

The type parameters are the backend's state `σ`, its capability sets `κ`, its strings `ς`, its
byte arrays `β` and its contexts `γ`.
-/

namespace ManagedBridge

/-- The operations of a call context. Those that can be refused answer with a `RuntimeError`. -/
structure CallContext (σ κ ς β : Type) where
  resolveCapabilities : Call σ (Except RuntimeError κ)
  /-- A new byte array with the bytes of a string. -/
  stringBytes : κ → ς → Call σ (Except RuntimeError β)
  byteArrayLen : β → Call σ (Except RuntimeError Nat)
  /-- What is written into a region of `len` bytes that is to hold the start of the array. -/
  readByteArray : (array : β) → (len : Nat) → Call σ (Except RuntimeError (List UInt8))
  newByteArray : (len : Nat) → Call σ (Except RuntimeError β)
  writeByteArray : β → List UInt8 → Call σ (Except RuntimeError Unit)
  /-- A new string from the bytes of an array. -/
  newString : κ → β → Call σ (Except RuntimeError ς)
  releaseBytes : β → Call σ Unit
  exceptionPending : Call σ Bool
  /-- Reports the pending exception; a backend may clear it as well. -/
  describeException : Call σ Unit
  clearException : Call σ Unit

/-- The operations of a managed runtime, for the thread that runs. -/
structure ManagedRuntime (σ γ : Type) where
  /-- The context of the thread if it is attached. -/
  currentContext : Call σ (Option γ)
  attachCurrentThread : Call σ (Except RuntimeError γ)
  detachCurrentThread : Call σ Unit

variable {σ τ κ ς β γ : Type}

/-- A context whose state is a part of a larger one. -/
def CallContext.zoom (p : Place σ τ) (ctx : CallContext τ κ ς β) : CallContext σ κ ς β where
  resolveCapabilities := .zoom p ctx.resolveCapabilities
  stringBytes caps string := .zoom p (ctx.stringBytes caps string)
  byteArrayLen array := .zoom p (ctx.byteArrayLen array)
  readByteArray array len := .zoom p (ctx.readByteArray array len)
  newByteArray len := .zoom p (ctx.newByteArray len)
  writeByteArray array bytes := .zoom p (ctx.writeByteArray array bytes)
  newString caps array := .zoom p (ctx.newString caps array)
  releaseBytes array := .zoom p (ctx.releaseBytes array)
  exceptionPending := .zoom p ctx.exceptionPending
  describeException := .zoom p ctx.describeException
  clearException := .zoom p ctx.clearException

/-- A runtime whose state is a part of a larger one. -/
def ManagedRuntime.zoom (p : Place σ τ) (rt : ManagedRuntime τ γ) : ManagedRuntime σ γ where
  currentContext := .zoom p rt.currentContext
  attachCurrentThread := .zoom p rt.attachCurrentThread
  detachCurrentThread := .zoom p rt.detachCurrentThread

end ManagedBridge
