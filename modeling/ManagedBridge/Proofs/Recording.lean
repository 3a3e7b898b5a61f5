import ManagedBridge.CallContext

/-!
# Recorded contexts

A recorded context does what the context does that it records, and notes down every call with what
the call ended in. The bridge cannot tell the two apart, so the record says in which order and with
which arguments a context is called, for any context whatever.
-/

namespace ManagedBridge

/-- A call of an operation, with its arguments and what it ended in. -/
inductive ContextCall (κ ς β : Type)
  | resolveCapabilities (ended : Except Panic (Except RuntimeError κ))
  | stringBytes (caps : κ) (string : ς) (ended : Except Panic (Except RuntimeError β))
  | byteArrayLen (array : β) (ended : Except Panic (Except RuntimeError Nat))
  | readByteArray (array : β) (len : Nat) (ended : Except Panic (Except RuntimeError (List UInt8)))
  | newByteArray (len : Nat) (ended : Except Panic (Except RuntimeError β))
  | writeByteArray (array : β) (bytes : List UInt8)
      (ended : Except Panic (Except RuntimeError Unit))
  | newString (caps : κ) (array : β) (ended : Except Panic (Except RuntimeError ς))
  | releaseBytes (array : β) (ended : Except Panic Unit)
  | exceptionPending (ended : Except Panic Bool)
  | describeException (ended : Except Panic Unit)
  | clearException (ended : Except Panic Unit)

variable {σ τ κ ς β α γ : Type}

namespace ContextCall

/-- The name under which errors report the operation. -/
def operation : ContextCall κ ς β → String
  | resolveCapabilities _ => "resolve_capabilities"
  | stringBytes .. => "string_bytes"
  | byteArrayLen .. => "byte_array_len"
  | readByteArray .. => "read_byte_array"
  | newByteArray .. => "new_byte_array"
  | writeByteArray .. => "write_byte_array"
  | newString .. => "new_string"
  | releaseBytes .. => "release_bytes"
  | exceptionPending _ => "exception_pending"
  | describeException _ => "describe_exception"
  | clearException _ => "clear_exception"

/-- How a call ended, whatever it answered. -/
def ending : ContextCall κ ς β → Except Panic (Except RuntimeError Unit)
  | resolveCapabilities ended => ended.map (·.map fun _ => ())
  | stringBytes _ _ ended => ended.map (·.map fun _ => ())
  | byteArrayLen _ ended => ended.map (·.map fun _ => ())
  | readByteArray _ _ ended => ended.map (·.map fun _ => ())
  | newByteArray _ ended => ended.map (·.map fun _ => ())
  | writeByteArray _ _ ended => ended
  | newString _ _ ended => ended.map (·.map fun _ => ())
  | releaseBytes _ ended => ended.map .ok
  | exceptionPending ended => ended.map fun _ => .ok ()
  | describeException ended => ended.map .ok
  | clearException ended => ended.map .ok

/-- The panic that the call ended in. -/
def panic? (call : ContextCall κ ς β) : Option Panic :=
  match call.ending with
  | .error panic => some panic
  | .ok _ => none

/-- What the call was refused with. -/
def refusal? (call : ContextCall κ ς β) : Option RuntimeError :=
  match call.ending with
  | .ok (.error e) => some e
  | _ => none

/-- The array that the call handed out. -/
def obtained? : ContextCall κ ς β → Option β
  | stringBytes _ _ (.ok (.ok array)) => some array
  | newByteArray _ (.ok (.ok array)) => some array
  | _ => none

/-- The array that the call was given. -/
def array? : ContextCall κ ς β → Option β
  | byteArrayLen array _ => some array
  | readByteArray array _ _ => some array
  | writeByteArray array _ _ => some array
  | newString _ array _ => some array
  | releaseBytes array _ => some array
  | _ => none

/-- The array that the call gave back. -/
def released? : ContextCall κ ς β → Option β
  | releaseBytes array _ => some array
  | _ => none

/-- Whether the call gave an array back. -/
def isRelease (call : ContextCall κ ς β) : Bool := call.released?.isSome

end ContextCall

/-- A call on a part of the state, and then a note of what it ended in. -/
def Call.recorded (p : Place τ σ) (note : Except Panic α → τ → τ) (call : Call σ α) : Call τ α :=
  (call.zoom p).handle
    (fun a => Call.step fun s => (a, note (.ok a) s))
    fun panic => do
      Call.step fun s => ((), note (.error panic) s)
      throw panic

/-- On a lawful place a recorded call does what the call does; the note comes last. -/
theorem Call.run_recorded {p : Place τ σ} (hp : p.Lawful) (note : Except Panic α → τ → τ)
    (call : Call σ α) (s : Site τ) :
    (call.recorded p note).run s =
      let (ended, t) := call.run (p.site.get s)
      (ended, ⟨note ended (p.set t.backend s.backend), t.log⟩) := by
  rw [Call.recorded, Routine.run_handle, Call.run_zoom hp]
  rcases call.run (p.site.get s) with ⟨panic | a, t⟩ <;> rfl

/-- A context on a part of the state, all of whose calls are noted down. -/
def CallContext.recorded (p : Place τ σ) (note : ContextCall κ ς β → τ → τ)
    (ctx : CallContext σ κ ς β) : CallContext τ κ ς β where
  resolveCapabilities := ctx.resolveCapabilities.recorded p fun e => note (.resolveCapabilities e)
  stringBytes caps string :=
    (ctx.stringBytes caps string).recorded p fun e => note (.stringBytes caps string e)
  byteArrayLen array := (ctx.byteArrayLen array).recorded p fun e => note (.byteArrayLen array e)
  readByteArray array len :=
    (ctx.readByteArray array len).recorded p fun e => note (.readByteArray array len e)
  newByteArray len := (ctx.newByteArray len).recorded p fun e => note (.newByteArray len e)
  writeByteArray array bytes :=
    (ctx.writeByteArray array bytes).recorded p fun e => note (.writeByteArray array bytes e)
  newString caps array :=
    (ctx.newString caps array).recorded p fun e => note (.newString caps array e)
  releaseBytes array := (ctx.releaseBytes array).recorded p fun e => note (.releaseBytes array e)
  exceptionPending := ctx.exceptionPending.recorded p fun e => note (.exceptionPending e)
  describeException := ctx.describeException.recorded p fun e => note (.describeException e)
  clearException := ctx.clearException.recorded p fun e => note (.clearException e)

/-- A context that keeps the list of its calls beside its state. -/
def CallContext.traced (ctx : CallContext σ κ ς β) :
    CallContext (σ × List (ContextCall κ ς β)) κ ς β :=
  ctx.recorded .first fun call s => (s.1, s.2 ++ [call])

/-- `traced` ends as `plain` does and leaves what `plain` leaves. Besides, the calls that it adds to
the list and its end are related by `P`. -/
def Routine.Traces {ω : Type} (erase : τ → σ) (trace : τ → List ω) (traced : Routine τ α)
    (plain : Routine σ α) (P : List ω → Except Panic α → Prop) : Prop :=
  ∀ s, (traced.run s).1 = (plain.run (erase s)).1 ∧
    erase (traced.run s).2 = (plain.run (erase s)).2 ∧
    ∃ calls, trace (traced.run s).2 = trace s ++ calls ∧ P calls (plain.run (erase s)).1

namespace Routine.Traces

variable {ω : Type} {erase : τ → σ} {trace : τ → List ω}

/-- What calls nothing leaves no trace. -/
theorem pure {a : α} {P : List ω → Except Panic α → Prop} (h : P [] (.ok a)) :
    Traces erase trace (Pure.pure a) (Pure.pure a) P := by
  intro s
  exact ⟨rfl, rfl, [], by simp, h⟩

/-- The calls of what comes first stand in front, and a panic of it ends both. -/
theorem bind {traced : Routine τ α} {plain : Routine σ α} {P : List ω → Except Panic α → Prop}
    {tracedNext : α → Routine τ γ} {plainNext : α → Routine σ γ}
    {Q : List ω → Except Panic γ → Prop} (h : Traces erase trace traced plain P)
    (onPanic : ∀ calls panic, P calls (.error panic) → Q calls (.error panic))
    (onResult : ∀ front a, P front (.ok a) →
      Traces erase trace (tracedNext a) (plainNext a) fun back ended => Q (front ++ back) ended) :
    Traces erase trace (traced >>= tracedNext) (plain >>= plainNext) Q := by
  intro s
  obtain ⟨hended, hleft, front, hfront, hP⟩ := h s
  rw [run_bind, run_bind]
  rcases ht : traced.run s with ⟨ended, t⟩
  rcases hp : plain.run (erase s) with ⟨ended', u⟩
  simp only [ht, hp] at hended hleft hfront hP
  subst hended hleft
  cases ended with
  | error panic => exact ⟨rfl, rfl, front, hfront, onPanic front panic hP⟩
  | ok a =>
    obtain ⟨hended, hleft, back, hback, hQ⟩ := onResult front a hP t
    exact ⟨hended, hleft, front ++ back, by rw [hback, hfront, List.append_assoc], hQ⟩

theorem mono {traced : Routine τ α} {plain : Routine σ α} {P Q : List ω → Except Panic α → Prop}
    (h : Traces erase trace traced plain P) (hPQ : ∀ calls ended, P calls ended → Q calls ended) :
    Traces erase trace traced plain Q := by
  intro s
  obtain ⟨hended, hleft, calls, hcalls, hP⟩ := h s
  exact ⟨hended, hleft, calls, hcalls, hPQ calls _ hP⟩

end Routine.Traces

namespace Site

/-- A site without the list beside its state. -/
def untraced {ω : Type} (s : Site (σ × List ω)) : Site σ := ⟨s.backend.1, s.log⟩

end Site

/-- A recorded call adds itself to the list, and nothing else. -/
theorem Call.traces_recorded {ω : Type} (entry : Except Panic α → ω) (call : Call σ α) :
    Routine.Traces Site.untraced (·.backend.2)
      (call.recorded .first fun ended (s : σ × List ω) => (s.1, s.2 ++ [entry ended])) call
      fun calls ended => calls = [entry ended] := by
  intro s
  rw [Call.run_recorded Place.lawful_first]
  exact ⟨rfl, rfl, [entry (call.run s.untraced).1], rfl, rfl⟩

end ManagedBridge
