import ManagedBridge.Bridge

/-!
# Conditions that hold of the whole if they hold of the parts

A condition on routines is compositional if what is put together of routines that meet it meets it
as well. Whatever the bridge does with a context or with a runtime then meets the condition as soon
as the calls of the context and of the runtime do.
-/

namespace ManagedBridge

variable {σ τ ρ κ ς β γ α δ : Type}

/-- A condition that is met by whatever is put together of routines that meet it. -/
structure Routine.Compositional (P : (α : Type) → Routine σ α → Prop) : Prop where
  done : ∀ {α} (a : α), P α (.done a)
  panicked : ∀ {α} (panic : Panic), P α (.panicked panic)
  handle : ∀ {α δ} {r : Routine σ α} {onResult : α → Routine σ δ} {onPanic : Panic → Routine σ δ},
    P α r → (∀ a, P δ (onResult a)) → (∀ panic, P δ (onPanic panic)) →
      P δ (r.handle onResult onPanic)

namespace Routine.Compositional

variable {P : (α : Type) → Routine σ α → Prop}

theorem pure (h : Compositional P) (a : α) : P α (Pure.pure a) := h.done a

theorem bind (h : Compositional P) {r : Routine σ α} {f : α → Routine σ δ} (hr : P α r)
    (hf : ∀ a, P δ (f a)) : P δ (r >>= f) :=
  h.handle hr hf h.panicked

theorem caught (h : Compositional P) {body : Routine σ α} (hbody : P α body) :
    P (Except String α) body.caught := by
  refine h.handle hbody (fun _ => h.done _) ?_
  rintro (message | _)
  · exact h.done _
  · exact h.panicked _

theorem andFinally (h : Compositional P) {body : Routine σ α} {last : Routine σ Unit}
    (hbody : P α body) (hlast : P Unit last) : P α (body.andFinally last) := by
  refine h.handle hbody (fun _ => h.handle hlast (fun _ => h.done _) h.panicked) ?_
  rintro (message | _)
  · exact h.handle hlast (fun _ => h.panicked _) fun _ => h.panicked _
  · exact h.panicked _

end Routine.Compositional

/-- A condition on calls and one on acts that go together. -/
structure Act.Compositional (C : (α : Type) → Call σ α → Prop) (A : (α : Type) → Act σ α → Prop) :
    Prop where
  calls : Routine.Compositional C
  acts : Routine.Compositional A
  lift : ∀ {α} {call : Call σ α}, C α call → A α (liftM call)
  count : ∀ event, A Unit (Act.count event)
  note : ∀ line, C Unit (Call.note line)

/-- All calls of the context meet the condition, but for reports of an exception. -/
structure CallContext.Meets (C : (α : Type) → Call σ α → Prop) (ctx : CallContext σ κ ς β) :
    Prop where
  resolveCapabilities : C _ ctx.resolveCapabilities
  stringBytes : ∀ caps string, C _ (ctx.stringBytes caps string)
  byteArrayLen : ∀ array, C _ (ctx.byteArrayLen array)
  readByteArray : ∀ array len, C _ (ctx.readByteArray array len)
  newByteArray : ∀ len, C _ (ctx.newByteArray len)
  writeByteArray : ∀ array bytes, C _ (ctx.writeByteArray array bytes)
  newString : ∀ caps array, C _ (ctx.newString caps array)
  releaseBytes : ∀ array, C _ (ctx.releaseBytes array)
  exceptionPending : C _ ctx.exceptionPending
  clearException : C _ ctx.clearException

/-- All that a thread does with the runtime meets the condition. -/
structure ManagedRuntime.Meets (C : (α : Type) → Call σ α → Prop) (rt : ManagedRuntime σ γ) :
    Prop where
  currentContext : C _ rt.currentContext
  attachCurrentThread : C _ rt.attachCurrentThread
  detachCurrentThread : C _ rt.detachCurrentThread

variable {C : (α : Type) → Call σ α → Prop} {A : (α : Type) → Act σ α → Prop}

theorem Act.Compositional.noted (h : Compositional C A) (line : LogLine) :
    A Unit (Act.note line) :=
  h.lift (h.note line)

namespace CallContext.Meets

variable {ctx : CallContext σ κ ς β}

/-- What holds of the calls on a part of the state holds of them as calls on the whole. -/
theorem zoom {D : (α : Type) → Call τ α → Prop} {ctx : CallContext τ κ ς β} {p : Place σ τ}
    (whole : ∀ {α} {call : Call τ α}, D α call → C α (call.zoom p)) (h : ctx.Meets D) :
    (ctx.zoom p).Meets C where
  resolveCapabilities := whole h.resolveCapabilities
  stringBytes caps string := whole (h.stringBytes caps string)
  byteArrayLen array := whole (h.byteArrayLen array)
  readByteArray array len := whole (h.readByteArray array len)
  newByteArray len := whole (h.newByteArray len)
  writeByteArray array bytes := whole (h.writeByteArray array bytes)
  newString caps array := whole (h.newString caps array)
  releaseBytes array := whole (h.releaseBytes array)
  exceptionPending := whole h.exceptionPending
  clearException := whole h.clearException

theorem copyOut [Memory] (hC : Routine.Compositional C) (h : ctx.Meets C) (array : β) :
    C _ (Marshal.copyOut ctx array) := by
  refine hC.bind (h.byteArrayLen array) ?_
  rintro (e | len)
  · exact hC.pure _
  · show C _ (if ByteBuffer.fits len then _ else _)
    split
    · refine hC.bind (h.readByteArray array len) ?_
      rintro (e | bytes) <;> exact hC.pure _
    · exact hC.pure _

theorem construct (hC : Routine.Compositional C) (h : ctx.Meets C) (caps : κ) (array : β)
    (bytes : List UInt8) : C _ (Marshal.construct ctx caps array bytes) := by
  refine hC.bind (h.writeByteArray array bytes) ?_
  rintro (e | _)
  · exact hC.pure _
  · refine hC.bind (h.newString caps array) ?_
    rintro (e | string) <;> exact hC.pure _

theorem toNative [Memory] (both : Act.Compositional C A) (h : ctx.Meets C) (caps : κ)
    (string? : Option ς) :
    A _ (Marshal.toNative ctx caps string?) := by
  have hA := both.acts
  rcases string? with _ | string
  · exact hA.pure _
  · refine hA.bind (both.lift (h.stringBytes caps string)) ?_
    rintro (e | array)
    · exact hA.pure _
    · refine hA.bind (both.lift (h.copyOut both.calls array)) fun copied => ?_
      refine hA.bind (both.lift (h.releaseBytes array)) fun _ => ?_
      rcases copied with e | buffer
      · exact hA.pure _
      · refine hA.bind (both.count _) fun _ => hA.bind (both.noted _) fun _ => ?_
        exact hA.pure _

theorem toManaged (both : Act.Compositional C A) (h : ctx.Meets C) (caps : κ)
    (bytes? : Option (List UInt8)) : A _ (Marshal.toManaged ctx caps bytes?) := by
  have hA := both.acts
  rcases bytes? with _ | bytes
  · exact hA.pure _
  · refine hA.bind (both.lift (h.newByteArray bytes.length)) ?_
    rintro (e | array)
    · exact hA.pure _
    · refine hA.bind (both.lift (h.construct both.calls caps array bytes)) fun built => ?_
      refine hA.bind (both.lift (h.releaseBytes array)) fun _ => ?_
      rcases built with e | string
      · exact hA.pure _
      · refine hA.bind (both.count _) fun _ => hA.bind (both.noted _) fun _ => ?_
        exact hA.pure _

theorem drain (both : Act.Compositional C A) (h : ctx.Meets C)
    (reports : C _ ctx.describeException) : A _ (ManagedBridge.drain ctx) := by
  have hA := both.acts
  refine hA.bind (both.lift h.exceptionPending) ?_
  rintro (_ | _)
  · exact hA.pure _
  · refine hA.bind (both.lift reports) fun _ => hA.bind (both.lift h.clearException) fun _ => ?_
    exact hA.bind (both.count _) fun _ => hA.bind (both.noted _) fun _ => hA.pure _

section Bridges

variable {place : Place σ (Bridge ρ κ)}

theorem nativeFromManaged [Memory] (both : Act.Compositional C A) (h : ctx.Meets C)
    (reads : C _ (Call.read place)) (string? : Option ς) :
    A _ (Bridge.nativeFromManaged place ctx string?) := by
  have hA := both.acts
  rcases string? with _ | string
  · exact hA.pure _
  · refine hA.bind (both.lift reads) fun bridge => ?_
    cases bridge.capabilities with
    | error e => exact hA.pure _
    | ok caps => exact h.toNative both caps (some string)

theorem managedFromNative (both : Act.Compositional C A) (h : ctx.Meets C)
    (reads : C _ (Call.read place)) (bytes? : Option (List UInt8)) :
    A _ (Bridge.managedFromNative place ctx bytes?) := by
  have hA := both.acts
  rcases bytes? with _ | bytes
  · exact hA.pure _
  · refine hA.bind (both.lift reads) fun bridge => ?_
    cases bridge.capabilities with
    | error e => exact hA.pure _
    | ok caps => exact h.toManaged both caps (some bytes)

theorem stringFromManaged [Memory] (both : Act.Compositional C A) (h : ctx.Meets C)
    (reads : C _ (Call.read place)) (string? : Option ς) :
    A _ (Bridge.stringFromManaged place ctx string?) := by
  refine both.acts.bind (h.nativeFromManaged both reads string?) ?_
  rintro (e | buffer?) <;> exact both.acts.pure _

/-- The bridge is started by reading and changing its two parts. -/
theorem start (both : Act.Compositional C A) (h : ctx.Meets C) (reads : C _ (Call.read place))
    (readsCache : C _ (Call.read (place.inside Bridge.cachePlace)))
    (stores : ∀ f : CapabilityCache κ → Except BridgeError (CapabilityCache κ),
      C _ (Call.tryModify (place.inside Bridge.cachePlace) f))
    (registers : ∀ f : RuntimeRegistry ρ → Except BridgeError (RuntimeRegistry ρ),
      C _ (Call.tryModify (place.inside Bridge.registryPlace) f))
    (runtime : ρ) : C _ (Bridge.start place runtime ctx) := by
  have hC := both.calls
  have fill : C _ (CapabilityCache.fill (place.inside Bridge.cachePlace) ctx) := by
    refine hC.bind readsCache fun cache => ?_
    split
    · exact hC.pure _
    refine hC.bind h.resolveCapabilities ?_
    rintro (e | caps)
    · exact hC.pure _
    refine hC.bind (stores _) ?_
    rintro (e | _)
    · exact hC.pure _
    · exact hC.bind (both.note _) fun _ => hC.pure _
  refine hC.bind reads fun bridge => ?_
  split
  · exact hC.pure _
  refine hC.bind fill ?_
  rintro (e | _)
  · exact hC.pure _
  refine hC.bind (registers _) ?_
  rintro (e | _)
  · exact hC.pure _
  · exact hC.bind (both.note _) fun _ => hC.pure _

end Bridges

end CallContext.Meets

namespace ManagedRuntime.Meets

variable {rt : ManagedRuntime σ γ}

theorem enter (both : Act.Compositional C A) (h : rt.Meets C) : A _ (Attachment.enter rt) := by
  have hA := both.acts
  refine hA.bind (both.lift h.currentContext) ?_
  rintro (_ | context)
  · refine hA.bind (both.lift h.attachCurrentThread) ?_
    rintro (e | context)
    · exact hA.bind (both.noted _) fun _ => hA.pure _
    · exact hA.bind (both.count _) fun _ => hA.bind (both.noted _) fun _ => hA.pure _
  · exact hA.bind (both.count _) fun _ => hA.bind (both.noted _) fun _ => hA.pure _

theorem exit (both : Act.Compositional C A) (h : rt.Meets C) (attachment : Attachment) :
    A _ (Attachment.exit rt attachment) := by
  have hA := both.acts
  unfold Attachment.exit
  split
  · exact hA.bind (both.lift h.detachCurrentThread) fun _ =>
      hA.bind (both.count _) fun _ => both.noted _
  · exact hA.pure _

theorem within (both : Act.Compositional C A) (h : rt.Meets C) {body : γ → Act σ α}
    (hbody : ∀ context, A α (body context)) : A _ (Attachment.within rt body) := by
  have hA := both.acts
  refine hA.bind (h.enter both) ?_
  rintro (e | ⟨context, attachment⟩)
  · exact hA.pure _
  · refine hA.bind (hA.andFinally (hbody context) (h.exit both attachment)) fun _ => ?_
    exact hA.pure _

section Bridges

variable {place : Place σ (Bridge ρ κ)} {backend : ρ → ManagedRuntime σ γ}

theorem attach (both : Act.Compositional C A) (h : ∀ runtime, (backend runtime).Meets C)
    (reads : C _ (Call.read place)) : A _ (Bridge.attach place backend) := by
  have hA := both.acts
  refine hA.bind (both.lift reads) fun bridge => ?_
  cases bridge.runtime with
  | error e => exact hA.pure _
  | ok runtime =>
    refine hA.bind ((h runtime).enter both) ?_
    rintro (e | ⟨context, attachment⟩) <;> exact hA.pure _

theorem withAttachment (both : Act.Compositional C A) (h : ∀ runtime, (backend runtime).Meets C)
    (reads : C _ (Call.read place)) {body : γ → Act σ α} (hbody : ∀ context, A α (body context)) :
    A _ (Bridge.withAttachment place backend body) := by
  have hA := both.acts
  refine hA.bind (both.lift reads) fun bridge => ?_
  cases bridge.runtime with
  | error e => exact hA.pure _
  | ok runtime => exact (h runtime).within both hbody

end Bridges

end ManagedRuntime.Meets

end ManagedBridge
