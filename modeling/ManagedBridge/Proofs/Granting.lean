import ManagedBridge.Proofs.Agreement
import ManagedBridge.Proofs.Scope

/-!
# Conversions that are granted

A request for a conversion is granted by a context that carries strings across as UTF-8, unless
something fails, and what comes of it is what is told. Where an array would be longer than arrays
can be the request is refused.
-/

namespace ManagedBridge

open Text

variable {σ τ ρ κ ς β υ υ' γ α : Type}

/-- A request for a conversion. -/
def Request.Converts : Request → Prop
  | .managedFromNative _ | .nativeFromManaged _ | .stringFromManaged _ => True
  | .raise _ | .drain => False

/-- The request was granted: this came of it, and these are the strings that are known then. -/
def Granted (Idle : List (ς × String) → σ → Prop) (known : List (ς × String)) (outcome : Outcome)
    (strings : List String) (r : Except BridgeError (Outcome × List ς)) (s : σ) : Prop :=
  ∃ new, r = .ok (outcome, (new ++ known).map Prod.fst) ∧
    strings = (new ++ known).map Prod.snd ∧ Idle (new ++ known) s

/-- What is asked for by number is found among what is given and among what is known of it. -/
theorem bind_getElem?_map (known : List α) (f : α → υ) (number? : Option Nat) :
    number?.bind ((known.map f)[·]?) = (number?.bind (known[·]?)).map f := by
  cases number? <;> simp

theorem mem_of_bind_getElem? {known : List α} {number? : Option Nat} {a : α}
    (h : number?.bind (known[·]?) = some a) : a ∈ known := by
  obtain ⟨number, -, h⟩ := Option.bind_eq_some_iff.mp h
  exact List.mem_of_getElem? h

theorem Request.copied_eq_ok {limit : Nat} {bytes : List UInt8} {outcome outcome' : Outcome}
    {strings strings' : List String} {pending : Bool}
    (h : copied limit bytes outcome strings = .ok (outcome', strings', pending)) :
    bytes.length ≤ limit ∧ outcome = outcome' ∧ strings = strings' ∧ pending = false := by
  unfold copied at h
  split at h
  · next fits =>
    cases h
    exact ⟨fits, rfl, rfl, rfl⟩
  · cases h

theorem Request.copied_eq_error {limit : Nat} {bytes : List UInt8} {outcome : Outcome}
    {strings : List String} {breach : Breach}
    (h : copied limit bytes outcome strings = .error breach) : limit < bytes.length := by
  unfold copied at h
  split at h
  · cases h
  · next long => exact Nat.lt_of_not_le long

/-- Where no array can be had there is no string. -/
theorem Bridge.managedFromNative_refused {place : Place σ (Bridge ρ κ)} {ctx : CallContext σ κ ς β}
    {caps : κ} {P : σ → Prop} {bytes : List UInt8} {e : RuntimeError}
    (hcaps : ∀ s, P s → (place.get s).capabilities = .ok caps)
    (h : (ctx.newByteArray bytes.length).Returns P fun r _ => r = .error e) :
    (managedFromNative place ctx (some bytes)).Returns P
      fun r _ => r = .error (.ofRuntime "new_byte_array" bytes.length e) := by
  have hread : (Call.read place).Returns P fun bridge s => bridge.capabilities = .ok caps ∧ P s :=
    Call.returns_step fun s hs => ⟨hcaps s hs, hs⟩
  have hmanaged : (Marshal.toManaged ctx caps (some bytes)).Returns P
      fun r _ => r = .error (.ofRuntime "new_byte_array" bytes.length e) := by
    refine h.monadLift.bind fun r => ?_
    rintro w rfl
    exact ⟨_, w, rfl, rfl⟩
  refine hread.monadLift.bind fun bridge => ?_
  rintro w ⟨hbridge, hw⟩
  simp only [hbridge]
  exact hmanaged w hw

/-- The refusal of an array that is longer than `limit`. -/
def BridgeError.TooLong (limit : Nat) (e : BridgeError) : Prop :=
  ∃ len, limit < len ∧ e = .allocation "new_byte_array" len

namespace CallContext.Carries

/-- What carries texts of one kind across carries those of another, if they can be written as texts
of the first kind. -/
theorem rewrite {ctx : CallContext σ κ ς β} {caps : κ} {encode : υ → List UInt8}
    {decode : List UInt8 → υ} {Fits : Nat → Prop} {failed : σ → Prop}
    {Idle : List (ς × υ) → σ → Prop} {Held : List (ς × υ) → β → List UInt8 → σ → Prop}
    (h : ctx.Carries caps encode decode Fits failed Idle Held) {write : υ' → υ}
    {encode' : υ' → List UInt8} {decode' : List UInt8 → υ'}
    (hencode : ∀ text, encode (write text) = encode' text)
    (hdecode : ∀ bytes, decode bytes = write (decode' bytes)) :
    ctx.Carries caps encode' decode' Fits failed (fun known => Idle (known.map (.map id write)))
      fun known => Held (known.map (.map id write)) where
  stringBytes hmem := by
    rw [← hencode]
    exact h.stringBytes (List.mem_map_of_mem hmem)
  newByteArray known _ fits := h.newByteArray _ fits
  byteArrayLen known array bytes := h.byteArrayLen _ array bytes
  readByteArray known array bytes := h.readByteArray _ array bytes
  writeByteArray known array _ _ same := h.writeByteArray _ array same
  newString known array bytes := by
    have hnew := h.newString (known.map (.map id write)) array bytes
    rw [hdecode] at hnew
    exact hnew
  releaseBytes known array bytes := h.releaseBytes _ array bytes
  releaseFailed array := h.releaseFailed array
  fits held := h.fits held

variable {b : Backend σ ρ κ ς β γ} {c : γ} {caps : κ} {limit : Nat} {Fits : Nat → Prop}
  {failed : σ → Prop} {Idle : List (ς × String) → σ → Prop}
  {Held : List (ς × String) → β → List UInt8 → σ → Prop} {known : List (ς × String)}

/-- What is granted is made of the result of a conversion. -/
theorem returns_granted {act : Act σ (Except BridgeError α)}
    {next : Except BridgeError α → Act σ (Except BridgeError (Outcome × List ς))} {P : σ → Prop}
    {Q : Except BridgeError α → σ → Prop} {outcome : Outcome} {strings : List String}
    (h : act.Returns P (OrFailed failed Q)) (stops : ∀ e, next (.error e) = pure (.error e))
    (goes : ∀ r s, Q r s → ∃ granted, next r = pure granted ∧
      Granted Idle known outcome strings granted s) :
    (act >>= next).Returns P (OrFailed failed (Granted Idle known outcome strings)) := by
  refine h.bind fun r => ?_
  rintro w (⟨⟨e, rfl⟩, hw⟩ | hw)
  · rw [stops]
    exact ⟨_, w, rfl, .inl ⟨⟨e, rfl⟩, hw⟩⟩
  · obtain ⟨granted, hnext, hgranted⟩ := goes r _ hw
    rw [hnext]
    exact ⟨_, w, rfl, .inr hgranted⟩

/-- A conversion is granted as it is told. -/
theorem grant (h : (b.context c).Carries caps Utf8.encode Utf8.decodeLossy Fits failed Idle Held)
    (hcaps : ∀ known s, Idle known s → (b.place.get s).capabilities = .ok caps)
    (hfits : ∀ len ≤ limit, Fits len ∧ ByteBuffer.fits len = true) {request : Request}
    (converts : request.Converts) {outcome : Outcome} {strings : List String} {pending : Bool}
    (htell : Request.tell limit (known.map Prod.snd) false request =
      .ok (outcome, strings, pending)) :
    pending = false ∧ (b.grant c (known.map Prod.fst) request).Returns (Idle known)
      (OrFailed failed (Granted Idle known outcome strings)) := by
  cases request with
  | raise message => exact converts.elim
  | drain => exact converts.elim
  | managedFromNative bytes? =>
    cases bytes? with
    | none =>
      cases htell
      exact ⟨rfl, .pure fun s hs => .inr ⟨[], rfl, rfl, hs⟩⟩
    | some bytes =>
      obtain ⟨fits, rfl, rfl, rfl⟩ := Request.copied_eq_ok htell
      refine ⟨rfl, returns_granted (h.managedFromNative (hcaps known) (hfits _ fits).1)
        (fun _ => rfl) ?_⟩
      rintro _ s ⟨string, rfl, hs⟩
      exact ⟨_, rfl, [(string, Utf8.decodeLossy bytes)], rfl, rfl, hs⟩
  | nativeFromManaged string? =>
    rw [Backend.grant, bind_getElem?_map]
    rw [Request.tell, bind_getElem?_map] at htell
    cases hfound : string?.bind (known[·]?) with
    | none =>
      rw [hfound] at htell
      cases htell
      exact ⟨rfl, .pure fun s hs => .inr ⟨[], rfl, rfl, hs⟩⟩
    | some entry =>
      rw [hfound] at htell
      obtain ⟨fits, rfl, rfl, rfl⟩ := Request.copied_eq_ok htell
      refine ⟨rfl, returns_granted (h.nativeFromManaged (hcaps known)
        (mem_of_bind_getElem? hfound)) (fun _ => rfl) ?_⟩
      rintro _ s ⟨rfl, -, hs⟩
      rw [ManagedBridge.copied, if_pos (hfits _ fits).2]
      refine ⟨_, rfl, [], ?_, rfl, hs⟩
      rw [Option.map_some, ByteBuffer.content_ofBytes]
      rfl
  | stringFromManaged string? =>
    rw [Backend.grant, bind_getElem?_map]
    rw [Request.tell, bind_getElem?_map] at htell
    cases hfound : string?.bind (known[·]?) with
    | none =>
      rw [hfound] at htell
      cases htell
      exact ⟨rfl, .pure fun s hs => .inr ⟨[], rfl, rfl, hs⟩⟩
    | some entry =>
      rw [hfound] at htell
      obtain ⟨fits, rfl, rfl, rfl⟩ := Request.copied_eq_ok htell
      refine ⟨rfl, returns_granted (h.stringFromManaged (hcaps known)
        (mem_of_bind_getElem? hfound)) (fun _ => rfl) ?_⟩
      rintro _ s ⟨rfl, -, hs⟩
      rw [ManagedBridge.copied, if_pos (hfits _ fits).2]
      refine ⟨_, rfl, [], ?_, rfl, hs⟩
      dsimp only
      rw [ByteBuffer.textLossy_ofBytes_encode]
      rfl

/-- A string is not known if there can be no array for it, so a conversion of it fails. -/
theorem returns_unfit {act : Act σ (Except BridgeError α)}
    {next : Except BridgeError α → Act σ (Except BridgeError (Outcome × List ς))} {P : σ → Prop}
    {A B : Except BridgeError α → σ → Prop} {len : Nat}
    (h : act.Returns P (OrFailed failed fun r s => A r s ∧ Fits len ∧ B r s))
    (stops : ∀ e, next (.error e) = pure (.error e)) (unfit : ¬ Fits len) :
    (act >>= next).Returns P fun r s => ∃ e, r = .error e ∧ (failed s ∨ e.TooLong limit) := by
  refine h.bind fun r => ?_
  rintro w (⟨⟨e, rfl⟩, hw⟩ | ⟨-, fits, -⟩)
  · rw [stops]
    exact ⟨_, w, rfl, e, rfl, .inl hw⟩
  · exact absurd fits unfit

/-- A conversion that would need an array that is too long is refused. -/
theorem refuse (h : (b.context c).Carries caps Utf8.encode Utf8.decodeLossy Fits failed Idle Held)
    (hcaps : ∀ known s, Idle known s → (b.place.get s).capabilities = .ok caps)
    (hbound : ∀ len, Fits len → len ≤ limit)
    (hlong : ∀ len, limit < len → ((b.context c).newByteArray len).Returns (Idle known)
      fun r _ => r = .error .outOfMemory) {request : Request} {breach : Breach}
    (htell : Request.tell limit (known.map Prod.snd) false request = .error breach) :
    (b.grant c (known.map Prod.fst) request).Returns (Idle known)
      fun r s => ∃ e, r = .error e ∧ (failed s ∨ e.TooLong limit) := by
  have unfit (len : Nat) (long : limit < len) : ¬ Fits len :=
    fun fits => Nat.not_le_of_lt long (hbound len fits)
  cases request with
  | raise message => cases htell
  | drain => cases htell
  | managedFromNative bytes? =>
    cases bytes? with
    | none => cases htell
    | some bytes =>
      have long := Request.copied_eq_error htell
      refine (Bridge.managedFromNative_refused (hcaps known) (hlong _ long)).bind fun r => ?_
      rintro w rfl
      exact ⟨_, w, rfl, _, rfl, .inr ⟨_, long, rfl⟩⟩
  | nativeFromManaged string? =>
    rw [Backend.grant, bind_getElem?_map]
    rw [Request.tell, bind_getElem?_map] at htell
    cases hfound : string?.bind (known[·]?) with
    | none => rw [hfound] at htell; cases htell
    | some entry =>
      rw [hfound] at htell
      have long := Request.copied_eq_error htell
      exact returns_unfit (h.nativeFromManaged (hcaps known) (mem_of_bind_getElem? hfound))
        (fun _ => rfl) (unfit _ long)
  | stringFromManaged string? =>
    rw [Backend.grant, bind_getElem?_map]
    rw [Request.tell, bind_getElem?_map] at htell
    cases hfound : string?.bind (known[·]?) with
    | none => rw [hfound] at htell; cases htell
    | some entry =>
      rw [hfound] at htell
      have long := Request.copied_eq_error htell
      exact returns_unfit (h.stringFromManaged (hcaps known) (mem_of_bind_getElem? hfound))
        (fun _ => rfl) (unfit _ long)

end CallContext.Carries

/-- A context that says whether an exception is pending, which `Calm` has as its argument, and
clears it. While it is reported the state is as `Reported` says. -/
structure CallContext.Drains (ctx : CallContext σ κ ς β) (Calm : Bool → σ → Prop)
    (Reported : σ → Prop) : Prop where
  exceptionPending : ∀ pending, ctx.exceptionPending.Returns (Calm pending)
    fun found s => found = pending ∧ Calm pending s
  describeException : ctx.describeException.Returns (Calm true) fun _ => Reported
  clearException : ctx.clearException.Returns Reported fun _ => Calm false

/-- A context that drains on a part of the state does so on the whole, and leaves what does not
depend on the part. -/
theorem CallContext.Drains.zoom_aside {ctx : CallContext τ κ ς β} {Calm : Bool → τ → Prop}
    {Reported : τ → Prop} (h : ctx.Drains Calm Reported) {p : Place σ τ} (hp : p.Lawful)
    (Aside : σ → Prop) (haside : ∀ s part, Aside s → Aside (p.set part s)) :
    (ctx.zoom p).Drains (fun pending s => Calm pending (p.get s) ∧ Aside s)
      fun s => Reported (p.get s) ∧ Aside s where
  exceptionPending pending :=
    ((h.exceptionPending pending).zoom_aside hp Aside haside).mono
      fun _ _ ⟨⟨hfound, hs⟩, rest⟩ => ⟨hfound, hs, rest⟩
  describeException := h.describeException.zoom_aside hp Aside haside
  clearException := h.clearException.zoom_aside hp Aside haside

theorem CallContext.Drains.drain {ctx : CallContext σ κ ς β} {Calm : Bool → σ → Prop}
    {Reported : σ → Prop} (h : ctx.Drains Calm Reported) (pending : Bool) :
    (ManagedBridge.drain ctx).Returns (Calm pending)
      fun found s => found = pending ∧ Calm false s := by
  refine (h.exceptionPending pending).monadLift.bind_value ?_
  cases pending with
  | false => exact .pure fun w hw => ⟨rfl, hw⟩
  | true =>
    refine h.describeException.monadLift.bind fun _ => ?_
    refine h.clearException.monadLift.bind fun _ => ?_
    refine (Act.returns_count _).bind fun _ => (Act.returns_note _).bind fun _ => ?_
    exact .pure fun w hw => ⟨rfl, hw⟩

/-- From a state in which strings are `known`, conversions go through a context that carries, and
leave a state that is as `Here` says, unless something has `Failed`. -/
def Backend.CarriesFrom (b : Backend σ ρ κ ς β γ) (c : γ) (caps : κ) (Fits : Nat → Prop)
    (Failed : σ → Prop) (Here : List (ς × String) → σ → Prop) (known : List (ς × String)) (s : σ) :
    Prop :=
  ∃ failed Idle Held,
    (b.context c).Carries caps Utf8.encode Utf8.decodeLossy Fits failed Idle Held ∧
      Idle known s ∧ (∀ known s, Idle known s → Here known s) ∧ ∀ s, failed s → Failed s

/-- A backend whose calls do what a script asks for. `At` is as for agreement. Where the backend is
`bounded` it refuses arrays that are longer than `limit`. -/
structure Backend.Serves (b : Backend σ ρ κ ς β γ) (limit : Nat) (runtime : ρ) (caps : κ)
    (bounded : Prop) (Fits : Nat → Prop) (Failed : σ → Prop)
    (At : Option (γ × Bool) → Bool → List (ς × String) → σ → Prop) : Prop where
  attached : ∀ {position pending known s}, At position pending known s →
    b.attached s = position.isSome
  forget : ∀ {position pending known new s}, At position pending (new ++ known) s →
    At position pending known s
  initialized : ∀ {position pending known s}, At position pending known s →
    (b.place.get s).runtime = .ok runtime ∧ (b.place.get s).capabilities = .ok caps
  currentContext : ∀ position pending known,
    (b.runtime runtime).currentContext.Returns (At position pending known)
      fun c? s => c? = position.map Prod.fst ∧ At position pending known s
  attachCurrentThread : (b.runtime runtime).attachCurrentThread.Returns (At none false [])
    (OrFailed Failed fun r s => ∃ c, r = .ok c ∧ At (some (c, true)) false [] s)
  detachCurrentThread : ∀ c pending known,
    (b.runtime runtime).detachCurrentThread.Returns (At (some (c, true)) pending known)
      fun _ => At none false []
  detachFailed : (b.runtime runtime).detachCurrentThread.Returns Failed fun _ => Failed
  raise : ∀ c created known message, (b.raise c message).Returns
    (At (some (c, created)) false known) fun _ => At (some (c, created)) true known
  drains : ∀ c created known, ∃ Reported,
    (b.context c).Drains (fun pending => At (some (c, created)) pending known) Reported
  carries : ∀ {c created known s}, At (some (c, created)) false known s →
    b.CarriesFrom c caps Fits Failed (At (some (c, created)) false) known s
  fits : ∀ len ≤ limit, Fits len ∧ ByteBuffer.fits len = true
  bound : bounded → ∀ len, Fits len → len ≤ limit
  long : bounded → ∀ c created known len, limit < len → ((b.context c).newByteArray len).Returns
    (At (some (c, created)) false known) fun r _ => r = .error .outOfMemory
  detachAlways : bounded → (b.runtime runtime).detachCurrentThread.Returns (fun _ => True)
    fun _ _ => True

namespace Backend.Serves

variable {b : Backend σ ρ κ ς β γ} {limit : Nat} {runtime : ρ} {caps : κ} {bounded : Prop}
  {Fits : Nat → Prop} {Failed : σ → Prop}
  {At : Option (γ × Bool) → Bool → List (ς × String) → σ → Prop}

/-- Entering a scope finds the runtime at the bridge. -/
theorem returns_attach (h : b.Serves limit runtime caps bounded Fits Failed At)
    {position : Option (γ × Bool)} {pending : Bool} {known : List (ς × String)}
    {Q : Except BridgeError (γ × Attachment) → σ → Prop}
    (henter : (Attachment.enter (b.runtime runtime)).Returns (At position pending known) Q) :
    (Bridge.attach b.place b.runtime).Returns (At position pending known) fun r s =>
      ∃ entered, r = entered.map (fun scope => (runtime, scope.1, scope.2)) ∧ Q entered s := by
  intro w hw
  obtain ⟨entered, v, hrun, hv⟩ := henter w hw
  refine ⟨_, v, ?_, entered, rfl, hv⟩
  rw [Bridge.run_attach (h.initialized hw).1, hrun]
  rfl

theorem enter (h : b.Serves limit runtime caps bounded Fits Failed At) :
    (Bridge.attach b.place b.runtime).Returns (At none false []) fun r s =>
      (∃ e, r = .error e ∧ Failed s) ∨
        ∃ c, r = .ok (runtime, c, ⟨true⟩) ∧ At (some (c, true)) false [] s := by
  have henter : (Attachment.enter (b.runtime runtime)).Returns (At none false [])
      (OrFailed Failed fun r s => ∃ c, r = .ok (c, ⟨true⟩) ∧ At (some (c, true)) false [] s) := by
    refine (h.currentContext none false []).monadLift.bind_value ?_
    refine h.attachCurrentThread.monadLift.bind fun r => ?_
    rintro w (⟨⟨e, rfl⟩, hw⟩ | ⟨c, rfl, hw⟩)
    · exact ⟨_, _, rfl, .inl ⟨⟨_, rfl⟩, hw⟩⟩
    · exact ⟨_, _, rfl, .inr ⟨c, rfl, hw⟩⟩
  refine (h.returns_attach henter).mono ?_
  rintro _ s ⟨_, rfl, ⟨⟨e, rfl⟩, hs⟩ | ⟨c, rfl, hs⟩⟩
  · exact .inl ⟨e, rfl, hs⟩
  · exact .inr ⟨c, rfl, hs⟩

theorem reuse (h : b.Serves limit runtime caps bounded Fits Failed At) (c : γ) (created pending)
    (known : List (ς × String)) :
    (Bridge.attach b.place b.runtime).Returns (At (some (c, created)) pending known)
      fun r s => r = .ok (runtime, c, ⟨false⟩) ∧ At (some (c, created)) pending known s := by
  have henter : (Attachment.enter (b.runtime runtime)).Returns
      (At (some (c, created)) pending known)
      fun r s => r = .ok (c, ⟨false⟩) ∧ At (some (c, created)) pending known s := by
    refine (h.currentContext (some (c, created)) pending known).monadLift.bind_value ?_
    refine (Act.returns_count _).bind fun _ => (Act.returns_note _).bind fun _ => ?_
    exact .pure_value _
  refine (h.returns_attach henter).mono ?_
  rintro _ s ⟨_, rfl, rfl, hs⟩
  exact ⟨rfl, hs⟩

theorem returns_exit {P Q : σ → Prop}
    (hdetach : (b.runtime runtime).detachCurrentThread.Returns P fun _ => Q) :
    (Attachment.exit (b.runtime runtime) ⟨true⟩).Returns P fun _ => Q :=
  hdetach.monadLift.bind fun _ => (Act.returns_count _).bind fun _ => Act.returns_note _

theorem leaveFailed (h : b.Serves limit runtime caps bounded Fits Failed At) (e : BridgeError)
    (attachment : Attachment) :
    (Attachment.exit (b.runtime runtime) attachment).Returns
      (fun s => Failed s ∨ bounded ∧ e.TooLong limit)
      fun _ s => Failed s ∨ bounded ∧ e.TooLong limit := by
  rcases attachment with ⟨_ | _⟩
  · exact .pure fun _ => id
  rintro w (hw | ⟨hbounded, hlong⟩)
  · obtain ⟨_, v, hrun, hv⟩ := returns_exit h.detachFailed w hw
    exact ⟨_, v, hrun, .inl hv⟩
  · obtain ⟨_, v, hrun, -⟩ := returns_exit (h.detachAlways hbounded) w trivial
    exact ⟨_, v, hrun, .inr ⟨hbounded, hlong⟩⟩

/-- What is asked for is granted from wherever the thread stands. -/
theorem grant (h : b.Serves limit runtime caps bounded Fits Failed At) (c : γ) (created : Bool)
    {pending pending' : Bool} {known : List (ς × String)} {request : Request} {outcome : Outcome}
    {strings : List String} (htell : Request.tell limit (known.map Prod.snd) pending request =
      .ok (outcome, strings, pending')) :
    (b.grant c (known.map Prod.fst) request).Returns (At (some (c, created)) pending known)
      fun r s => (∃ e, r = .error e ∧ Failed s) ∨
        Granted (At (some (c, created)) pending') known outcome strings r s := by
  have converted (converts : request.Converts) (hpending : pending = false) :
      (b.grant c (known.map Prod.fst) request).Returns (At (some (c, created)) pending known)
        fun r s => (∃ e, r = .error e ∧ Failed s) ∨
          Granted (At (some (c, created)) pending') known outcome strings r s := by
    subst hpending
    intro w hw
    obtain ⟨failed, Idle, Held, hcarries, hidle, hhere, hfailed⟩ := h.carries hw
    obtain ⟨rfl, hgrant⟩ := hcarries.grant
      (fun known s hs => (h.initialized (hhere known s hs)).2) h.fits converts htell
    obtain ⟨r, v, hrun, ⟨⟨e, rfl⟩, hv⟩ | ⟨new, rfl, hstrings, hv⟩⟩ := hgrant w hidle
    · exact ⟨_, v, hrun, .inl ⟨e, rfl, hfailed _ hv⟩⟩
    · exact ⟨_, v, hrun, .inr ⟨new, rfl, hstrings, hhere _ _ hv⟩⟩
  cases request with
  | managedFromNative | nativeFromManaged | stringFromManaged =>
    refine converted trivial ?_
    cases pending with
    | false => rfl
    | true => cases htell
  | raise message =>
    cases pending with
    | true => cases htell
    | false =>
      cases htell
      exact (h.raise c created known message).monadLift.bind fun _ =>
        .pure fun w hw => .inr ⟨[], rfl, rfl, hw⟩
  | drain =>
    obtain ⟨Reported, hdrains⟩ := h.drains c created known
    obtain rfl : pending' = false := by cases pending <;> cases htell <;> rfl
    obtain rfl : outcome = .drained pending := by cases pending <;> cases htell <;> rfl
    obtain rfl : strings = known.map Prod.snd := by cases pending <;> cases htell <;> rfl
    refine (hdrains.drain pending).bind_value ?_
    exact .pure fun w hw => .inr ⟨[], rfl, rfl, hw⟩

theorem refuse (h : b.Serves limit runtime caps bounded Fits Failed At) (c : γ) (created : Bool)
    {pending : Bool} {known : List (ς × String)} {request : Request} (hbounded : bounded)
    (htell : Request.tell limit (known.map Prod.snd) pending request = .error .tooLong) :
    (b.grant c (known.map Prod.fst) request).Returns (At (some (c, created)) pending known)
      fun r s => ∃ e, r = .error e ∧ (Failed s ∨ bounded ∧ e.TooLong limit) := by
  obtain rfl : pending = false := by
    cases pending with
    | false => rfl
    | true => cases request <;> cases htell
  intro w hw
  obtain ⟨failed, Idle, Held, hcarries, hidle, hhere, hfailed⟩ := h.carries hw
  obtain ⟨_, v, hrun, e, rfl, hv⟩ := hcarries.refuse
    (fun known s hs => (h.initialized (hhere known s hs)).2) (h.bound hbounded)
    (fun len long s hs => h.long hbounded c created known len long s (hhere _ _ hs)) htell w hidle
  exact ⟨_, v, hrun, e, rfl, hv.imp (hfailed _) fun hlong => ⟨hbounded, hlong⟩⟩

theorem agrees (h : b.Serves limit runtime caps bounded Fits Failed At) :
    b.Agrees limit runtime (fun breach => bounded ∧ breach = .tooLong)
      (fun e s => Failed s ∨ bounded ∧ e.TooLong limit) At where
  attached := h.attached
  forget := h.forget
  enter := h.enter.mono fun _ _ hs => hs.imp_left fun ⟨e, hr, hfailed⟩ => ⟨e, hr, .inl hfailed⟩
  reuse := h.reuse
  leave c pending known := returns_exit (h.detachCurrentThread c pending known)
  leaveFailed := h.leaveFailed
  grant c created _ _ _ _ _ _ htell := (h.grant c created htell).mono fun _ _ hs =>
    hs.imp_left fun ⟨e, hr, hfailed⟩ => ⟨e, hr, .inl hfailed⟩
  refuse c created _ _ _ breach htell hrefuses := by
    obtain ⟨hbounded, rfl⟩ := hrefuses
    exact h.refuse c created hbounded htell

end Backend.Serves

end ManagedBridge
