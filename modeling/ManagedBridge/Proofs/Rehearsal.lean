import ManagedBridge.Proofs.Books
import ManagedBridge.Proofs.Granting
import ManagedBridge.Proofs.RoundTrip

/-!
# Scripts over an in-process runtime

An in-process runtime that has no fault armed and refuses no attachment serves scripts: over a
bridge that is initialized with it every script comes to what is told of it.
-/

namespace ManagedBridge

open InProcess Text

variable {σ κ ς β α π : Type}

/-- What a call leaves alone is as it was when the call returns. -/
theorem Call.Returns.preserving {call : Call σ α} {view : σ → π} {P : σ → Prop}
    {Q : α → σ → Prop} (h : call.Returns P Q) (hcall : call.Preserves view) (shown : π) :
    call.Returns (fun s => P s ∧ view s = shown) fun a s => Q a s ∧ view s = shown := by
  rintro s ⟨hs, hshown⟩
  obtain ⟨a, t, hrun, ht⟩ := h s hs
  exact ⟨a, t, hrun, ht, (hcall.of_run hrun).trans hshown⟩

/-- A context that transfers and leaves something alone transfers while that is as it is. -/
theorem CallContext.Transfers.preserving {ctx : CallContext σ κ ς β} {caps : κ}
    {bytesOf : ς → List UInt8} {stringOf : List UInt8 → ς} {Idle : σ → Prop}
    {Held : β → List UInt8 → σ → Prop} {view : σ → π}
    (h : ctx.Transfers caps bytesOf stringOf Idle Held) (hctx : ctx.Preserves view) (shown : π) :
    ctx.Transfers caps bytesOf stringOf (fun s => Idle s ∧ view s = shown)
      fun array bytes s => Held array bytes s ∧ view s = shown where
  stringBytes string :=
    ((h.stringBytes string).preserving (hctx.stringBytes _ _) shown).mono
      fun _ _ ⟨⟨array, hr, held⟩, rest⟩ => ⟨array, hr, held, rest⟩
  newByteArray len :=
    ((h.newByteArray len).preserving (hctx.newByteArray _) shown).mono
      fun _ _ ⟨⟨array, hr, held⟩, rest⟩ => ⟨array, hr, held, rest⟩
  byteArrayLen array bytes :=
    ((h.byteArrayLen array bytes).preserving (hctx.byteArrayLen _) shown).mono
      fun _ _ ⟨⟨hr, held⟩, rest⟩ => ⟨hr, held, rest⟩
  readByteArray array bytes :=
    ((h.readByteArray array bytes).preserving (hctx.readByteArray _ _) shown).mono
      fun _ _ ⟨⟨hr, held⟩, rest⟩ => ⟨hr, held, rest⟩
  writeByteArray array old bytes same :=
    ((h.writeByteArray array old bytes same).preserving (hctx.writeByteArray _ _) shown).mono
      fun _ _ ⟨⟨hr, held⟩, rest⟩ => ⟨hr, held, rest⟩
  newString array bytes :=
    ((h.newString array bytes).preserving (hctx.newString _ _) shown).mono
      fun _ _ ⟨⟨hr, held⟩, rest⟩ => ⟨hr, held, rest⟩
  releaseBytes array bytes :=
    (h.releaseBytes array bytes).preserving (hctx.releaseBytes _) shown

namespace InProcess

/-- The runtime is not locked for good, refuses no attachment and has no fault armed that a
conversion would meet. -/
structure Willing (s : State) : Prop where
  unlocked : s.runtime.poisoned = false
  accepts : s.runtime.rejectAttach = false
  allocates : s.runtime.failNextAllocation = false
  constructs : s.runtime.throwOnConstruct = false

/-- How a thread stands with a willing runtime: whether it is attached and, if so, whether for a
scope, and whether an exception is pending on it then. -/
structure StandsAs (t : ThreadId) (position : Option Bool) (pending : Bool) (s : State) :
    Prop extends Willing s where
  detached : position = none → s.runtime.standing t = .detached
  attached : ∀ created, position = some created →
    ∃ record, s.runtime.threads.get? t = some record ∧ record.pending.isSome = pending
  forScope : position = some true → s.runtime.standing t = .scoped

theorem StandsAs.contains {t : ThreadId} {position : Option Bool} {pending : Bool} {s : State}
    (h : StandsAs t position pending s) : s.runtime.threads.contains t = position.isSome := by
  rw [Runtime.contains_eq]
  cases position with
  | none => simp [h.detached rfl]
  | some created =>
    obtain ⟨record, hrecord, -⟩ := h.attached created rfl
    simp [Runtime.standing_eq_detached, hrecord]

namespace Context

variable {t : ThreadId} {created pending pending' : Bool}

/-- A change of the record that keeps the owner leaves the thread standing as it does. -/
theorem stands_onRecord {f : ThreadRecord → Except String (α × ThreadRecord)} {Q : α → Prop}
    (h : ∀ old : ThreadRecord, old.pending.isSome = pending → ∃ a record, f old = .ok (a, record) ∧
      Q a ∧ record.external = old.external ∧ record.pending.isSome = pending') :
    (onRecord t f).Returns (StandsAs t (some created) pending)
      fun a s => Q a ∧ StandsAs t (some created) pending' s := by
  intro s hs
  obtain ⟨old, hold, hpending⟩ := hs.attached created rfl
  obtain ⟨a, record, hf, hQ, howner, hpending'⟩ := h old hpending
  have hledger := Runtime.ledger_keepRecord_of_standing hold howner
  refine ⟨a, _, run_onRecord hs.unlocked hold hf, hQ,
    ⟨hs.unlocked, hs.accepts, hs.allocates, hs.constructs⟩, nofun, fun _ _ => ?_, fun hscope => ?_⟩
  · exact ⟨record, (Table.get?_set ..).trans (if_pos rfl), hpending'⟩
  · exact (congrFun (congrArg Ledger.standing hledger) t).trans (hs.forScope hscope)

theorem stands_exceptionPending :
    (exceptionPending t).Returns (StandsAs t (some created) pending)
      fun found s => found = pending ∧ StandsAs t (some created) pending s :=
  stands_onRecord fun old hold => ⟨_, old, rfl, hold, rfl, hold⟩

theorem stands_describeException :
    (describeException t).Returns (StandsAs t (some created) true)
      fun _ => StandsAs t (some created) true := by
  have hread : (readRecord t (·.pending)).Returns (StandsAs t (some created) true)
      fun found s => found.isSome = true ∧ StandsAs t (some created) true s :=
    stands_onRecord fun old hold => ⟨_, old, rfl, hold, rfl, hold⟩
  refine hread.bind fun found => ?_
  rintro s ⟨hfound, hs⟩
  obtain ⟨message, rfl⟩ := Option.isSome_iff_exists.mp hfound
  exact ⟨(), _, rfl, ⟨hs.unlocked, hs.accepts, hs.allocates, hs.constructs⟩, nofun, hs.attached,
    hs.forScope⟩

theorem stands_clearException :
    (clearException t).Returns (StandsAs t (some created) pending)
      fun _ => StandsAs t (some created) false := by
  have hclear : (clearException t).Returns (StandsAs t (some created) pending)
      fun _ s => True ∧ StandsAs t (some created) false s :=
    stands_onRecord fun old _ => ⟨_, { old with pending := none }, rfl, trivial, rfl, rfl⟩
  exact hclear.mono fun _ _ hs => hs.2

theorem stands_throwException (message : String) :
    (throwException t message).Returns (StandsAs t (some created) pending)
      fun _ => StandsAs t (some created) true := by
  have hthrow : (throwException t message).Returns (StandsAs t (some created) pending)
      fun _ s => True ∧ StandsAs t (some created) true s :=
    stands_onRecord fun old _ => ⟨_, { old with pending := some message }, rfl, trivial, rfl, rfl⟩
  exact hthrow.mono fun _ _ hs => hs.2

theorem stands_isAttached (position : Option Bool) :
    (isAttached t).Returns (StandsAs t position pending)
      fun found s => found = position.isSome ∧ StandsAs t position pending s := by
  intro s hs
  refine ⟨_, _, run_isAttached hs.unlocked, ?_, hs⟩
  rw [← Runtime.contains_eq, hs.contains]

/-- A thread that is attached for a scope has no exception pending. -/
theorem stands_attach :
    (attach t).Returns (StandsAs t none pending)
      fun r s => r = .ok () ∧ StandsAs t (some true) false s := by
  intro s hs
  have hnone := (Runtime.standing_eq_detached ..).mp (hs.detached rfl)
  have hledger := Runtime.ledger_attached (hs.detached rfl)
  refine ⟨_, _, run_attach hs.unlocked hs.accepts, rfl,
    ⟨hs.unlocked, hs.accepts, hs.allocates, hs.constructs⟩, nofun, fun _ _ => ⟨{}, ?_, rfl⟩,
    fun _ => ?_⟩
  · refine (Table.get?_set ..).trans ((if_pos rfl).trans ?_)
    rw [Table.getD, hnone]
    rfl
  · exact (congrFun (congrArg Ledger.standing hledger) t).trans (Function.update_self ..)

theorem stands_detach :
    (detach t).Returns (StandsAs t (some true) pending) fun _ => StandsAs t none false := by
  intro s hs
  have hledger := Runtime.ledger_detached s.backend.runtime t
  refine ⟨_, _, run_detach hs.unlocked (hs.forScope rfl),
    ⟨hs.unlocked, hs.accepts, hs.allocates, hs.constructs⟩, fun _ => ?_, nofun, nofun⟩
  exact (congrFun (congrArg Ledger.standing hledger) t).trans (Function.update_self ..)

end Context

section Scopes

variable {t : ThreadId} {pending : Bool}

theorem stands_currentContext (position : Option Bool) :
    (managedRuntime t).currentContext.Returns (StandsAs t position pending)
      fun c? s => c? = position.map (fun _ => t) ∧ StandsAs t position pending s := by
  refine (Context.stands_isAttached position).bind_value ?_
  cases position with
  | none => exact .pure_value _
  | some created => exact .pure_value _

theorem stands_attachCurrentThread :
    (managedRuntime t).attachCurrentThread.Returns (StandsAs t none pending)
      fun r s => r = .ok t ∧ StandsAs t (some true) false s :=
  Context.stands_attach.bind_value (.pure_value _)

end Scopes

end InProcess

namespace Installation

variable {ρ ι : Type} [DecidableEq ρ]

/-- A bridge over the runtime `r`, as a thread has it. -/
def backend [DecidableEq ι] (b : ι) (r : ρ) (t : ThreadId) :
    Backend (Installation ρ ι) ρ Capabilities String ArrayId (ρ × ThreadId) where
  place := bridgeAt b
  runtime := managedRuntime t
  context := context
  raise ref message := (Context.throwException ref.2 message).zoom (runtimeAt ref.1)
  attached s := (s.runtimes r).runtime.threads.contains t

/-- Whether a runtime refuses attachments. -/
def refuses (r : ρ) (s : Installation ρ ι) : Bool := (s.runtimes r).runtime.rejectAttach

theorem context_preserves_refuses (ref : ρ × ThreadId) :
    (context ref).Preserves (refuses (ρ := ρ) (ι := ι) ref.1) := by
  refine (context_preserves_of_overlooks Runtime.overlooks_rejectAttach ref.2).zoom
    (lawful_runtimeAt ref.1) fun s x hx => ?_
  show ((runtimeAt ref.1).get ((runtimeAt ref.1).set x s)).runtime.rejectAttach = _
  rw [(lawful_runtimeAt ref.1).get_set]
  exact hx

/-- The bridge is initialized with a willing runtime, with which the thread stands as said. A string
is known as what it is. -/
structure Placed (b : ι) (r : ρ) (t : ThreadId) (caps : Capabilities)
    (position : Option ((ρ × ThreadId) × Bool)) (pending : Bool) (known : List (String × String))
    (s : Installation ρ ι) : Prop where
  runtime : (s.bridges b).runtime = .ok r
  capabilities : (s.bridges b).capabilities = .ok caps
  own : ∀ scope, position = some scope → scope.1 = (r, t)
  stands : StandsAs t (position.map Prod.snd) pending (s.runtimes r)
  plain : CallContext.Transfers.Plain known

variable {b : ι} {r : ρ} {t : ThreadId} {caps : Capabilities}
  {position position' : Option ((ρ × ThreadId) × Bool)} {pending pending' : Bool}
  {known : List (String × String)}

/-- What a call does to how the thread stands with its runtime it does in the installation. -/
theorem placed_zoom {call : Call State α} {Q : α → Prop}
    (h : call.Returns (StandsAs t (position.map Prod.snd) pending)
      fun a s => Q a ∧ StandsAs t (position'.map Prod.snd) pending' s)
    (hown : ∀ scope, position' = some scope → scope.1 = (r, t)) :
    (call.zoom (runtimeAt r)).Returns (Placed b r t caps position pending known)
      fun a s => Q a ∧ Placed b r t caps position' pending' known s := by
  intro s hs
  obtain ⟨a, u, hrun, ⟨hQ, hu⟩, hruntime, hcaps⟩ := h.zoom_aside (lawful_runtimeAt r)
    (fun s : Installation ρ ι =>
      (s.bridges b).runtime = .ok r ∧ (s.bridges b).capabilities = .ok caps)
    (fun _ _ => id) s ⟨hs.stands, hs.runtime, hs.capabilities⟩
  exact ⟨a, u, hrun, hQ, hruntime, hcaps, hown, hu, hs.plain⟩

theorem placed_after {call : Call State α}
    (h : call.Returns (StandsAs t (position.map Prod.snd) pending)
      fun _ => StandsAs t (position'.map Prod.snd) pending')
    (hown : ∀ scope, position' = some scope → scope.1 = (r, t)) :
    (call.zoom (runtimeAt r)).Returns (Placed b r t caps position pending known)
      fun _ => Placed b r t caps position' pending' known := by
  have h' : call.Returns (StandsAs t (position.map Prod.snd) pending)
      fun _ s => True ∧ StandsAs t (position'.map Prod.snd) pending' s :=
    h.mono fun _ _ hs => ⟨trivial, hs⟩
  exact (placed_zoom h' hown).mono fun _ _ hs => hs.2

variable [DecidableEq ι]

/-- On an attached thread without a pending exception conversions never fail. -/
theorem Placed.carries {c : ρ × ThreadId} {created : Bool} {s : Installation ρ ι}
    (h : Placed b r t caps (some (c, created)) false known s) :
    (backend b r t).CarriesFrom c caps (fun _ => True) (fun _ => False)
      (Placed b r t caps (some (c, created)) false) known s := by
  obtain rfl : c = (r, t) := h.own _ rfl
  obtain ⟨record, hrecord, hpending⟩ := h.stands.attached created rfl
  have hstands : (s.ledger r).standing t ≠ .detached := by
    rw [ne_eq]
    exact fun hnone => nomatch hrecord.symm.trans ((Runtime.standing_eq_detached ..).mp hnone)
  obtain ⟨n, husable, hpart⟩ := Usable.of_standing h.stands.unlocked hstands
  have hcalm (old : ThreadRecord) (hold : (s.runtimes r).runtime.threads.get? t = some old) :
      old.pending = none := by
    obtain rfl : record = old := Option.some.inj (hrecord.symm.trans hold)
    simpa using hpending
  have htransfers :=
    (context_transfers s n caps).preserving (context_preserves_refuses (r, t)) false
  refine ⟨_, _, _, htransfers.carries, ⟨⟨⟨⟨husable, hcalm, h.stands.allocates,
    h.stands.constructs⟩, hpart⟩, h.stands.accepts⟩, h.plain⟩, ?_, fun _ => id⟩
  rintro known' s' ⟨⟨hidle, haccepts⟩, hplain⟩
  have hbridges := hidle.usable.bridges_eq
  have hledger := congrFun hidle.usable.ledger_eq r
  refine ⟨hbridges ▸ h.runtime, hbridges ▸ h.capabilities, h.own,
    ⟨⟨hidle.1.unlocked, haccepts, hidle.1.allocates, hidle.1.constructs⟩, nofun, ?_, ?_⟩, hplain⟩
  · intro _ _
    obtain ⟨record', hrecord', -⟩ := hidle.1.attached
    exact ⟨record', hrecord', by rw [hidle.1.calm record' hrecord']; rfl⟩
  · intro hscope
    exact (congrFun (congrArg Ledger.standing hledger) t).trans (h.stands.forScope hscope)

/-- An in-process runtime serves scripts and fails nothing. -/
theorem backend_serves (b : ι) (r : ρ) (t : ThreadId) (caps : Capabilities) {limit : Nat}
    (hlimit : ∀ len ≤ limit, ByteBuffer.fits len = true) :
    (backend b r t).Serves limit r caps False (fun _ => True) (fun _ => False)
      (Placed b r t caps) where
  attached {position pending known s} h := by
    refine h.stands.contains.trans ?_
    cases position <;> rfl
  forget h := { h with plain := fun entry hentry => h.plain entry (List.mem_append_right _ hentry) }
  initialized h := ⟨h.runtime, h.capabilities⟩
  currentContext position pending known := by
    intro s hs
    obtain ⟨_, u, hrun, rfl, hu⟩ :=
      placed_zoom ((stands_currentContext _).mono fun _ _ => id) hs.own s hs
    refine ⟨_, u, Routine.run_bind_ok hrun _, ?_, hu⟩
    cases position with
    | none => rfl
    | some scope => exact congrArg some (hs.own scope rfl).symm
  attachCurrentThread := by
    have hattach : ((InProcess.managedRuntime t).attachCurrentThread.zoom (runtimeAt r)).Returns
        (Placed b r t caps none false []) fun ended s => ended = .ok t ∧
          Placed b r t caps (some ((r, t), true)) false [] s :=
      placed_zoom stands_attachCurrentThread fun scope hscope => by cases hscope; rfl
    refine hattach.bind_value (.pure fun s hs => .inr ⟨_, rfl, hs⟩)
  detachCurrentThread c pending known := by
    have hdetach : ((InProcess.managedRuntime t).detachCurrentThread.zoom (runtimeAt r)).Returns
        (Placed b r t caps (some (c, true)) pending known)
          fun _ => Placed b r t caps none false known :=
      placed_after Context.stands_detach nofun
    exact hdetach.mono fun _ _ hs => { hs with plain := nofun }
  detachFailed _ := False.elim
  raise c created known message := by
    intro s hs
    obtain rfl : c = (r, t) := hs.own _ rfl
    exact placed_after (Context.stands_throwException message) hs.own s hs
  drains c created known := by
    refine ⟨Placed b r t caps (some (c, created)) true known, fun pending s hs => ?_,
      fun s hs => ?_, fun s hs => ?_⟩
    all_goals obtain rfl : c = (r, t) := hs.own _ rfl
    · exact placed_zoom Context.stands_exceptionPending hs.own s hs
    · exact placed_after Context.stands_describeException hs.own s hs
    · exact placed_after Context.stands_clearException hs.own s hs
  carries := Placed.carries
  fits len hlen := ⟨trivial, hlimit len hlen⟩
  bound := False.elim
  long := False.elim
  detachAlways := False.elim

end Installation

end ManagedBridge
