import ManagedBridge.Proofs.Deeds

/-!
# What a deed changes

Whatever a thread does, and however that ends, it comes to one of a few changes of the books and of
the scopes, together with the event that it is. A thread that keeps to the orderly deeds never
panics, as long as no table of threads is locked for good, and locks none.
-/

namespace ManagedBridge.Installation

open InProcess

variable {ρ ι α : Type} [DecidableEq ρ]

/-- What one step of a thread can do to the books and to the scopes, with the event that it is. -/
inductive Change (t : ThreadId) (books : ρ → Book) (scopes : Scopes ρ) :
    Option BridgeEvent → (ρ → Book) → Scopes ρ → Prop
  | same : Change t books scopes none books scopes
  | converted {event} (h : event = .toNative ∨ event = .toManaged) :
    Change t books scopes (some event) books scopes
  | drained (r : ρ) :
    Change t books scopes (some .exceptionDrained) (Function.update books r (books r).report) scopes
  | reused (r : ρ) : Change t books scopes (some .reuse) books (scopes.enter ⟨r, t, ⟨false⟩⟩)
  | attached {r : ρ} (h : (books r).ledger.standing t = .detached) :
    Change t books scopes (some .attach)
      (Function.update books r { books r with ledger := (books r).ledger.attach t })
      (scopes.enter ⟨r, t, ⟨true⟩⟩)
  | left {r : ρ} (h : ⟨r, t, ⟨false⟩⟩ ∈ scopes.live) :
    Change t books scopes none books (scopes.leave ⟨r, t, ⟨false⟩⟩)
  | detached {r : ρ} (h : ⟨r, t, ⟨true⟩⟩ ∈ scopes.live) :
    Change t books scopes (some .detach)
      (Function.update books r { books r with ledger := (books r).ledger.detach t })
      (scopes.leave ⟨r, t, ⟨true⟩⟩)
  /-- The runtime counts that it is to detach the thread, and panics. -/
  | lost {r : ρ} (h : ⟨r, t, ⟨true⟩⟩ ∈ scopes.live) :
    Change t books scopes none
      (Function.update books r { books r with ledger := (books r).ledger.countDetach })
      (scopes.lose ⟨r, t, ⟨true⟩⟩)
  /-- Others attach or detach the thread. -/
  | stood {r : ρ} {standing : Standing} (hold : (books r).ledger.standing t ≠ .scoped)
      (hnew : standing ≠ .scoped) :
    Change t books scopes none
      (Function.update books r { books r with ledger := (books r).ledger.stand t standing }) scopes

/-- No runtime's table of threads is locked for good. -/
def Unlocked (s : Installation ρ ι) : Prop := ∀ r, (s.ledger r).poisoned = false

theorem Unlocked.onRuntime {s : Installation ρ ι} (h : s.Unlocked) {r : ρ} {f : Runtime → Runtime}
    (hf : ∀ runtime, (f runtime).poisoned = runtime.poisoned) : (s.onRuntime r f).Unlocked := by
  intro q
  rw [ledger_onRuntime, Function.update_apply]
  split
  · exact (hf _).trans (h r)
  · exact h q

omit [DecidableEq ρ] in
theorem Unlocked.not_locked {s : Installation ρ ι} (h : s.Unlocked) {r : ρ}
    (hlocked : (s.ledger r).poisoned = true) : False := by
  rw [h r] at hlocked
  cases hlocked

/-- The threads of the live scopes that attached them are attached for a scope. -/
def Scopes.Hold (scopes : Scopes ρ) (s : Installation ρ ι) : Prop :=
  ∀ scope ∈ scopes.live, scope.attachment.created = true →
    (s.ledger scope.runtime).standing scope.thread = .scoped

/-- What a deed comes to that starts in the world `w` and ends so in the world `v`. -/
structure Deed.Settles (deed : Deed ρ ι α) (t : ThreadId) (scopes : Scopes ρ)
    (w : World (Installation ρ ι)) (ended : Except Panic α) (v : World (Installation ρ ι)) :
    Prop where
  change : Change t w.backend.books scopes (ended.toOption.bind deed.event?) v.backend.books
    (deed.left t scopes ended)
  orderly : deed.Orderly w.backend scopes t → w.backend.Unlocked →
    (∃ a, ended = .ok a) ∧ v.backend.Unlocked

section Settling

variable {w v : World (Installation ρ ι)} {scopes : Scopes ρ} {t : ThreadId}

/-- A change of one runtime, made past all bridges. -/
theorem run_direct {r : ρ} {call : Call State Unit} {f : Runtime → Runtime}
    (hrun : call.run ⟨w.backend.runtimes r, w.log⟩ =
      (.ok (), ⟨InProcess.onRuntime f (w.backend.runtimes r), w.log⟩)) :
    (direct r call).run w = (.ok (), { w with backend := w.backend.onRuntime r f }) := by
  rw [direct, Call.run_inWorld, run_zoom hrun]

/-- A scope that attached its thread cannot be left once its runtime is locked for good: the runtime
counts that it is to detach the thread, and panics. -/
theorem run_exit_poisoned {r : ρ} (h : (w.backend.ledger r).poisoned = true) :
    (Attachment.exit (managedRuntime t r) ⟨true⟩).run w =
      (.error (.raised poisonedLock),
        { w with backend := w.backend.onRuntime r Runtime.countDetach }) := by
  have hdetach : (managedRuntime (ι := ι) t r).detachCurrentThread.run w.toSite =
      (.error (.raised poisonedLock), ⟨w.backend.onRuntime r Runtime.countDetach, w.log⟩) := by
    refine run_zoom ?_
    refine (Routine.run_bind_ok (InProcess.Context.run_modifyRuntime _) _).trans ?_
    exact Routine.run_bind_error (InProcess.Context.run_onThreads_poisoned (by exact h) _) _
  have hlifted := Call.run_monadLift (managedRuntime (ι := ι) t r).detachCurrentThread w
  rw [hdetach] at hlifted
  exact Routine.run_bind_error hlifted _

/-- Entering a scope of any runtime, be it locked for good or refusing. -/
theorem enter_settles (r : ρ) (t : ThreadId) (w : World (Installation ρ ι)) (scopes : Scopes ρ) :
    ∃ entered v, (Attachment.enter (managedRuntime t r)).run w =
        (entered.map (Except.map fun attachment => ((r, t), attachment)), v) ∧
      (Deed.enter r : Deed ρ ι _).Settles t scopes w entered v := by
  cases hopen : (w.backend.ledger r).poisoned with
  | true =>
    refine ⟨.error _, _, run_enter_poisoned hopen, .same, fun _ hunlocked => ?_⟩
    exact (hunlocked.not_locked hopen).elim
  | false =>
    by_cases hstanding : (w.backend.ledger r).standing t = .detached
    · cases hreject : (w.backend.runtimes r).runtime.rejectAttach with
      | true =>
        refine ⟨.ok (.error _), _, run_enter_refused hopen hstanding hreject, .same, ?_⟩
        exact fun _ hunlocked => ⟨⟨_, rfl⟩, hunlocked⟩
      | false =>
        refine ⟨.ok (.ok ⟨true⟩), _, run_enter_attach hopen hstanding hreject, ?_, ?_⟩
        · dsimp only
          rw [books_onRuntime, Runtime.book_attached hstanding]
          exact .attached hstanding
        · exact fun _ hunlocked => ⟨⟨_, rfl⟩, hunlocked.onRuntime fun _ => rfl⟩
    · refine ⟨.ok (.ok ⟨false⟩), _, run_enter_reuse hopen hstanding, .reused r, ?_⟩
      exact fun _ hunlocked => ⟨⟨_, rfl⟩, hunlocked⟩

/-- A call on a context changes no book, be the thread attached or not. -/
theorem directCall_preserves (r : ρ) (t : ThreadId) (what : DirectCall α) :
    (what.on (context (r, t)) : Call (Installation ρ ι) α).Preserves books :=
  DirectCall.on_meets (context_preserves (ι := ι) (r, t)).meets what

/-- Others attach and detach a thread by one change of its standing, or not at all. -/
theorem direct_change {r : ρ} (scopes : Scopes ρ)
    (change : Table ThreadId ThreadRecord → Table ThreadId ThreadRecord) {standing : Standing}
    (hbook : ∀ runtime : Runtime, Runtime.book { runtime with threads := change runtime.threads } =
      { runtime.book with ledger := runtime.book.ledger.stand t standing })
    (hold : (w.backend.ledger r).standing t ≠ .scoped) (hnew : standing ≠ .scoped) :
    ∃ ended v, (direct r (Context.modifyThreads change)).run w = (ended, v) ∧
      Change t w.backend.books scopes none v.backend.books scopes ∧
      (w.backend.Unlocked → (∃ a, ended = .ok a) ∧ v.backend.Unlocked) := by
  cases hopen : (w.backend.ledger r).poisoned with
  | true =>
    refine ⟨.error (.raised poisonedLock), w, ?_, .same, fun hunlocked => ?_⟩
    · have hrefused : ((Context.modifyThreads change).zoom (runtimeAt r)).run w.toSite =
          (.error (.raised poisonedLock), w.toSite) :=
        run_zoom_same (InProcess.Context.run_onThreads_poisoned hopen _)
      rw [direct, Call.run_inWorld, hrefused]
    · exact (hunlocked.not_locked hopen).elim
  | false =>
    refine ⟨_, _, run_direct (InProcess.Context.run_modifyThreads (by exact hopen) change), ?_,
      fun hunlocked => ⟨⟨_, rfl⟩, hunlocked.onRuntime fun _ => rfl⟩⟩
    dsimp only
    rw [books_onRuntime, hbook]
    exact .stood hold hnew

/-- Leaving a live scope on its thread, be its runtime locked for good or not. -/
theorem exit_settles (hold : scopes.Hold w.backend) {scope : EnteredScope ρ}
    (hmem : scope ∈ scopes.live) (raw : Bool) :
    ∃ ended v, (Attachment.exit (managedRuntime scope.thread scope.runtime) scope.attachment).run w
        = (ended, v) ∧
      (Deed.exit scope raw : Deed ρ ι Unit).Settles scope.thread scopes w ended v := by
  obtain ⟨r, t, ⟨_ | _⟩⟩ := scope
  · exact ⟨_, _, Attachment.run_exit_reused, .left hmem, fun _ hunlocked => ⟨⟨_, rfl⟩, hunlocked⟩⟩
  · cases hopen : (w.backend.ledger r).poisoned with
    | true =>
      refine ⟨_, _, run_exit_poisoned hopen, ?_, fun _ hunlocked => ?_⟩
      · dsimp only
        rw [books_onRuntime]
        exact .lost hmem
      · exact (hunlocked.not_locked hopen).elim
    | false =>
      refine ⟨_, _, run_exit_created hopen (hold _ hmem rfl), ?_,
        fun _ hunlocked => ⟨⟨_, rfl⟩, hunlocked.onRuntime fun _ => rfl⟩⟩
      dsimp only
      rw [books_onRuntime, Runtime.book_detached]
      exact .detached hmem

variable [DecidableEq ι]

/-- Attaching through a bridge is entering a scope of the runtime that the bridge has, if it has
one. -/
theorem attach_settles [Memory] (b : ι) (t : ThreadId) (w : World (Installation ρ ι))
    (scopes : Scopes ρ) :
    ∃ ended v, ((Deed.attach b : Deed ρ ι _).act t).run w = (ended, v) ∧
      (Deed.attach b : Deed ρ ι _).Settles t scopes w ended v := by
  cases hruntime : (bridgeAt b |>.get w.backend).runtime with
  | error e =>
    exact ⟨_, _, Routine.run_bind_ok (Bridge.run_attach_unset hruntime) _, .same,
      fun _ hunlocked => ⟨⟨_, rfl⟩, hunlocked⟩⟩
  | ok r =>
    obtain ⟨entered, u, hrun, hsettles⟩ := enter_settles r t w scopes
    have hattach : (Bridge.attach (bridgeAt b) (managedRuntime t)).run w = _ :=
      Bridge.run_attach hruntime
    rw [hrun] at hattach
    refine ⟨entered.map (Except.map fun attachment => (r, attachment)), u, ?_, ?_, ?_⟩
    · rw [Deed.act, Routine.run_bind, hattach]
      rcases entered with _ | _ | _ <;> rfl
    · rcases entered with _ | _ | _ <;> exact hsettles.change
    · intro _ hunlocked
      obtain ⟨⟨a, rfl⟩, hkept⟩ := hsettles.orderly trivial hunlocked
      exact ⟨⟨_, rfl⟩, hkept⟩

omit [DecidableEq ι] in
/-- What leaves the books as they are and is no event, however it ends, changes nothing. -/
theorem change_of_preserves {act : Act (Installation ρ ι) α} (hact : act.Preserves books)
    {event? : α → Option BridgeEvent} (hevent : ∀ a, event? a = none) {ended : Except Panic α}
    (performed : act.run w = (ended, v)) :
    Change t w.backend.books scopes (ended.toOption.bind event?) v.backend.books scopes := by
  have hnone : ended.toOption.bind event? = none := by
    rcases ended with _ | a
    · rfl
    · exact hevent a
  rw [hact.of_run performed, hnone]
  exact .same

/-- A use of a context, be the thread attached or not, is one of the changes. -/
theorem use_change [Memory] {r : ρ} {what : ContextUse ι α} {ended : Except Panic α}
    (performed : (use (r, t) what).run w = (ended, v)) :
    Change t w.backend.books scopes (ended.toOption.bind what.event?) v.backend.books scopes := by
  have hctx := context_preserves (ι := ι) (r, t)
  have converted {β : Type} {event : BridgeEvent} {act : Act (Installation ρ ι) _}
      (hact : act.Preserves books) (hevent : event = .toNative ∨ event = .toManaged)
      {ended : Except Panic (Except BridgeError (Option β))} (hrun : act.run w = (ended, v)) :
      Change t w.backend.books scopes (ended.toOption.bind (converted? event)) v.backend.books
        scopes := by
    have hbooks : v.backend.books = w.backend.books := hact.of_run hrun
    rw [hbooks]
    rcases ended with panic | e | _ | a
    · exact .same
    · exact .same
    · exact .same
    · exact .converted hevent
  cases what with
  | toNative caps string? => exact converted (hctx.toNative caps string?) (.inl rfl) performed
  | toManaged caps bytes? => exact converted (hctx.toManaged caps bytes?) (.inr rfl) performed
  | nativeFromManaged b string? =>
    exact converted (hctx.nativeFromManaged string?) (.inl rfl) performed
  | managedFromNative b bytes? =>
    exact converted (hctx.managedFromNative bytes?) (.inr rfl) performed
  | stringFromManaged b string? =>
    exact converted (hctx.stringFromManaged string?) (.inl rfl) performed
  | throwException message =>
    have hpreserved := preserves_zoom (ι := ι) (ρ := ρ) (r := r)
      (InProcess.Context.preserves_throwException (t := t) Runtime.overlooks_book message)
    exact change_of_preserves hpreserved.monadLift (fun _ => rfl) performed
  | drain =>
    obtain ⟨ended', u, hrun, hbooks⟩ := run_drain_books r t w
    cases performed.symm.trans hrun
    rcases hbooks with ⟨rfl, hbooks⟩ | ⟨hended, hbooks⟩ <;> rw [hbooks]
    · exact .drained r
    · rcases ended with panic | _ | _
      · exact .same
      · exact .same
      · exact absurd rfl hended

/-- Using a context of a thread that is attached returns, and locks no table. -/
theorem use_orderly [Memory] {r : ρ} {what : ContextUse ι α} {ended : Except Panic α}
    (hattached : (w.backend.ledger r).standing t ≠ .detached) (hunlocked : w.backend.Unlocked)
    (performed : (use (r, t) what).run w = (ended, v)) :
    (∃ a, ended = .ok a) ∧ v.backend.Unlocked := by
  obtain ⟨a, u, hrun, hledger, -⟩ := run_use (hunlocked r) hattached what
  cases performed.symm.trans hrun
  exact ⟨⟨a, rfl⟩, fun q => hledger ▸ hunlocked q⟩

/-- Every deed that is allowed comes to one of the changes, however it ends. -/
theorem Deed.act_settles [Memory] (hold : scopes.Hold w.backend) {deed : Deed ρ ι α}
    (allowed : deed.Allowed w.backend scopes t) {ended : Except Panic α}
    (performed : (deed.act t).run w = (ended, v)) : deed.Settles t scopes w ended v := by
  have settle {ended' v'} (hrun : (deed.act t).run w = (ended', v')) : ended = ended' ∧ v = v' :=
    Prod.mk.injEq .. ▸ performed.symm.trans hrun
  cases deed with
  | enter r =>
    obtain ⟨entered, u, hrun, hsettles⟩ := enter_settles r t w scopes
    obtain ⟨rfl, rfl⟩ := settle (Deed.run_enter hrun)
    exact hsettles
  | attach b =>
    obtain ⟨ended', u, hrun, hsettles⟩ := attach_settles b t w scopes
    obtain ⟨rfl, rfl⟩ := settle hrun
    exact hsettles
  | exit scope raw =>
    obtain ⟨hmem, rfl⟩ := allowed
    obtain ⟨ended', u, hrun, hsettles⟩ := exit_settles hold hmem raw
    have hact : ((Deed.exit scope raw : Deed ρ ι _).act scope.thread).run w = (ended', u) := by
      cases raw <;> exact hrun
    obtain ⟨rfl, rfl⟩ := settle hact
    exact hsettles
  | use r what => exact ⟨use_change performed, fun h hunlocked => use_orderly h hunlocked performed⟩
  | call r what =>
    have hpreserved := (directCall_preserves (ι := ι) r t what).monadLift
    exact ⟨change_of_preserves hpreserved (fun _ => rfl) performed, False.elim⟩
  | start b r =>
    have hpreserved : Act.Preserves books (liftM (Bridge.start (bridgeAt b) r (context (r, t)))) :=
      ((context_preserves (ι := ι) (r, t)).start (fun _ _ => rfl) r).monadLift
    exact ⟨change_of_preserves hpreserved (fun _ => rfl) performed, False.elim⟩
  | setFlag r flag value =>
    obtain ⟨rfl, rfl⟩ := settle (run_direct (InProcess.Context.run_modifyRuntime _))
    refine ⟨?_, fun _ hunlocked => ⟨⟨_, rfl⟩, hunlocked.onRuntime fun q => ?_⟩⟩
    · dsimp only
      rw [books_onRuntime, Runtime.book_setFlag]
      exact (Function.update_eq_self r w.backend.books).symm ▸ .same
    · cases flag <;> rfl
  | attachExternally r =>
    obtain ⟨ended', u, hrun, hchange, hreturns⟩ :=
      direct_change scopes (·.set t { external := true })
        (fun runtime => runtime.book_keepRecord t { external := true })
        (Eq.trans_ne allowed nofun) nofun
    obtain ⟨rfl, rfl⟩ := settle hrun
    exact ⟨by cases ended <;> exact hchange, fun _ => hreturns⟩
  | detachExternally r =>
    obtain ⟨ended', u, hrun, hchange, hreturns⟩ :=
      direct_change scopes (·.erase t) (fun runtime => runtime.book_eraseRecord t)
        (Eq.trans_ne allowed nofun) nofun
    obtain ⟨rfl, rfl⟩ := settle hrun
    exact ⟨by cases ended <;> exact hchange, fun _ => hreturns⟩

end Settling

end ManagedBridge.Installation
