import ManagedBridge.Proofs.Resolution

/-!
# Reports of exceptions

A pending exception is described by the machine, or cleared and asked for its text. Whatever fails
on the way, no reference is lost that was known before: the ones that are deleted are new. What is
cleared is no longer pending.
-/

namespace ManagedBridge.Jvm

variable {μ ε χ α β e : Type}

/-- The functions by which exceptions are reported and cleared do what they are for. The references
that they hand out are new ones, or null. -/
structure NativeInterface.Reports (jni : NativeInterface μ) (R : Reading μ ε χ) (env : ε) :
    Prop where
  exceptionOccurred : R.Adds env jni.exceptionOccurred fun m throwable _ =>
    R.referent m env throwable = none
  exceptionDescribe : R.Adds env jni.exceptionDescribe fun _ _ _ => True
  exceptionClear : R.Adds env jni.exceptionClear fun _ _ m' => R.pending m' env = false
  getObjectClass : ∀ object, R.Adds env (jni.getObjectClass object) fun m cls _ =>
    R.referent m env cls = none
  callObjectMethod : ∀ object method args,
    R.Adds env (jni.callObjectMethod object method args) fun m result _ =>
      R.referent m env result = none
  isAssignableFrom : ∀ sub super, R.Adds env (jni.isAssignableFrom sub super) fun _ _ _ => True
  getStringUtfChars : ∀ string, R.Adds env (jni.getStringUtfChars string) fun _ _ _ => True
  releaseStringUtfChars : ∀ string, R.Adds env (jni.releaseStringUtfChars string) fun _ _ _ => True

section Recorded

variable {R : Reading μ ε χ} {env : ε} {ω : Type} {f : StateM μ α} {post : μ → α → μ → Prop}

theorem Reading.Adds.recorded (h : R.Adds env f post) (note : μ → NativeCall → ω)
    (call : NativeCall) :
    (R.beside (List ω)).Adds env (call.recorded note f) fun m a m' => post m.1 a m'.1 :=
  fun m hm => ⟨(h m.1 hm).1.beside, (h m.1 hm).2⟩

theorem NativeInterface.Reports.recorded {jni : NativeInterface μ} (h : jni.Reports R env)
    (note : μ → NativeCall → ω) : (jni.recorded note).Reports (R.beside (List ω)) env where
  exceptionOccurred := h.exceptionOccurred.recorded _ _
  exceptionDescribe := h.exceptionDescribe.recorded _ _
  exceptionClear := h.exceptionClear.recorded _ _
  getObjectClass object := (h.getObjectClass object).recorded _ _
  callObjectMethod object method args := (h.callObjectMethod object method args).recorded _ _
  isAssignableFrom sub super := (h.isAssignableFrom sub super).recorded _ _
  getStringUtfChars string := (h.getStringUtfChars string).recorded _ _
  releaseStringUtfChars string := (h.releaseStringUtfChars string).recorded _ _

end Recorded

section Steady

variable {R : Reading μ ε χ} {C : Charsets χ} {stringClass : String} {env : ε}
  {s₀ : Site (Link μ)} {jni : NativeInterface μ} {P : α → Prop} {Q : β → Prop}

/-- If nothing has been lost since `s₀`, nothing is after the call either. It ends with an error or
with a result as `P` says. -/
def Steady (R : Reading μ ε χ) (env : ε) (s₀ : Site (Link μ)) (x : ExceptT e (Call (Link μ)) α)
    (P : α → Prop) : Prop :=
  Routine.Returns (Kept R env Reading.nothing s₀) x.run
    fun r s => (∀ a, r = .ok a → P a) ∧ Kept R env Reading.nothing s₀ s

namespace Steady

theorem pure {a : α} (ha : P a) :
    Steady R env s₀ (Pure.pure a : ExceptT e (Call (Link μ)) α) P :=
  Routine.Returns.pure fun _ hs => ⟨fun _ h => Except.ok.inj h ▸ ha, hs⟩

theorem throw (error : e) : Steady R env s₀ (throw error : ExceptT e (Call (Link μ)) α) P :=
  Routine.Returns.pure fun _ hs => ⟨nofun, hs⟩

theorem bind {x : ExceptT e (Call (Link μ)) α} {f : α → ExceptT e (Call (Link μ)) β}
    (hx : Steady R env s₀ x P) (hf : ∀ a, P a → Steady R env s₀ (f a) Q) :
    Steady R env s₀ (x >>= f) Q := by
  refine Routine.Returns.bind hx fun r => ?_
  rintro s ⟨hr, hs⟩
  cases r with
  | error error => exact ⟨_, s, rfl, nofun, hs⟩
  | ok a => exact hf a (hr a rfl) s hs

theorem lift {x : Call (Link μ) α} (hx : Routine.Returns (Kept R env Reading.nothing s₀) x
    fun a s => P a ∧ Kept R env Reading.nothing s₀ s) :
    Steady R env s₀ (ExceptT.lift x : ExceptT e (Call (Link μ)) α) P :=
  Routine.Returns.bind hx fun _ => Routine.Returns.pure fun _ ⟨ha, hs⟩ =>
    ⟨fun _ h => Except.ok.inj h ▸ ha, hs⟩

/-- What ends either way ends so that it can be asked which. -/
theorem attempt {x : Checked μ α} (hx : Steady R env s₀ x P) :
    Steady R env s₀ (Checked.attempt x) fun _ => True :=
  lift (Routine.Returns.mono hx fun _ _ ⟨_, hs⟩ => ⟨trivial, hs⟩)

/-- A function that loses nothing. -/
theorem enter {entry : Entry} {f : StateM μ α} {post : μ → α → μ → Prop}
    (provided : jni.provides entry = true) (hf : R.Adds env f post)
    (hP : ∀ m a m', R.Keeps env Reading.nothing s₀.backend.machine m → post m a m' → P a) :
    Steady R env s₀ (Checked.enter jni entry f) P := by
  rw [Checked.enter, if_pos provided]
  refine lift fun s hs => ?_
  obtain ⟨hkeeps, hpost⟩ := hf _ hs.machine.callable
  exact ⟨_, _, rfl, hP _ _ _ hs.machine hpost, hs.trans ⟨hkeeps, rfl⟩⟩

theorem enter_any {entry : Entry} {f : StateM μ α} {post : μ → α → μ → Prop}
    (provided : jni.provides entry = true) (hf : R.Adds env f post) :
    Steady R env s₀ (Checked.enter jni entry f) fun _ => True :=
  enter provided hf fun _ _ _ _ _ => trivial

end Steady

/-- A function that may throw loses nothing by it. -/
theorem Reading.Throws.adds {f : StateM μ α} {post : μ → α → μ → Prop}
    (h : R.Throws env Reading.nothing f post) : R.Adds env f fun _ _ _ => True :=
  fun m hm => ⟨(h m hm).1, trivial⟩

theorem Reading.Silent.adds {f : StateM μ α} {post : μ → α → μ → Prop}
    (h : R.Silent env Reading.nothing f post) : R.Adds env f fun _ _ _ => True :=
  fun m hm => ⟨(h m hm).1, trivial⟩

/-- A note leaves everything as it is. -/
theorem note_kept (line : LogLine) :
    Routine.Returns (Kept R env Reading.nothing s₀) (Call.note line)
      fun _ => Kept R env Reading.nothing s₀ :=
  fun _ hs => ⟨(), _, rfl, hs.machine, hs.guarded⟩

section Calls

variable (faithful : jni.Faithful R C stringClass env)

include faithful

theorem orException_steady {entry : Entry} {f : StateM μ α} {post : μ → α → μ → Prop}
    (hf : R.Adds env f post)
    (hP : ∀ m a m', R.Keeps env Reading.nothing s₀.backend.machine m → post m a m' → P a) :
    Steady R env s₀ (Checked.orException jni entry f) P := by
  refine (Steady.enter (faithful.provides _) hf hP).bind fun a ha => ?_
  refine (Steady.enter_any (faithful.provides _) faithful.exceptionCheck.adds).bind
    fun thrown _ => ?_
  cases thrown with
  | true => exact .throw _
  | false => exact .pure ha

theorem orNull_steady {entry : Entry} {f : StateM μ (Option α)}
    {post : μ → Option α → μ → Prop} (hf : R.Adds env f post) :
    Steady R env s₀ (Checked.orNull jni entry f) fun _ => True := by
  refine (orException_steady (P := fun _ => True) faithful hf fun _ _ _ _ _ => trivial).bind
    fun a? _ => ?_
  cases a? with
  | none => exact .throw _
  | some a => exact .pure trivial

/-- A reference that was not known at `s₀` is deleted. -/
theorem deleteLocalRef_kept {ref : Ref} (fresh : R.referent s₀.backend.machine env ref = none)
    {s : Site (Link μ)} (hs : Kept R env Reading.nothing s₀ s) :
    Kept R env Reading.nothing s₀ (Link.after (jni.deleteLocalRef ref) s) :=
  ⟨hs.machine.forget fresh (faithful.deleteLocalRef ref _ hs.machine.callable).1, hs.guarded⟩

theorem dropLocal_steady {ref : Ref} (fresh : R.referent s₀.backend.machine env ref = none) :
    Routine.Returns (Kept R env Reading.nothing s₀) (Context.dropLocal jni ref)
      fun _ s => True ∧ Kept R env Reading.nothing s₀ s :=
  fun s hs => ⟨(), _, dropLocal_run faithful ref s, trivial, deleteLocalRef_kept faithful fresh hs⟩

theorem thenDelete_steady {ref : Ref} (fresh : R.referent s₀.backend.machine env ref = none)
    {body : Checked μ α} (hbody : Steady R env s₀ body P) :
    Steady R env s₀ (Checked.thenDelete jni ref body) P := by
  intro s hs
  obtain ⟨r, u, hrun, hr, hu⟩ := hbody s hs
  refine ⟨r, _, ?_, hr, deleteLocalRef_kept faithful fresh hu⟩
  refine (Routine.run_bind_ok hrun _).trans ?_
  exact Routine.run_bind_ok (deleteLocalRef_succeeds faithful ref u) _

variable (reports : jni.Reports R env)

include reports

/-- What a method comes back with was not known before. -/
theorem callMethod_steady (object : Ref) (name signature : String) (args : List Ref) :
    Steady R env s₀ (Checked.callMethod jni object name signature args)
      fun result => R.referent s₀.backend.machine env result = none := by
  refine (Steady.enter (faithful.provides _) (reports.getObjectClass object)
    fun m cls _ hkeeps hnew => hkeeps.fresh hnew).bind fun cls hfresh => ?_
  refine thenDelete_steady faithful hfresh ?_
  have hmethod : Steady R env s₀ (Checked.getMethodId jni cls name signature) fun _ => True := by
    refine (orException_steady (P := fun _ => True) faithful
      (faithful.getMethodId cls name signature).adds fun _ _ _ _ _ => trivial).bind
        fun found _ => ?_
    cases found with
    | none => exact .throw _
    | some method => exact .pure trivial
  refine hmethod.bind fun method _ => ?_
  exact orException_steady faithful (reports.callObjectMethod object method args)
    fun m result _ hkeeps hnew => hkeeps.fresh hnew

theorem getString_steady (string : Ref) :
    Steady R env s₀ (Checked.getString jni string) fun _ => True := by
  refine (orNull_steady faithful (faithful.findClass _).adds).bind fun expected _ => ?_
  refine (Steady.enter_any (faithful.provides _) (reports.getObjectClass string)).bind
    fun actual _ => ?_
  refine (Steady.enter_any (faithful.provides _) (reports.isAssignableFrom _ _)).bind
    fun assignable _ => ?_
  have hread : Steady R env s₀ (do
      let text ← Checked.orNull jni .getStringUtfChars (jni.getStringUtfChars string)
      let _ ← Checked.attempt
        (Checked.enter jni .releaseStringUtfChars (jni.releaseStringUtfChars string))
      return text) fun _ => True := by
    refine (orNull_steady faithful (reports.getStringUtfChars string)).bind fun text _ => ?_
    refine (Steady.enter_any (faithful.provides _)
      (reports.releaseStringUtfChars string)).attempt.bind fun _ _ => ?_
    exact .pure trivial
  cases assignable with
  | true => exact hread
  | false => exact .throw _

theorem throwableText_steady (throwable : Ref) :
    Steady R env s₀ (Context.throwableText jni throwable) fun _ => True := by
  refine (callMethod_steady faithful reports throwable _ _ _).bind fun text hfresh => ?_
  cases text with
  | none => exact .pure trivial
  | some text =>
    refine (getString_steady faithful reports (some text)).bind fun summary _ => ?_
    exact (Steady.lift (dropLocal_steady faithful hfresh)).bind fun _ _ => .pure trivial

theorem takeSummary_steady : Steady R env s₀ (Context.takeSummary jni) fun _ => True := by
  refine (Steady.enter (faithful.provides _) reports.exceptionOccurred
    fun m throwable _ hkeeps hnew => hkeeps.fresh hnew).bind fun throwable hfresh => ?_
  cases throwable with
  | none => exact .pure trivial
  | some throwable =>
    refine (Steady.enter_any (faithful.provides _) reports.exceptionClear).bind fun _ _ => ?_
    refine (throwableText_steady faithful reports (some throwable)).attempt.bind fun summary _ => ?_
    refine (Steady.lift (dropLocal_steady faithful hfresh)).bind fun _ _ => ?_
    cases summary with
    | error error => exact .throw error
    | ok text => exact .pure trivial

omit reports in
/-- Whether an exception is pending can be asked, and stays so. -/
theorem pending_kept (pending : Bool) :
    Routine.Returns (fun s => Kept R env Reading.nothing s₀ s ∧
        R.pending s.backend.machine env = pending) (Context.pending jni)
      fun found s => found = pending ∧ Kept R env Reading.nothing s₀ s ∧
        R.pending s.backend.machine env = pending := by
  rintro s ⟨hs, rfl⟩
  obtain ⟨hkeeps, hsame, hpending⟩ := faithful.exceptionCheck _ hs.machine.callable
  refine ⟨_, Link.after jni.exceptionCheck s, ?_, hpending, hs.trans ⟨hkeeps, rfl⟩, hsame⟩
  refine Routine.run_bind_ok
    (a := (.ok (jni.exceptionCheck s.backend.machine).1 : Except CallError Bool)) ?_ _
  rw [Checked.exceptionCheck, Checked.enter, if_pos (faithful.provides _)]
  rfl

/-- A report of an exception loses nothing that was known, whether or not it succeeds. -/
theorem describe_kept (byMachine : Bool) :
    Routine.Returns (Kept R env Reading.nothing s₀) (Context.describe jni byMachine)
      fun _ => Kept R env Reading.nothing s₀ := by
  cases byMachine with
  | true =>
    refine Routine.Returns.bind
      (Steady.enter_any (faithful.provides _) reports.exceptionDescribe) fun r => ?_
    rintro s ⟨-, hs⟩
    cases r with
    | ok => exact ⟨(), s, rfl, hs⟩
    | error error => exact note_kept _ s hs
  | false =>
    refine Routine.Returns.bind (takeSummary_steady faithful reports) fun r => ?_
    rintro s ⟨-, hs⟩
    rcases r with error | _ | summary
    · exact note_kept _ s hs
    · exact ⟨(), s, rfl, hs⟩
    · exact note_kept _ s hs

/-- What was pending is cleared. -/
theorem clear_kept :
    Routine.Returns (Kept R env Reading.nothing s₀) (Context.clear jni)
      fun _ s => Kept R env Reading.nothing s₀ s ∧ R.pending s.backend.machine env = false := by
  intro s hs
  obtain ⟨hkeeps, hclear⟩ := reports.exceptionClear _ hs.machine.callable
  refine ⟨(), Link.after jni.exceptionClear s, ?_, hs.trans ⟨hkeeps, rfl⟩, hclear⟩
  refine Routine.run_bind_ok (a := (.ok () : Except CallError Unit)) ?_ _
  rw [Checked.exceptionClear, Checked.enter, if_pos (faithful.provides _)]
  rfl

end Calls

end Steady

end ManagedBridge.Jvm
