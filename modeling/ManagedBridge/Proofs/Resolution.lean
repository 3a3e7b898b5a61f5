import ManagedBridge.Proofs.Strings

/-!
# Resolved capabilities

A resolution that succeeds has found the configured class with its two methods and the charset that
goes by the configured name, and keeps both by global references. The local references that it
needed on the way are new ones, so nothing that was known before is lost with them.
-/

namespace ManagedBridge.Jvm

variable {μ ε χ : Type} {R : Reading μ ε χ} {C : Charsets χ} {stringClass : String} {env : ε}
  {jni : NativeInterface μ} {s t : Site (Link μ)}

/-- Two references that lead to different things are different. -/
theorem Reading.ne_of_referent {m : μ} {ref ref' : Ref} {o o' : Referent χ}
    (h : R.referent m env ref = some o) (h' : R.referent m env ref' = some o') (hne : o ≠ o') :
    ref ≠ ref' := by
  rintro rfl
  exact hne (Option.some.inj (h.symm.trans h'))

theorem findClass_succeeds (faithful : jni.Faithful R C stringClass env) {name : String}
    {cls : Handle} (hs : R.callable s.backend.machine env)
    (run : Succeeds (Checked.findClass jni name) s cls t) :
    R.referent t.backend.machine env (some cls) = some (.classOf name) ∧
      R.referent s.backend.machine env (some cls) = none ∧
      R.Keeps env Reading.nothing s.backend.machine t.backend.machine := by
  obtain ⟨m, ⟨hleads, hnew⟩, hkeeps, hcalm⟩ :=
    run.of_orNull faithful (faithful.findClass name) hs
  exact ⟨hkeeps.referent (hleads cls rfl) id, hnew rfl, hcalm.machine⟩

theorem newStringUtf_succeeds (faithful : jni.Faithful R C stringClass env) {text : String}
    {string : Handle} (hs : R.callable s.backend.machine env)
    (run : Succeeds (Checked.newStringUtf jni text) s string t) :
    R.referent t.backend.machine env (some string) = some (.text (Text.Utf16.encode text)) ∧
      R.referent s.backend.machine env (some string) = none ∧
      R.Keeps env Reading.nothing s.backend.machine t.backend.machine := by
  obtain ⟨m, ⟨hleads, hnew⟩, hkeeps, hcalm⟩ :=
    run.of_orNull faithful (faithful.newStringUtf text) hs
  exact ⟨hkeeps.referent (hleads string rfl) id, hnew rfl, hcalm.machine⟩

/-- A lookup that succeeds has found the method. -/
theorem Succeeds.of_orMethodNotFound {name signature : String} {found : Option MethodId}
    {method : MethodId}
    (h : Succeeds (Checked.orMethodNotFound name signature found : Checked μ MethodId) s method t) :
    found = some method ∧ s = t := by
  cases found with
  | none => exact absurd h not_succeeds_throw
  | some _ =>
    obtain ⟨rfl, rfl⟩ := h.of_pure
    exact ⟨rfl, rfl⟩

/-- What a lookup that succeeds has found is the method, if the function it asks gives the method
or throws. -/
theorem lookup_succeeds (faithful : jni.Faithful R C stringClass env) {entry : Entry}
    {f : StateM μ (Option MethodId)} {cls : Ref} {className name signature : String}
    {method : MethodId}
    (hf : R.Throws env Reading.nothing f fun m id m' => ∀ c method,
      R.referent m env cls = some (.classOf c) → id = some method →
        R.method m' method ⟨c, name, signature⟩)
    (hs : R.callable s.backend.machine env)
    (hcls : R.referent s.backend.machine env cls = some (.classOf className))
    (run : Succeeds (Checked.orException jni entry f >>= Checked.orMethodNotFound name signature)
      s method t) :
    R.method t.backend.machine method ⟨className, name, signature⟩ ∧
      R.Keeps env Reading.nothing s.backend.machine t.backend.machine := by
  obtain ⟨found, u, hfound, hmethod⟩ := run.of_bind
  obtain ⟨rfl, rfl⟩ := hmethod.of_orMethodNotFound
  obtain ⟨m, hpost, hkeeps, hcalm⟩ := hfound.of_orException faithful hf hs
  exact ⟨hkeeps.method (hpost className method hcls rfl), hcalm.machine⟩

theorem getMethodId_succeeds (faithful : jni.Faithful R C stringClass env) {cls : Ref}
    {className name signature : String} {method : MethodId} (hs : R.callable s.backend.machine env)
    (hcls : R.referent s.backend.machine env cls = some (.classOf className))
    (run : Succeeds (Checked.getMethodId jni cls name signature) s method t) :
    R.method t.backend.machine method ⟨className, name, signature⟩ ∧
      R.Keeps env Reading.nothing s.backend.machine t.backend.machine :=
  lookup_succeeds faithful (faithful.getMethodId cls name signature) hs hcls run

theorem getStaticMethodId_succeeds (faithful : jni.Faithful R C stringClass env) {cls : Ref}
    {className name signature : String} {method : MethodId} (hs : R.callable s.backend.machine env)
    (hcls : R.referent s.backend.machine env cls = some (.classOf className))
    (run : Succeeds (Checked.getStaticMethodId jni cls name signature) s method t) :
    R.method t.backend.machine method ⟨className, name, signature⟩ ∧
      R.Keeps env Reading.nothing s.backend.machine t.backend.machine :=
  lookup_succeeds faithful (faithful.getStaticMethodId cls name signature) hs hcls run

/-- The charset that `forName` gives for a name. -/
theorem forName_succeeds (faithful : jni.Faithful R C stringClass env) {text : String}
    {name : Ref} {charset : Handle} (hs : R.callable s.backend.machine env)
    (hname : R.referent s.backend.machine env name = some (.text (Text.Utf16.encode text)))
    (run : Succeeds (Checked.callStaticMethod jni charsetClassName "forName" forNameSignature
      [name]) s (some charset) t) :
    ∃ cs, C.named text = some cs ∧
      R.referent t.backend.machine env (some charset) = some (.charset cs) ∧
      R.Keeps env Reading.nothing s.backend.machine t.backend.machine := by
  obtain ⟨cls, u, hclass, run⟩ := run.of_bind
  obtain ⟨hcls, hnew, hfirst⟩ := findClass_succeeds faithful hs hclass
  obtain ⟨v, hbody, rfl⟩ := run.of_thenDelete faithful
  obtain ⟨method, w, hmethod, hcall⟩ := hbody.of_bind
  obtain ⟨hmethod, hsecond⟩ := getStaticMethodId_succeeds faithful hfirst.callable hcls hmethod
  have hbefore := hfirst.trans hsecond
  obtain ⟨m, hpost, hkeeps, hcalm⟩ := hcall.of_orException faithful
    (faithful.callStaticObjectMethod _ _ _) hsecond.callable
  obtain ⟨cs, hnamed, hleads⟩ :=
    hpost name text rfl hmethod (hbefore.referent hname id) rfl
  have hcharset := hkeeps.referent (hleads charset rfl) id
  have hcls' := (hsecond.trans hcalm.machine).referent hcls id
  obtain ⟨hdelete, -⟩ := faithful.deleteLocalRef (some cls) _ hcalm.machine.callable
  refine ⟨cs, hnamed, hdelete.referent hcharset ?_, ?_⟩
  · exact Reading.ne_of_referent hcharset hcls' nofun
  · exact (hbefore.trans hcalm.machine).forget hnew hdelete

theorem charsetForName_succeeds (faithful : jni.Faithful R C stringClass env) {text : String}
    {charset : Handle} (hs : R.callable s.backend.machine env)
    (run : Succeeds (Context.charsetForName jni text) s charset t) :
    ∃ cs, C.named text = some cs ∧
      R.referent t.backend.machine env (some charset) = some (.charset cs) ∧
      R.Keeps env Reading.nothing s.backend.machine t.backend.machine := by
  obtain ⟨name, u, hstring, run⟩ := run.of_bind
  obtain ⟨hname, hnew, hfirst⟩ := newStringUtf_succeeds faithful hs hstring.of_ofChecked
  obtain ⟨found, v, hfound, run⟩ := run.of_bind
  obtain ⟨_, w, hdrop, run⟩ := run.of_bind
  cases (dropLocal_run faithful (some name) v).symm.trans hdrop.of_lift
  match found, run with
  | .error e, run => exact absurd run not_succeeds_throw
  | .ok none, run => exact absurd run not_succeeds_throw
  | .ok (some found), run =>
    obtain ⟨rfl, rfl⟩ := run.of_pure
    obtain ⟨cs, hnamed, hcharset, hkeeps⟩ :=
      forName_succeeds faithful hfirst.callable hname hfound.of_lift
    obtain ⟨hdelete, -⟩ := faithful.deleteLocalRef (some name) _ hkeeps.callable
    refine ⟨cs, hnamed, hdelete.referent hcharset ?_, ?_⟩
    · exact Reading.ne_of_referent hcharset (hkeeps.referent hname id) nofun
    · exact (hfirst.trans hkeeps).forget hnew hdelete

/-- Where nothing is lost, a reference that is new later was new before. -/
theorem Reading.Keeps.fresh {m m' : μ} {ref : Ref} (h : R.Keeps env Reading.nothing m m')
    (hnew : R.referent m' env ref = none) : R.referent m env ref = none := by
  cases href : R.referent m env ref with
  | none => rfl
  | some o =>
    rw [h.referent href id] at hnew
    cases hnew

theorem Succeeds.of_orStatus {α : Type} {out : Int32 × Option α} {a : α}
    (h : Succeeds (Checked.orStatus out : Checked μ α) s a t) : s = t := by
  obtain ⟨code, out⟩ := out
  unfold Checked.orStatus at h
  dsimp only at h
  split at h
  · exact absurd h not_succeeds_throw
  · exact h.of_pure.2
  · exact absurd h not_succeeds_throw

theorem Succeeds.of_newGlobalRef {ref copy : Ref}
    (run : Succeeds (Checked.newGlobalRef jni ref) s copy t) :
    copy = (jni.newGlobalRef ref (Link.after jni.getJavaVm s).backend.machine).1 ∧
      t = Link.after (jni.newGlobalRef ref) (Link.after jni.getJavaVm s) := by
  obtain ⟨out, u, hasked, run⟩ := run.of_bind
  obtain ⟨rfl, rfl⟩ := hasked.of_enter
  obtain ⟨address, v, hstatus, run⟩ := run.of_bind
  obtain rfl := hstatus.of_orStatus
  exact run.of_enter

/-- A global reference that is not null leads to what it was made of, and is a new one. -/
theorem newGlobalRef_succeeds (faithful : jni.Faithful R C stringClass env) {ref copy : Ref}
    {o : Referent χ} (hs : R.callable s.backend.machine env)
    (href : R.referent s.backend.machine env ref = some o)
    (run : Succeeds (Checked.newGlobalRef jni ref) s copy t) :
    R.Keeps env Reading.nothing s.backend.machine t.backend.machine ∧
      (copy.isSome → R.Pinned t.backend.machine copy o ∧
        R.referent s.backend.machine env copy = none) := by
  obtain ⟨rfl, rfl⟩ := run.of_newGlobalRef
  obtain ⟨hfirst, -, -⟩ := faithful.getJavaVm _ hs
  obtain ⟨hkeeps, hpinned⟩ := faithful.newGlobalRef ref _ hfirst.callable
  refine ⟨hfirst.trans hkeeps, fun hcopy => ?_⟩
  obtain ⟨hpinned, hnew⟩ := hpinned o (hfirst.referent href id) hcopy
  exact ⟨hpinned, hfirst.fresh hnew⟩

section Resolve

variable {ε : Type} {R : Reading μ ε χ} {c : Context ε} {caps : Capabilities}

/-- What a resolution has found before it makes the first global reference. -/
structure Found (R : Reading μ ε χ) (C : Charsets χ) (c : Context ε) (caps : Capabilities)
    (cs : χ) (cls charset : Handle) (m : μ) : Prop where
  named : C.named c.config.charset = some cs
  toClass : R.referent m c.env (some cls) = some (.classOf c.config.stringClass)
  toCharset : R.referent m c.env (some charset) = some (.charset cs)
  constructor : R.method m caps.constructor
    ⟨c.config.stringClass, "<init>", constructorSignature⟩
  getBytes : R.method m caps.getBytes ⟨c.config.stringClass, "getBytes", getBytesSignature⟩

variable {vm : InvocationInterface μ ε} {thread : ThreadId}

/-- First everything is found, then the two global references are made, and then the local ones are
deleted. -/
theorem Succeeds.of_resolve
    (faithful : (vm.functions c.env).Faithful R C c.config.stringClass c.env)
    (hs : R.callable s.backend.machine c.env) (run : Succeeds (c.resolve vm thread) s caps t) :
    ∃ cs cls charset, ∃ u v w, Found R C c caps cs cls charset u.backend.machine ∧
      R.Keeps c.env Reading.nothing s.backend.machine u.backend.machine ∧
      Succeeds (Checked.newGlobalRef (vm.functions c.env) (some cls)) u caps.stringClass v ∧
      Succeeds (Checked.newGlobalRef (vm.functions c.env) (some charset)) v caps.charset w ∧
      t.backend = (Link.after ((vm.functions c.env).deleteLocalRef (some charset))
        (Link.after ((vm.functions c.env).deleteLocalRef (some cls)) w)).backend := by
  obtain ⟨cls, u₁, run₁, run⟩ := run.of_bind
  obtain ⟨hcls, hclsNew, hkeeps₁⟩ := findClass_succeeds faithful hs run₁.of_ofChecked
  obtain ⟨constructor, u₂, run₂, run⟩ := run.of_bind
  obtain ⟨hconstructor, hkeeps₂⟩ :=
    getMethodId_succeeds faithful hkeeps₁.callable hcls run₂.of_ofChecked
  obtain ⟨getBytes, u₃, run₃, run⟩ := run.of_bind
  obtain ⟨hgetBytes, hkeeps₃⟩ :=
    getMethodId_succeeds faithful hkeeps₂.callable (hkeeps₂.referent hcls id) run₃.of_ofChecked
  obtain ⟨charset, u₄, run₄, run⟩ := run.of_bind
  obtain ⟨cs, hnamed, hcharset, hkeeps₄⟩ := charsetForName_succeeds faithful hkeeps₃.callable run₄
  obtain ⟨stringClass, u₅, run₅, run⟩ := run.of_bind
  obtain ⟨made, u₆, run₆, run⟩ := run.of_bind
  have hkeeps := (hkeeps₂.trans hkeeps₃).trans hkeeps₄
  cases made with
  | error e =>
    obtain ⟨_, u₇, -, run⟩ := run.of_bind
    exact absurd run not_succeeds_throw
  | ok pinned =>
    obtain ⟨_, u₇, run₇, run⟩ := run.of_bind
    cases (dropLocal_run faithful (some cls) u₆).symm.trans run₇.of_lift
    obtain ⟨_, u₈, run₈, run⟩ := run.of_bind
    cases (dropLocal_run faithful (some charset) _).symm.trans run₈.of_lift
    obtain ⟨_, u₉, run₉, run⟩ := run.of_bind
    cases run₉.of_lift
    obtain ⟨rfl, rfl⟩ := run.of_pure
    refine ⟨cs, cls, charset, u₄, u₅, u₆, ?_, hkeeps₁.trans hkeeps, run₅.of_ofChecked,
      run₆.of_lift, rfl⟩
    exact ⟨hnamed, hkeeps.referent hcls id, hcharset,
      hkeeps₄.method (hkeeps₃.method hconstructor), hkeeps₄.method hgetBytes⟩

/-- What a resolution comes to whose two global references are not null. The two references that it
deletes are not these: one is older than its copy, the other leads to something else. -/
theorem resolve_succeeds
    (faithful : (vm.functions c.env).Faithful R C c.config.stringClass c.env)
    (hs : R.callable s.backend.machine c.env) (run : Succeeds (c.resolve vm thread) s caps t)
    (hclass : caps.stringClass.isSome) (hcharset : caps.charset.isSome) :
    ∃ cs, C.named c.config.charset = some cs ∧
      Resolved R c.config.stringClass cs caps t.backend.machine := by
  obtain ⟨cs, cls, charset, u, v, w, found, hkeeps, hfirst, hsecond, hleft⟩ :=
    run.of_resolve faithful hs
  obtain ⟨hkeeps₁, hpinnedClass⟩ :=
    newGlobalRef_succeeds faithful hkeeps.callable found.toClass hfirst
  have hlocal := hkeeps₁.referent found.toCharset id
  obtain ⟨hkeeps₂, hpinnedCharset⟩ :=
    newGlobalRef_succeeds faithful hkeeps₁.callable hlocal hsecond
  obtain ⟨hclassRef, hclassNew⟩ := hpinnedClass hclass
  obtain ⟨hcharsetRef, hcharsetNew⟩ := hpinnedCharset hcharset
  have hclassRef' := hkeeps₂.pinned hclassRef id
  obtain ⟨hdropClass, -⟩ := faithful.deleteLocalRef (some cls) _ hkeeps₂.callable
  obtain ⟨hdropCharset, -⟩ := faithful.deleteLocalRef (some charset) _ hdropClass.callable
  have hlast := (hkeeps₁.trans hkeeps₂)
  rw [hleft]
  refine ⟨cs, found.named, ?_, ?_, ?_, ?_⟩
  · refine hdropCharset.pinned (hdropClass.pinned hclassRef' ?_) ?_
    · intro hsame
      have hcls := found.toClass
      rw [← hsame, hclassNew] at hcls
      cases hcls
    · exact Reading.ne_of_referent (hclassRef'.referent c.env) (hkeeps₂.referent hlocal id) nofun
  · refine hdropCharset.pinned (hdropClass.pinned hcharsetRef ?_) ?_
    · exact Reading.ne_of_referent (hcharsetRef.referent c.env)
        (hlast.referent found.toClass id) nofun
    · intro hsame
      rw [← hsame, hcharsetNew] at hlocal
      cases hlocal
  · exact hdropCharset.method (hdropClass.method (hlast.method found.constructor))
  · exact hdropCharset.method (hdropClass.method (hlast.method found.getBytes))

end Resolve

section Noted

variable {ε : Type} {R : Reading μ ε χ} {vm : InvocationInterface μ ε} {thread : ThreadId}
  {s t : Site (NotedLink μ)}

/-- A global reference is not null, or making it has failed. -/
theorem newGlobalRef_isSome_or_failed {env : ε} {ref copy : Ref}
    (faithful : (vm.functions env).Faithful R C stringClass env)
    (hs : R.callable s.backend.machine.1 env)
    (hcurrent : R.environment s.backend.machine.1 thread = some env)
    (run : Succeeds (Checked.newGlobalRef ((vm.functions env).recorded Prod.mk) ref) s copy t) :
    copy.isSome = true ∨ Failed vm R thread t.backend := by
  obtain ⟨hcopy, rfl⟩ := run.of_newGlobalRef
  cases copy with
  | some handle => exact .inl rfl
  | none =>
    obtain ⟨hkeeps, -, -⟩ := faithful.getJavaVm _ hs
    refine .inr (.of_native ((congrFun hkeeps.environment thread).trans hcurrent)
      (List.mem_append_right _ (.head _)) ?_)
    exact Option.isNone_iff_eq_none.mpr hcopy.symm

/-- Where no function has failed, no global reference is null. -/
theorem resolve_pinned {c : Context ε} {caps : Capabilities}
    (faithful : (vm.functions c.env).Faithful R C c.config.stringClass c.env)
    (hs : R.callable s.backend.machine.1 c.env)
    (hcurrent : R.environment s.backend.machine.1 thread = some c.env)
    (run : Succeeds (c.resolve (vm.recorded Prod.mk) thread) s caps t)
    (calm : ¬ Failed vm R thread t.backend) :
    caps.stringClass.isSome = true ∧ caps.charset.isSome = true := by
  have faithful' : ((vm.recorded Prod.mk).functions c.env).Faithful R.noted C
      c.config.stringClass c.env := faithful.recorded Prod.mk
  obtain ⟨cs, cls, charset, u, v, w, found, hkeeps, hfirst, hsecond, hleft⟩ :=
    run.of_resolve faithful' hs
  obtain ⟨hkeeps₁, -⟩ := newGlobalRef_succeeds faithful' hkeeps.callable found.toClass hfirst
  have hcurrent₁ := (congrFun hkeeps.environment thread).trans hcurrent
  have hcurrent₂ := (congrFun hkeeps₁.environment thread).trans hcurrent₁
  have hlast (failed : Failed vm R thread w.backend) : Failed vm R thread t.backend := by
    rw [hleft]
    exact (failed.after (.deleteLocalRef _) _).after (.deleteLocalRef _) _
  constructor
  · refine (newGlobalRef_isSome_or_failed faithful hkeeps.callable hcurrent₁ hfirst).resolve_right
      fun failed => calm (hlast ?_)
    rw [hsecond.of_newGlobalRef.2]
    exact (failed.after .getJavaVm _).after (.newGlobalRef _) _
  · exact (newGlobalRef_isSome_or_failed faithful hkeeps₁.callable hcurrent₂ hsecond).resolve_right
      fun failed => calm (hlast failed)

end Noted

end ManagedBridge.Jvm
