import ManagedBridge.Jvm.Machine
import ManagedBridge.Proofs.EntryPoints
import ManagedBridge.Proofs.Resolution

/-!
# Where capabilities come from

A transcript lists the calls of a machine that ask for a reference or for a method, each with its
answer. Of any machine whatever, the transcript of a resolution that succeeds tells where each part
of the capabilities is from. That a global reference is null is no failure to a resolution, so the
capabilities are as good as the answers to the two calls that ask for one.
-/

namespace ManagedBridge.Jvm

variable {μ ε α β : Type}

/-- The function behind a call that asks for a reference or for a method. -/
def NativeInterface.asked (jni : NativeInterface μ) : NativeCall → Option (StateM μ (Option Nat))
  | .findClass name => some (jni.findClass name)
  | .getMethodId cls name signature => some (jni.getMethodId cls name signature)
  | .getStaticMethodId cls name signature => some (jni.getStaticMethodId cls name signature)
  | .newStringUtf text => some (jni.newStringUtf text)
  | .callStaticObjectMethod cls method args => some (jni.callStaticObjectMethod cls method args)
  | .callObjectMethod object method args => some (jni.callObjectMethod object method args)
  | .newObject cls constructor args => some (jni.newObject cls constructor args)
  | .newByteArray len => some (jni.newByteArray len)
  | .newGlobalRef ref => some (jni.newGlobalRef ref)
  | .getObjectClass object => some (jni.getObjectClass object)
  | .exceptionOccurred => some jni.exceptionOccurred
  | _ => none

/-- The calls that asked for something, with what was answered. -/
def transcript (jni : NativeInterface μ) (notes : List (Note μ)) :
    List (NativeCall × Option Nat) :=
  notes.filterMap fun note => (jni.asked note.2).map fun f => (note.2, (f note.1).1)

@[simp] theorem transcript_append (jni : NativeInterface μ) (notes notes' : List (Note μ)) :
    transcript jni (notes ++ notes') = transcript jni notes ++ transcript jni notes' :=
  List.filterMap_append

theorem transcript_of_asked {jni : NativeInterface μ} {call : NativeCall}
    {f : StateM μ (Option Nat)} (h : jni.asked call = some f) (m : μ) :
    transcript jni [(m, call)] = [(call, (f m).1)] := by
  simp [transcript, h]

theorem transcript_of_unasked {jni : NativeInterface μ} {call : NativeCall}
    (h : jni.asked call = none) (m : μ) : transcript jni [(m, call)] = [] := by
  simp [transcript, h]

/-- From `s` to `t` the notes have grown by some with this transcript. -/
def Transcribes (jni : NativeInterface μ) (s t : Site (NotedLink μ))
    (entries : List (NativeCall × Option Nat)) : Prop :=
  ∃ notes, t.backend.machine.2 = s.backend.machine.2 ++ notes ∧ transcript jni notes = entries

namespace Transcribes

variable {jni : NativeInterface μ} {s t u : Site (NotedLink μ)}
  {entries entries' : List (NativeCall × Option Nat)}

theorem refl (s : Site (NotedLink μ)) : Transcribes jni s s [] :=
  ⟨[], (List.append_nil _).symm, rfl⟩

theorem trans (h : Transcribes jni s t entries) (h' : Transcribes jni t u entries') :
    Transcribes jni s u (entries ++ entries') := by
  obtain ⟨notes, hnotes, rfl⟩ := h
  obtain ⟨notes', hnotes', rfl⟩ := h'
  refine ⟨notes ++ notes', ?_, transcript_append jni notes notes'⟩
  rw [hnotes', hnotes, List.append_assoc]

/-- What adds nothing may come after. -/
theorem trans_nil (h : Transcribes jni s t entries) (h' : Transcribes jni t u []) :
    Transcribes jni s u entries := by
  have hall := h.trans h'
  rwa [List.append_nil] at hall

theorem asked {call : NativeCall} {f : StateM μ (Option Nat)} (h : jni.asked call = some f)
    (s : Site (NotedLink μ)) :
    Transcribes jni s (Link.after (call.recorded Prod.mk f) s)
      [(call, (f s.backend.machine.1).1)] :=
  ⟨[(s.backend.machine.1, call)], rfl, transcript_of_asked h _⟩

theorem unasked {call : NativeCall} {f : StateM μ α} (h : jni.asked call = none)
    (s : Site (NotedLink μ)) :
    Transcribes jni s (Link.after (call.recorded Prod.mk f) s) [] :=
  ⟨[(s.backend.machine.1, call)], rfl, transcript_of_unasked h _⟩

end Transcribes

section Calls

variable {jni : NativeInterface μ} {s t : Site (NotedLink μ)}

theorem Succeeds.transcribes_check {b : Bool}
    (h : Succeeds (Checked.exceptionCheck (jni.recorded Prod.mk)) s b t) :
    Transcribes jni s t [] := by
  obtain ⟨-, rfl⟩ := h.of_enter
  exact .unasked rfl s

theorem Succeeds.transcribes_orException {call : NativeCall} {f : StateM μ (Option Nat)}
    (hf : jni.asked call = some f) {entry : Entry} {a : Option Nat}
    (h : Succeeds (Checked.orException (jni.recorded Prod.mk) entry (call.recorded Prod.mk f))
      s a t) : Transcribes jni s t [(call, a)] := by
  obtain ⟨a', u, hcall, h⟩ := h.of_bind
  obtain ⟨rfl, rfl⟩ := hcall.of_enter
  obtain ⟨pending, v, hcheck, h⟩ := h.of_bind
  have hcalled := (Transcribes.asked hf s).trans_nil hcheck.transcribes_check
  cases pending with
  | true => cases h
  | false =>
    cases h
    exact hcalled

theorem Succeeds.transcribes_orNull {call : NativeCall} {f : StateM μ (Option Nat)}
    (hf : jni.asked call = some f) {entry : Entry} {a : Nat}
    (h : Succeeds (Checked.orNull (jni.recorded Prod.mk) entry (call.recorded Prod.mk f)) s a t) :
    Transcribes jni s t [(call, some a)] := by
  obtain ⟨a?, u, hcall, h⟩ := h.of_bind
  have hcalled := hcall.transcribes_orException hf
  cases a? with
  | none => cases h
  | some a =>
    cases h
    exact hcalled

/-- A lookup that succeeds asks once, and gives what was answered. -/
theorem Succeeds.transcribes_lookup {call : NativeCall} {f : StateM μ (Option Nat)}
    (hf : jni.asked call = some f) {entry : Entry} {name signature : String} {method : MethodId}
    (h : Succeeds (Checked.orException (jni.recorded Prod.mk) entry (call.recorded Prod.mk f) >>=
      Checked.orMethodNotFound name signature) s method t) :
    Transcribes jni s t [(call, some method)] := by
  obtain ⟨found, u, hcall, h⟩ := h.of_bind
  obtain ⟨rfl, rfl⟩ := h.of_orMethodNotFound
  exact hcall.transcribes_orException hf

theorem Succeeds.transcribes_getMethodId {cls : Ref} {name signature : String}
    {method : MethodId}
    (h : Succeeds (Checked.getMethodId (jni.recorded Prod.mk) cls name signature) s method t) :
    Transcribes jni s t [(.getMethodId cls name signature, some method)] :=
  h.transcribes_lookup rfl

theorem Succeeds.transcribes_getStaticMethodId {cls : Ref} {name signature : String}
    {method : MethodId}
    (h : Succeeds (Checked.getStaticMethodId (jni.recorded Prod.mk) cls name signature)
      s method t) :
    Transcribes jni s t [(.getStaticMethodId cls name signature, some method)] :=
  h.transcribes_lookup rfl

/-- Deletions ask for nothing, and one that the interface does not have does nothing. -/
theorem transcribes_deleteLocalRef (jni : NativeInterface μ) (ref : Ref)
    (s : Site (NotedLink μ)) :
    ∃ r t, (Checked.deleteLocalRef (jni.recorded Prod.mk) ref).run.run s = (.ok r, t) ∧
      Transcribes jni s t [] := by
  unfold Checked.deleteLocalRef Checked.enter
  split
  · exact ⟨_, _, rfl, .unasked rfl s⟩
  · exact ⟨_, s, rfl, .refl s⟩

theorem transcribes_dropLocal {ref : Ref} {a : Unit}
    (h : (Context.dropLocal (jni.recorded Prod.mk) ref).run s = (.ok a, t)) :
    Transcribes jni s t [] := by
  obtain ⟨r, u, hdeleted, hu⟩ := transcribes_deleteLocalRef jni ref s
  have hrest := (Routine.run_bind_ok hdeleted _).symm.trans h
  cases r with
  | ok _ =>
    cases hrest
    exact hu
  | error e =>
    cases hrest
    exact hu

theorem Succeeds.transcribes_thenDelete {ref : Ref} {body : Checked (μ × List (Note μ)) α} {a : α}
    (h : Succeeds (Checked.thenDelete (jni.recorded Prod.mk) ref body) s a t) :
    ∃ u, Succeeds body s a u ∧ Transcribes jni u t [] := by
  change Routine.run (body.run >>= _) s = _ at h
  rw [Routine.run_bind] at h
  rcases hbody : body.run.run s with ⟨panic | result, u⟩ <;> rw [hbody] at h
  · cases h
  · obtain ⟨r, v, hdeleted, hv⟩ := transcribes_deleteLocalRef jni ref u
    cases (Routine.run_bind_ok hdeleted _).symm.trans h
    exact ⟨u, hbody, hv⟩

theorem Succeeds.transcribes_callStaticMethod {className name signature : String}
    {args : List Ref} {a : Ref}
    (h : Succeeds (Checked.callStaticMethod (jni.recorded Prod.mk) className name signature args)
      s a t) :
    ∃ cls method, Transcribes jni s t
      [(.findClass className, some cls),
        (.getStaticMethodId (some cls) name signature, some method),
        (.callStaticObjectMethod (some cls) method args, a)] := by
  obtain ⟨cls, u, hclass, h⟩ := h.of_bind
  obtain ⟨v, h, hdeleted⟩ := h.transcribes_thenDelete
  obtain ⟨method, w, hmethod, h⟩ := h.of_bind
  have hfound := hclass.transcribes_orNull rfl
  have hcalled := hmethod.transcribes_getStaticMethodId.trans (h.transcribes_orException rfl)
  exact ⟨cls, method, (hfound.trans hcalled).trans_nil hdeleted⟩

/-- A global reference is what the machine answers, null or not. -/
theorem Succeeds.transcribes_newGlobalRef {ref a : Ref}
    (h : Succeeds (Checked.newGlobalRef (jni.recorded Prod.mk) ref) s a t) :
    Transcribes jni s t [(.newGlobalRef ref, a)] := by
  obtain ⟨rfl, rfl⟩ := h.of_newGlobalRef
  have hmachine : Transcribes jni s
      (Link.after (NativeCall.getJavaVm.recorded Prod.mk jni.getJavaVm) s) [] := .unasked rfl s
  have hgiven : Transcribes jni _ _ [(.newGlobalRef ref, _)] :=
    .asked rfl (Link.after (NativeCall.getJavaVm.recorded Prod.mk jni.getJavaVm) s)
  exact hmachine.trans hgiven

end Calls

namespace Context

/-- The capabilities are what the machine answered to these calls, and it was asked for nothing
else. -/
def Obtained (jni : NativeInterface μ) (config : BridgeConfig) (notes : List (Note μ))
    (caps : Capabilities) : Prop :=
  ∃ cls name charsets charset forName, transcript jni notes =
    [(.findClass config.stringClass, some cls),
      (.getMethodId (some cls) "<init>" constructorSignature, some caps.constructor),
      (.getMethodId (some cls) "getBytes" getBytesSignature, some caps.getBytes),
      (.newStringUtf config.charset, some name),
      (.findClass charsetClassName, some charsets),
      (.getStaticMethodId (some charsets) "forName" forNameSignature, some forName),
      (.callStaticObjectMethod (some charsets) forName [some name], some charset),
      (.newGlobalRef (some cls), caps.stringClass),
      (.newGlobalRef (some charset), caps.charset)]

/-- Both references are valid exactly if no global reference was refused with null. -/
theorem Obtained.valid_iff {jni : NativeInterface μ} {config : BridgeConfig}
    {notes : List (Note μ)} {caps : Capabilities} (h : Obtained jni config notes caps) :
    caps.stringClass ≠ none ∧ caps.charset ≠ none ↔
      ∀ ref, (.newGlobalRef ref, none) ∉ transcript jni notes := by
  obtain ⟨cls, name, charsets, charset, forName, hnotes⟩ := h
  rw [hnotes]
  constructor
  · rintro ⟨hclass, hcharset⟩ ref hmem
    simp [hclass.symm, hcharset.symm] at hmem
  · intro hnone
    constructor
    · intro hclass
      exact hnone (some cls) (by simp [hclass])
    · intro hcharset
      exact hnone (some charset) (by simp [hcharset])

section Resolution

variable {jni : NativeInterface μ} {s u : Site (NotedLink μ)}

theorem charsetForName_transcribes {charset : String} {handle : Handle}
    (h : Succeeds (charsetForName (jni.recorded Prod.mk) charset) s handle u) :
    ∃ name charsets forName, Transcribes jni s u
      [(.newStringUtf charset, some name),
        (.findClass charsetClassName, some charsets),
        (.getStaticMethodId (some charsets) "forName" forNameSignature, some forName),
        (.callStaticObjectMethod (some charsets) forName [some name], some handle)] := by
  obtain ⟨name, v, hname, h⟩ := h.of_bind
  obtain ⟨found, w, hfound, h⟩ := h.of_bind
  obtain ⟨_, x, hdropped, h⟩ := h.of_bind
  have hnamed : Transcribes jni s v [(.newStringUtf charset, some name)] :=
    hname.of_ofChecked.transcribes_orNull rfl
  have hdeleted : Transcribes jni w x [] := transcribes_dropLocal hdropped.of_lift
  rcases found with error | _ | charset
  · cases h
  · cases h
  · cases h
    have hcalled : Succeeds (Checked.callStaticMethod (jni.recorded Prod.mk) charsetClassName
        "forName" forNameSignature [some name]) v (some handle) w := hfound.of_lift
    obtain ⟨charsets, forName, hcharset⟩ := hcalled.transcribes_callStaticMethod
    exact ⟨name, charsets, forName, (hnamed.trans hcharset).trans_nil hdeleted⟩

/-- From the class to the references that are kept, nothing is asked twice. -/
theorem resolve_obtained {vm : InvocationInterface μ ε} {t : ThreadId} {c : Context ε}
    {caps : Capabilities} (h : Succeeds (c.resolve (vm.recorded Prod.mk) t) s caps u) :
    ∃ notes, u.backend.machine.2 = s.backend.machine.2 ++ notes ∧
      Obtained (vm.functions c.env) c.config notes caps := by
  obtain ⟨cls, s₁, hclass, h⟩ := h.of_bind
  obtain ⟨constructor, s₂, hconstructor, h⟩ := h.of_bind
  obtain ⟨getBytes, s₃, hgetBytes, h⟩ := h.of_bind
  obtain ⟨charset, s₄, hcharset, h⟩ := h.of_bind
  obtain ⟨stringClass, s₅, hpinned, h⟩ := h.of_bind
  obtain ⟨kept, s₆, hkept, h⟩ := h.of_bind
  have hclass : Transcribes (vm.functions c.env) s s₁
      [(.findClass c.config.stringClass, some cls)] := hclass.of_ofChecked.transcribes_orNull rfl
  have hconstructor := hconstructor.of_ofChecked.transcribes_getMethodId
  have hgetBytes := hgetBytes.of_ofChecked.transcribes_getMethodId
  obtain ⟨name, charsets, forName, hcharset⟩ := charsetForName_transcribes hcharset
  have hpinned := hpinned.of_ofChecked.transcribes_newGlobalRef
  cases kept with
  | error e =>
    obtain ⟨_, s₇, -, h⟩ := h.of_bind
    cases h
  | ok pinned =>
    have hkept : Succeeds (Checked.newGlobalRef ((vm.functions c.env).recorded Prod.mk)
        (some charset)) s₅ pinned s₆ := hkept.of_lift
    obtain ⟨_, s₇, hcls, h⟩ := h.of_bind
    obtain ⟨_, s₈, hdropped, h⟩ := h.of_bind
    obtain ⟨_, s₉, hnoted, h⟩ := h.of_bind
    cases hnoted
    cases h
    have hcls : Transcribes (vm.functions c.env) s₆ s₇ [] := transcribes_dropLocal hcls.of_lift
    have hdropped : Transcribes (vm.functions c.env) s₇ s₈ [] :=
      transcribes_dropLocal hdropped.of_lift
    have hfound := hclass.trans (hconstructor.trans (hgetBytes.trans hcharset))
    have hgiven := hpinned.trans (hkept.transcribes_newGlobalRef.trans_nil (hcls.trans hdropped))
    obtain ⟨notes, hnotes, hall⟩ := hfound.trans hgiven
    exact ⟨notes, hnotes, cls, name, charsets, charset, forName, hall⟩

end Resolution

/-- While the notes grew from `before` to `after` the capabilities were obtained by these settings.
They are valid exactly if no global reference was refused with null. -/
def Vouches (jni : NativeInterface μ) (config : BridgeConfig) (caps : Capabilities)
    (before after : List (Note μ)) : Prop :=
  ∃ notes, after = before ++ notes ∧ Obtained jni config notes caps ∧
    (caps.stringClass ≠ none ∧ caps.charset ≠ none ↔
      ∀ ref, (.newGlobalRef ref, none) ∉ transcript jni notes)

theorem resolve_vouches {vm : InvocationInterface μ ε} {t : ThreadId} {c : Context ε}
    {s u : Site (NotedLink μ)} {caps : Capabilities}
    (h : Succeeds (c.resolve (vm.recorded Prod.mk) t) s caps u) :
    Vouches (vm.functions c.env) c.config caps s.backend.machine.2 u.backend.machine.2 := by
  obtain ⟨notes, hnotes, hobtained⟩ := resolve_obtained h
  exact ⟨notes, hnotes, hobtained, hobtained.valid_iff⟩

end Context

/-- A resolution returns, and if it succeeds the notes vouch for its capabilities. A start of an
empty bridge returns. If it reports success the bridge holds such capabilities, and otherwise
none. -/
theorem start_vouches (vm : InvocationInterface μ ε) (t : ThreadId) {call : EntryPoint ε α}
    (hstart : call.isStart = true) (w : World (Process (μ × List (Note μ))))
    (hempty : w.backend.bridge = {}) :
    (∀ (c : Context ε) (s : Site (NotedLink μ)), ∃ r v,
      (c.operations (vm.recorded Prod.mk) t).resolveCapabilities.run s = (.ok r, v) ∧
        ∀ caps, r = .ok caps → Context.Vouches (vm.functions c.env) c.config caps
          s.backend.machine.2 v.backend.machine.2) ∧
    ∃ answer v, (call.perform (vm.recorded Prod.mk) t).run w = (.ok answer, v) ∧
      (call.succeeded answer = false → v.backend.bridge = {}) ∧
      (call.succeeded answer = true → ∃ rt env caps before,
        call.request w.backend.settings = some rt ∧
          v.backend.bridge = ⟨⟨some rt⟩, ⟨some caps⟩⟩ ∧
            Context.Vouches (vm.functions env) rt.config caps before
              v.backend.link.machine.2) := by
  constructor
  · intro c s
    obtain ⟨r, v, hrun, -⟩ := Context.resolve_ends (vm.recorded Prod.mk) t c s trivial
    refine ⟨r, v, hrun, ?_⟩
    rintro caps rfl
    exact Context.resolve_vouches hrun
  · obtain ⟨answer, v, hrun, -, hstarted, hleft⟩ :=
      perform_start (vm.recorded Prod.mk) t hstart hempty
    refine ⟨answer, v, hrun, hleft, fun hsucceeded => ?_⟩
    obtain ⟨rt, hrequest, env, caps, s, left, hresolved, hlink, hbridge⟩ := hstarted hsucceeded
    refine ⟨rt, env, caps, s.backend.machine.2, hrequest, hbridge, ?_⟩
    rw [hlink]
    exact Context.resolve_vouches hresolved

namespace Machine

/-- A process on a machine with these faults, before the bridge is started. -/
def unstarted (faults : List (OneShot String Fault)) :
    World (Process (Machine × List (Note Machine))) :=
  ⟨⟨{ link := ⟨(attach { faults } (.worker 0), []), []⟩ }, []⟩, .zero⟩

/-- On a machine without faults no global reference is refused. -/
theorem start_vouches_faultless :
    ∃ v env caps before, ((EntryPoint.start 1 (ThreadId.worker 0) {}).perform
        ((invocation []).recorded Prod.mk) (.worker 0)).run (unstarted []) = (.ok (.ok ()), v) ∧
      v.backend.bridge.capabilities = .ok caps ∧ caps.stringClass ≠ none ∧ caps.charset ≠ none ∧
      Context.Vouches ((invocation []).functions env) {} caps before
        v.backend.link.machine.2 := by
  obtain ⟨u, caps', hrun', hcaps, hclass, hcharset⟩ : ∃ u caps,
      ((EntryPoint.start 1 (ThreadId.worker 0) {}).perform
        ((invocation []).recorded Prod.mk) (.worker 0)).run (unstarted []) = (.ok (.ok ()), u) ∧
      u.backend.bridge.capabilities = .ok caps ∧ caps.stringClass ≠ none ∧
      caps.charset ≠ none := ⟨_, _, rfl, rfl, nofun, nofun⟩
  obtain ⟨-, answer, v, hrun, -, hvouches⟩ :=
    @start_vouches _ _ _ (invocation []) (.worker 0) (.start 1 (.worker 0) {}) rfl
      (unstarted []) rfl
  obtain ⟨hanswer, rfl⟩ := Prod.mk.inj (hrun'.symm.trans hrun)
  obtain rfl : .ok () = answer := Except.ok.inj hanswer
  obtain ⟨rt, env, caps, before, hrequest, hbridge, hall⟩ := hvouches rfl
  obtain rfl : (⟨1, {}⟩ : Runtime) = rt := Option.some.inj hrequest
  rw [hbridge] at hcaps
  obtain rfl : caps = caps' := Except.ok.inj hcaps
  exact ⟨u, env, caps, before, hrun, by rw [hbridge]; rfl, hclass, hcharset, hall⟩

/-- A machine that refuses a global reference with null: the start succeeds, and the bridge holds no
class. -/
theorem unpinnedClass_started :
    ∃ v caps, ((EntryPoint.start 1 (ThreadId.worker 0) {}).perform
        ((invocation []).recorded Prod.mk) (.worker 0)).run
          (unstarted [⟨"NewGlobalRef", 0, {}⟩]) = (.ok (.ok ()), v) ∧
      v.backend.bridge.capabilities = .ok caps ∧ caps.stringClass = none :=
  ⟨_, _, rfl, rfl, rfl⟩

end Machine

end ManagedBridge.Jvm
