import ManagedBridge.Proofs.Counting
import ManagedBridge.Proofs.Leaks

/-!
# References that a summary leaves behind

A drain that does not leave it to the machine to print the exception asks the throwable for a text.
The throwable is deleted whatever comes of that. The text is deleted once it has been read, and a
text that cannot be read stays in use. So do the class references by which the reader of texts
checks what it is given.
-/

namespace ManagedBridge.Jvm

variable {μ ε α β e : Type}

namespace References

/-- The function answers with a new local reference or with null, whatever is pending. -/
def Takes (R : References μ) (f : StateM μ Ref) : Prop :=
  ∀ L G m, R.At L G m → R.Left L G (f m).1 (f m).2

end References

/-- What an interface does to the references of its thread while an exception is drained. -/
structure NativeInterface.TracksDrains (jni : NativeInterface μ) (R : References μ) : Prop
    extends jni.Tracks R where
  clears : jni.provides .exceptionClear = true
  exceptionClear : R.Keeps jni.exceptionClear
  exceptionOccurred : R.Takes jni.exceptionOccurred
  getObjectClass : ∀ object, R.Takes (jni.getObjectClass object)
  callObjectMethod : ∀ object method args, R.Hands (jni.callObjectMethod object method args)
  isAssignableFrom : ∀ sub super, R.Keeps (jni.isAssignableFrom sub super)
  getStringUtfChars : ∀ string, R.Keeps (jni.getStringUtfChars string)
  releaseStringUtfChars : ∀ string, R.Keeps (jni.releaseStringUtfChars string)

/-- The classes that are compared before a text is read: that of all strings, if it is found, and
that of the text. -/
def comparedClasses (jni : NativeInterface μ) (string : Ref) (s : Site (Link μ)) : Set Handle :=
  match (Checked.findClass jni stringClassName).run.run s with
  | (.ok (.ok expected), u) =>
    match (Checked.enter jni .getObjectClass (jni.getObjectClass string)).run.run u with
    | (.ok (.ok actual), _) => References.added {expected} actual
    | _ => {expected}
  | _ => ∅

namespace Context

/-- The text that a throwable gives of itself. -/
def ownText (jni : NativeInterface μ) (throwable : Handle) : Checked μ Ref :=
  Checked.callMethod jni (some throwable) "toString" toStringSignature []

/-- What is left in use of what was taken to read the text of a throwable: the classes that were
compared, and the text if it could not be read. -/
inductive TextLeaves (jni : NativeInterface μ) (throwable : Handle) (s : Site (Link μ)) :
    (classes lost : Set Handle) → Prop
  | untold (h : ∀ text u, ¬ Succeeds (ownText jni throwable) s (some text) u) :
    TextLeaves jni throwable s ∅ ∅
  | read {text : Handle} {u : Site (Link μ)}
      (told : Succeeds (ownText jni throwable) s (some text) u)
      (h : ∃ summary v, Succeeds (Checked.getString jni (some text)) u summary v) :
    TextLeaves jni throwable s (comparedClasses jni (some text) u) ∅
  | unread {text : Handle} {u : Site (Link μ)}
      (told : Succeeds (ownText jni throwable) s (some text) u)
      (h : ∀ summary v, ¬ Succeeds (Checked.getString jni (some text)) u summary v) :
    TextLeaves jni throwable s (comparedClasses jni (some text) u) {text}

/-- What is left in use of what a summary has taken. -/
inductive SummaryLeaves (jni : NativeInterface μ) (s : Site (Link μ)) :
    (classes lost : Set Handle) → Prop
  | unasked (h : ∀ throwable u, ¬ Succeeds (Checked.exceptionOccurred jni) s (some throwable) u) :
    SummaryLeaves jni s ∅ ∅
  | asked {throwable : Handle} {u v : Site (Link μ)} {classes lost : Set Handle}
      (occurred : Succeeds (Checked.exceptionOccurred jni) s (some throwable) u)
      (cleared : Succeeds (Checked.exceptionClear jni) u () v)
      (h : TextLeaves jni throwable v classes lost) : SummaryLeaves jni s classes lost

/-- A text that the throwable gives of itself in a summary begun in `s` can be read. -/
def ReadsText (jni : NativeInterface μ) (s : Site (Link μ)) : Prop :=
  ∀ throwable text u v w, Succeeds (Checked.exceptionOccurred jni) s (some throwable) u →
    Succeeds (Checked.exceptionClear jni) u () v →
      Succeeds (ownText jni throwable) v (some text) w →
        ∃ summary x, Succeeds (Checked.getString jni (some text)) w summary x

section Summaries

variable {jni : NativeInterface μ} {s u : Site (Link μ)} {classes lost : Set Handle}

theorem Succeeds.unique {x : ExceptT e (Call (Link μ)) α} {a b : α} {t : Site (Link μ)}
    (ha : Succeeds x s a t) (hb : Succeeds x s b u) : a = b ∧ t = u := by
  have hsame := (show x.run.run s = _ from ha).symm.trans hb
  simpa using hsame

theorem not_succeeds_of_error {x : ExceptT e (Call (Link μ)) α} {error : e}
    (h : x.run.run s = (.ok (.error error), u)) (a : α) (t : Site (Link μ)) :
    ¬ Succeeds x s a t := by
  intro ha
  have hsame := h.symm.trans ha
  simp at hsame

theorem TextLeaves.lost_eq_empty_iff {throwable : Handle}
    (h : TextLeaves jni throwable s classes lost) :
    lost = ∅ ↔ ∀ text u, Succeeds (ownText jni throwable) s (some text) u →
      ∃ summary v, Succeeds (Checked.getString jni (some text)) u summary v := by
  cases h with
  | untold hno => simp [hno]
  | read told hread =>
    have hall : ∀ text' u', Succeeds (ownText jni throwable) s (some text') u' →
        ∃ summary v, Succeeds (Checked.getString jni (some text')) u' summary v := by
      intro text' u' told'
      obtain ⟨htext, rfl⟩ := Succeeds.unique told told'
      cases htext
      exact hread
    exact ⟨fun _ => hall, fun _ => rfl⟩
  | @unread text u told hno =>
    have hunread : ¬ ∃ summary v, Succeeds (Checked.getString jni (some text)) u summary v := by
      simp [hno]
    have hsome : ({text} : Set Handle) ≠ ∅ := Set.singleton_ne_empty text
    simp only [hsome, false_iff]
    intro hall
    exact hunread (hall text u told)

theorem SummaryLeaves.lost_eq_empty_iff (h : SummaryLeaves jni s classes lost) :
    lost = ∅ ↔ ReadsText jni s := by
  cases h with
  | unasked hno =>
    have hreads : ReadsText jni s := fun throwable _ u _ _ occurred =>
      absurd occurred (hno throwable u)
    simp [hreads]
  | asked occurred cleared htext =>
    rw [htext.lost_eq_empty_iff]
    constructor
    · intro hall throwable text u v w occurred' cleared' told
      obtain ⟨hsame, rfl⟩ := Succeeds.unique occurred occurred'
      obtain ⟨-, rfl⟩ := Succeeds.unique cleared cleared'
      cases hsame
      exact hall text w told
    · intro hreads text w told
      exact hreads _ text _ _ w occurred cleared told

end Summaries

end Context

namespace References

variable {R : References μ} {L G held kept : Set Handle} {ref : Ref}

/-- What was new is deleted, and what was taken after it is kept. -/
theorem removed_added_union (h : Fresh ref held) (h' : Disjoint kept (added held ref)) :
    removed (added held ref ∪ kept) ref = held ∪ kept := by
  ext handle
  have hnew := h handle
  have hother : handle ∈ kept → handle ∉ added held ref := fun hkept hheld =>
    Set.disjoint_left.mp h' hkept hheld
  simp only [mem_removed, Set.mem_union, mem_added] at hother ⊢
  grind

theorem disjoint_of_added (h : Disjoint kept (added held ref)) : Disjoint kept held := by
  apply h.mono_right
  intro handle hheld
  exact mem_added.mpr (.inl hheld)

theorem added_added_some (held : Set Handle) (first : Handle) (next : Ref) :
    added (added held (some first)) next = held ∪ added {first} next := by
  ext handle
  simp [mem_added, or_assoc, eq_comm]

section Calls

variable {jni : NativeInterface μ}

theorem takes_enter {f : StateM μ Ref} (hf : R.Takes f) (entry : Entry) :
    R.Leaves (Checked.enter jni entry f) id := by
  rw [Checked.enter]
  split
  · intro L G s hs
    exact ⟨_, _, rfl, hf L G _ hs⟩
  · exact .throw _

theorem orNull_keeps (h : jni.Tracks R) {f : StateM μ (Option α)} (hf : R.Keeps f)
    (entry : Entry) : R.Leaves (Checked.orNull jni entry f) nothing := by
  apply (orException_keeps h hf entry).bind
  intro found
  cases found with
  | none => exact .throw _
  | some a => exact .pure a rfl

theorem attempt_keeps {x : Checked μ α} (hx : R.Leaves x nothing) :
    R.Leaves (Checked.attempt x) nothing := by
  intro L G
  apply (hx L G).bind
  intro r s hs
  have hnow : R.At L G s.backend.machine := by cases r <;> exact hs.none_now
  exact ⟨.ok r, s, rfl, hnow.left⟩

theorem callMethod_leaves (h : jni.TracksDrains R) (object : Ref) (name signature : String)
    (args : List Ref) : R.Leaves (Checked.callMethod jni object name signature args) id := by
  apply Leaves.bind_thenDelete h.toTracks (takes_enter (h.getObjectClass object) _)
  intro cls
  apply (getMethodId_leaves h.toTracks cls name signature).bind
  intro method
  exact orException_leaves h.toTracks (h.callObjectMethod object method args) _

/-- Once the classes are there, to compare them and to read the text takes no reference. -/
theorem compareAndRead_leaves (h : jni.TracksDrains R) (string expected actual : Ref) :
    R.Leaves (do
      unless ← Checked.enter jni .isAssignableFrom (jni.isAssignableFrom expected actual) do
        throw (.failed .invalidArguments)
      let text ← Checked.orNull jni .getStringUtfChars (jni.getStringUtfChars string)
      let _ ← Checked.attempt
        (Checked.enter jni .releaseStringUtfChars (jni.releaseStringUtfChars string))
      return text : Checked μ String) nothing := by
  apply (keeps_enter (h.isAssignableFrom _ _) _).bind
  intro fits
  cases fits with
  | false => exact .throw _
  | true =>
    apply (orNull_keeps h.toTracks (h.getStringUtfChars string) _).bind
    intro text
    apply (attempt_keeps (keeps_enter (h.releaseStringUtfChars string) _)).bind
    intro released
    exact .pure text rfl

/-- The classes that are compared are new, and to read a text takes no other reference. -/
theorem getString_returns (h : jni.TracksDrains R) (string : Ref) {s : Site (Link μ)}
    (hs : R.At L G s.backend.machine) :
    ∃ r v, (Checked.getString jni string).run.run s = (.ok r, v) ∧
      Disjoint (comparedClasses jni string s) L ∧
        R.At (L ∪ comparedClasses jni string s) G v.backend.machine := by
  obtain ⟨r, u, hclass, hu⟩ := findClass_leaves h.toTracks stringClassName L G s hs
  unfold comparedClasses
  cases r with
  | error e =>
    have hnow : R.At L G u.backend.machine := hu.none_now
    refine ⟨.error e, u, Routine.run_bind_ok hclass _, ?_⟩
    simp [hclass, hnow]
  | ok expected =>
    have hexpected : Fresh (some expected) L := hu.fresh
    have htaken : R.Leaves (Checked.enter jni .getObjectClass (jni.getObjectClass string)) id :=
      takes_enter (h.getObjectClass string) _
    obtain ⟨r, v, hactual, hv⟩ := htaken _ G u hu.now
    simp only [hclass, hactual]
    cases r with
    | error e =>
      have hnow : R.At (added L (some expected)) G v.backend.machine := hv.none_now
      refine ⟨.error e, v, ?_, ?_, ?_⟩
      · exact (Routine.run_bind_ok hclass _).trans (Routine.run_bind_ok hactual _)
      · simpa using fresh_some.mp hexpected
      · rwa [added_some] at hnow
    | ok actual =>
      obtain ⟨r, w, hread, hw⟩ :=
        compareAndRead_leaves h string (some expected) actual _ G v hv.now
      have hnow : R.At (added (added L (some expected)) actual) G w.backend.machine := by
        cases r <;> exact hw.none_now
      have hactualFresh : Fresh actual (added L (some expected)) := hv.fresh
      refine ⟨r, w, ?_, ?_, ?_⟩
      · exact (Routine.run_bind_ok hclass _).trans ((Routine.run_bind_ok hactual _).trans hread)
      · rw [Set.disjoint_left]
        rintro handle (rfl | hhandle)
        · exact fresh_some.mp hexpected
        · exact hactualFresh.of_added handle hhandle
      · rwa [added_added_some] at hnow

end Calls

end References

namespace Context

open References

section Draining

variable {R : References μ} {L G : Set Handle} {jni : NativeInterface μ}

/-- The text is deleted if it has been read. -/
theorem throwableText_returns (h : jni.TracksDrains R) (throwable : Handle) {s : Site (Link μ)}
    (hs : R.At L G s.backend.machine) :
    ∃ r v classes lost, (throwableText jni (some throwable)).run.run s = (.ok r, v) ∧
      TextLeaves jni throwable s classes lost ∧ Disjoint classes lost ∧
        Disjoint (classes ∪ lost) L ∧ R.At (L ∪ (classes ∪ lost)) G v.backend.machine := by
  obtain ⟨r, u, htold, hu⟩ :=
    callMethod_leaves h (some throwable) "toString" toStringSignature [] L G s hs
  cases r with
  | error e =>
    have hno := not_succeeds_of_error (x := ownText jni throwable) htold
    have hnow : R.At L G u.backend.machine := hu.none_now
    refine ⟨.error e, u, ∅, ∅, Routine.run_bind_ok htold _, .untold fun _ => hno _, ?_⟩
    simpa using hnow
  | ok text? =>
    cases text? with
    | none =>
      have hnow : R.At L G u.backend.machine := hu.none_now
      refine ⟨.ok "null", u, ∅, ∅, Routine.run_bind_ok htold _, .untold ?_, ?_⟩
      · intro text v hv
        have hsame := (Succeeds.unique (x := ownText jni throwable) htold hv).1
        cases hsame
      · simpa using hnow
    | some text =>
      have hfresh : Fresh (some text) L := hu.fresh
      have hadded : R.At (added L (some text)) G u.backend.machine := hu.now
      obtain ⟨r, v, hread, hclasses, hv⟩ := getString_returns h (some text) hadded
      have happart : Disjoint (comparedClasses jni (some text) u) {text} := by
        rw [added_some] at hclasses
        exact hclasses.mono_right Set.subset_union_right
      have hrun : (throwableText jni (some throwable)).run.run s = Routine.run _ u :=
        Succeeds.run_bind htold _
      rw [hrun]
      cases r with
      | error e =>
        have hno := not_succeeds_of_error hread
        refine ⟨.error e, v, _, {text}, Routine.run_bind_ok hread _, .unread htold hno, happart,
          ?_, ?_⟩
        · rw [Set.disjoint_union_left]
          have hnew : text ∉ L := fresh_some.mp hfresh
          exact ⟨disjoint_of_added hclasses, by simpa using hnew⟩
        · rwa [added_some, Set.union_assoc, Set.union_comm {text}] at hv
      | ok summary =>
        obtain ⟨_, w, hdropped, hw⟩ := dropLocal_returns h.toTracks (some text) v hv
        rw [removed_added_union hfresh hclasses] at hw
        have hdrop : Succeeds (ExceptT.lift (dropLocal jni (some text)) : Checked μ Unit) v () w :=
          .lift hdropped
        refine ⟨.ok summary, w, _, ∅, ?_, .read htold ⟨summary, v, hread⟩, by simp, ?_, ?_⟩
        · exact (Succeeds.run_bind hread _).trans (Succeeds.run_bind hdrop _)
        · simpa using disjoint_of_added hclasses
        · simpa using hw

/-- The exception is cleared before its throwable is asked, and the throwable is deleted in the
end. -/
theorem takeSummary_returns (h : jni.TracksDrains R) {s : Site (Link μ)}
    (hs : R.At L G s.backend.machine) :
    ∃ r v classes lost, (takeSummary jni).run.run s = (.ok r, v) ∧
      SummaryLeaves jni s classes lost ∧ Disjoint classes lost ∧
        Disjoint (classes ∪ lost) L ∧ R.At (L ∪ (classes ∪ lost)) G v.backend.machine := by
  have htaken : R.Leaves (Checked.exceptionOccurred jni) id := takes_enter h.exceptionOccurred _
  obtain ⟨r, u, hoccurred, hu⟩ := htaken L G s hs
  cases r with
  | error e =>
    have hno := not_succeeds_of_error hoccurred
    have hnow : R.At L G u.backend.machine := hu.none_now
    refine ⟨.error e, u, ∅, ∅, Routine.run_bind_ok hoccurred _, .unasked fun _ => hno _, ?_⟩
    simpa using hnow
  | ok throwable? =>
    cases throwable? with
    | none =>
      have hnow : R.At L G u.backend.machine := hu.none_now
      refine ⟨.ok none, u, ∅, ∅, Routine.run_bind_ok hoccurred _, .unasked ?_, ?_⟩
      · intro throwable v hv
        have hsame := (Succeeds.unique hoccurred hv).1
        cases hsame
      · simpa using hnow
    | some throwable =>
      have hfresh : Fresh (some throwable) L := hu.fresh
      have hcleared : Succeeds (Checked.exceptionClear jni) u ()
          (Link.after jni.exceptionClear u) := by
        rw [Checked.exceptionClear, Checked.enter, if_pos h.clears]
        rfl
      have hadded : R.At (added L (some throwable)) G (jni.exceptionClear u.backend.machine).2 :=
        h.exceptionClear _ G _ hu.now
      obtain ⟨r, v, classes, lost, htext, hleaves, happart, hfree, hv⟩ :=
        throwableText_returns h throwable (s := Link.after jni.exceptionClear u) hadded
      obtain ⟨_, w, hdropped, hw⟩ := dropLocal_returns h.toTracks (some throwable) v hv
      rw [removed_added_union hfresh hfree] at hw
      have hattempt : Succeeds (Checked.attempt (throwableText jni (some throwable)))
          (Link.after jni.exceptionClear u) r v := .lift htext
      have hdrop : Succeeds (ExceptT.lift (dropLocal jni (some throwable)) : Checked μ Unit) v ()
          w := .lift hdropped
      have hrun : (takeSummary jni).run.run s = Routine.run _ w :=
        (Succeeds.run_bind hoccurred _).trans <| (Succeeds.run_bind hcleared _).trans <|
          (Succeeds.run_bind hattempt _).trans (Succeeds.run_bind hdrop _)
      rw [hrun]
      have hall := And.intro happart (And.intro (disjoint_of_added hfree) hw)
      cases r with
      | error e => exact ⟨.error e, w, classes, lost, rfl, .asked hoccurred hcleared hleaves, hall⟩
      | ok text =>
        exact ⟨.ok (some text), w, classes, lost, rfl, .asked hoccurred hcleared hleaves, hall⟩

theorem describe_returns (h : jni.TracksDrains R) {s : Site (Link μ)}
    (hs : R.At L G s.backend.machine) :
    ∃ v classes lost, (describe jni false).run s = (.ok (), v) ∧
      SummaryLeaves jni s classes lost ∧ Disjoint classes lost ∧
        Disjoint (classes ∪ lost) L ∧ R.At (L ∪ (classes ∪ lost)) G v.backend.machine := by
  obtain ⟨r, v, classes, lost, hrun, hall⟩ := takeSummary_returns h hs
  have hdescribe : (describe jni false).run s = Routine.run _ v := Routine.run_bind_ok hrun _
  rw [hdescribe]
  rcases r with e | _ | summary
  · exact ⟨_, classes, lost, rfl, hall⟩
  · exact ⟨_, classes, lost, rfl, hall⟩
  · exact ⟨_, classes, lost, rfl, hall⟩

theorem clear_keeps (h : jni.TracksDrains R) {s : Site (Link μ)}
    (hs : R.At L G s.backend.machine) :
    ∃ v, (clear jni).run s = (.ok (), v) ∧ R.At L G v.backend.machine := by
  rw [clear, Checked.exceptionClear, Checked.enter, if_pos h.clears]
  exact ⟨_, rfl, h.exceptionClear L G _ hs⟩

theorem pending_run (h : jni.TracksDrains R) (s : Site (Link μ)) :
    (pending jni).run s =
      (.ok (R.pending s.backend.machine), Link.after jni.exceptionCheck s) :=
  Routine.run_bind_ok (exceptionCheck_run h.toTracks s) _

end Draining

/-- A drain that summarizes leaves the global references as they are, and with nothing pending the
local ones too. Otherwise the local references are those before, the classes that were compared, and
the text if it could not be read: so but for the classes they are those before only if each text
that the throwable gives of itself can be read. -/
theorem drain_leaves {R : References μ} {vm : InvocationInterface μ ε} {c : Context ε}
    (h : (vm.functions c.env).TracksDrains R) (hconfig : c.config.describeExceptions = false)
    (t : ThreadId) (w : World (Link μ)) (hs : R.sound w.backend.machine) :
    ∃ v, (drain (c.operations vm t)).run w = (.ok (R.pending w.backend.machine), v) ∧
      R.globals v.backend.machine = R.globals w.backend.machine ∧
      (R.pending w.backend.machine = false →
        R.locals v.backend.machine = R.locals w.backend.machine) ∧
      (R.pending w.backend.machine = true →
        let jni := vm.functions c.env
        let asked := Link.after jni.exceptionCheck w.toSite
        ∃ classes lost, SummaryLeaves jni asked classes lost ∧ Disjoint classes lost ∧
          Disjoint (classes ∪ lost) (R.locals w.backend.machine) ∧
          R.locals v.backend.machine = R.locals w.backend.machine ∪ (classes ∪ lost) ∧
          (R.locals v.backend.machine = R.locals w.backend.machine ∪ classes ↔
            ReadsText jni asked)) := by
  have hbefore : R.At _ _ w.backend.machine := ⟨hs, rfl, rfl⟩
  have hasked := h.exceptionCheck_keeps _ _ _ hbefore
  have hpending := pending_run h w.toSite
  cases hthrown : R.pending w.backend.machine with
  | false =>
    rw [hthrown] at hpending
    have hrun : (drain (c.operations vm t)).run w = _ := run_drain_none hpending
    exact ⟨_, hrun, hasked.globals_eq, fun _ => hasked.locals_eq, nofun⟩
  | true =>
    rw [hthrown] at hpending
    obtain ⟨u, classes, lost, hdescribed, hleaves, happart, hfree, hu⟩ :=
      describe_returns h (s := Link.after (vm.functions c.env).exceptionCheck w.toSite) hasked
    obtain ⟨v, hcleared, hv⟩ := clear_keeps h hu
    have hdescribe : (c.operations vm t).describeException.run
        (Link.after (vm.functions c.env).exceptionCheck w.toSite) = (.ok (), u) := by
      rw [← hdescribed, ← hconfig]
      rfl
    have hrun : (drain (c.operations vm t)).run w = _ :=
      run_drain_some hpending hdescribe hcleared
    refine ⟨_, hrun, hv.globals_eq, nofun, fun _ => ?_⟩
    refine ⟨classes, lost, hleaves, happart, hfree, hv.locals_eq, ?_⟩
    rw [← hleaves.lost_eq_empty_iff]
    have hlost : Disjoint lost (R.locals w.backend.machine ∪ classes) := by
      rw [Set.disjoint_union_right]
      exact ⟨hfree.mono_left Set.subset_union_right, happart.symm⟩
    have hlocals : R.locals v.backend.machine =
        R.locals w.backend.machine ∪ classes ∪ lost := by
      rw [Set.union_assoc]
      exact hv.locals_eq
    show R.locals v.backend.machine = _ ↔ _
    rw [hlocals]
    exact union_eq_left_iff hlost

end Context

namespace Machine

open References

variable {m : Machine} {t : ThreadId} {L G : Set Handle}

theorem newLocal_takes (object : Object) : (references t).Takes (newLocal t object) := by
  intro L G m hm
  rw [newLocal_eq hm.sound.1]
  have hstored : (references t).At L G { m with objects := m.objects ++ [object] } :=
    at_of_refs hm rfl rfl hm.sound.1 hm.sound.2.2
  exact left_referred hstored m.objects.length

theorem getObjectClass_takes (missing : List Entry) (object : Ref) :
    (references t).Takes ((natives missing t).getObjectClass object) :=
  fun L G _ hm => newLocal_takes _ L G _ (at_called hm "GetObjectClass")

theorem takes_null : (references t).Takes (pure none) := fun _ _ _ hm => hm.left

theorem takes_get {f : Machine → StateM Machine Ref} (h : ∀ m, (references t).Takes (f m)) :
    (references t).Takes (get >>= f) :=
  fun L G m => h m L G m

theorem faulty_takes {name : String} {usual : StateM Machine Ref}
    (h : (references t).Takes usual) :
    (references t).Takes (faulty t name (fun _ => none) usual) := by
  intro L G m hm
  obtain ⟨m', hm', ⟨-, hrun⟩ | ⟨fault, -, hrun⟩⟩ := faulty_cases name (fun _ => none) usual hm
  · rw [hrun]
    exact h L G m' hm'
  · rw [hrun]
    exact hm'.left

theorem exceptionOccurred_takes (missing : List Entry) :
    (references t).Takes (natives missing t).exceptionOccurred := by
  apply faulty_takes
  apply takes_get
  intro m
  split
  · exact newLocal_takes _
  · exact takes_null

theorem at_setPending (h : (references t).At L G m) (e : Option Throwable) :
    (references t).At L G (m.setPending t e) := by
  refine at_of_refs h rfl rfl ?_ h.sound.2.2
  simp [setPending, isAttached, Table.contains]

theorem exceptionClear_keeps (missing : List Entry) :
    (references t).Keeps (natives missing t).exceptionClear := by
  intro L G m hm
  have hcalled := at_called hm "ExceptionClear"
  show (references t).At L G
    ((if _ then modify fun m : Machine => m.setPending t none else pure () :
      StateM Machine Unit) _).2
  split
  · exact at_setPending hcalled none
  · exact hcalled

theorem encodeString_gives (string charset : Ref) : Gives t (encodeString t string charset) := by
  apply gives_get
  intro m
  apply gives_get
  intro m'
  split
  · exact gives_newLocal _
  · exact gives_null

theorem callObjectMethod_hands (missing : List Entry) (object : Ref) (method : MethodId)
    (args : List Ref) :
    (references t).Hands ((natives missing t).callObjectMethod object method args) := by
  refine careful_hands (by decide) ?_
  split
  · exact encodeString_gives _ _
  · split
    · apply gives_get
      intro m
      split
      · exact gives_newLocal _
      · exact gives_null
    · exact gives_null

theorem getStringUtfChars_keeps (missing : List Entry) (string : Ref) :
    (references t).Keeps ((natives missing t).getStringUtfChars string) := by
  refine careful_keeps (keeps_get fun m => ?_)
  split
  · exact fun L G m hm => at_of_refs hm rfl rfl hm.sound.1 hm.sound.2.2
  · exact keeps_pure _

theorem natives_tracksDrains {missing : List Entry} (hchecks : .exceptionCheck ∉ missing)
    (hdeletes : .deleteLocalRef ∉ missing) (hglobal : .deleteGlobalRef ∉ missing)
    (hclears : .exceptionClear ∉ missing) :
    (natives missing t).TracksDrains (references t) where
  toTracks := natives_tracks hchecks hdeletes hglobal
  clears := by simp [natives, hclears]
  exceptionClear := exceptionClear_keeps missing
  exceptionOccurred := exceptionOccurred_takes missing
  getObjectClass := getObjectClass_takes missing
  callObjectMethod := callObjectMethod_hands missing
  isAssignableFrom _ _ := faulty_keeps (keeps_get fun _ => keeps_pure _)
  getStringUtfChars := getStringUtfChars_keeps missing
  releaseStringUtfChars _ _ _ _ hm :=
    at_of_refs (at_called hm "ReleaseStringUTFChars") rfl rfl hm.sound.1 hm.sound.2.2

/-- A thread with an exception pending, on a machine that once has no memory to find a class. -/
def starved : World (Link Machine) :=
  let machine := attach
    { faults := [⟨"FindClass", 0, { throws := some outOfMemory }⟩] }
    (.worker 0)
  ⟨⟨⟨machine.throwOn (.worker 0) ⟨"demo/Boom", none⟩, []⟩, []⟩, .zero⟩

/-- A context whose exceptions are summarized. -/
def summarizing : Context ThreadId := ⟨.worker 0, { describeExceptions := false }⟩

/-- The text of the throwable cannot be read, and is left in use. -/
theorem unreadText_left :
    ∃ v, (drain (summarizing.operations (invocation []) (.worker 0))).run starved =
        (.ok true, v) ∧
      (starved.backend.machine.view (.worker 0)).locals = 0 ∧
      (v.backend.machine.view (.worker 0)).locals = 1 :=
  ⟨_, rfl, rfl, rfl⟩

theorem drain_leaves_unreadText :
    ∃ v classes lost, (drain (summarizing.operations (invocation []) (.worker 0))).run starved =
        (.ok true, v) ∧ Disjoint classes lost ∧ classes ∪ lost ≠ ∅ ∧
      v.backend.machine.held (some (.worker 0)) =
        starved.backend.machine.held (some (.worker 0)) ∪ (classes ∪ lost) := by
  have htracks : ((invocation []).functions summarizing.env).TracksDrains
      (references (.worker 0)) :=
    natives_tracksDrains List.not_mem_nil List.not_mem_nil List.not_mem_nil List.not_mem_nil
  have hsound : (references (.worker 0)).sound starved.backend.machine := by
    refine ⟨rfl, nofun, fun shot hshot => ?_⟩
    obtain rfl := List.mem_singleton.1 hshot
    exact .inr ⟨by decide, rfl⟩
  obtain ⟨v, hrun, -, -, hthrown⟩ := Context.drain_leaves htracks rfl (.worker 0) starved hsound
  obtain ⟨classes, lost, -, happart, -, hlocals, -⟩ := hthrown rfl
  refine ⟨v, classes, lost, hrun, happart, fun hnone => ?_, hlocals⟩
  obtain ⟨u, hrun', object, hobject⟩ : ∃ u,
      (drain (summarizing.operations (invocation []) (.worker 0))).run starved = (.ok true, u) ∧
        Fault.codeBound + 2 ∈ u.backend.machine.held (some (.worker 0)) := ⟨_, rfl, _, rfl⟩
  obtain ⟨-, rfl⟩ := Prod.mk.inj (hrun'.symm.trans hrun)
  rw [hnone, Set.union_empty] at hlocals
  have hheld : Fault.codeBound + 2 ∈ starved.backend.machine.held (some (.worker 0)) :=
    hlocals.subset ⟨object, hobject⟩
  obtain ⟨_, hnothing⟩ := hheld
  cases hnothing

end Machine

end ManagedBridge.Jvm
