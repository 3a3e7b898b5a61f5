import ManagedBridge.Proofs.Attaching
import ManagedBridge.Proofs.References

/-!
# References of the simulated machine

The simulated machine gives out references in order, so each new one is fresh, and it deletes what
it is told to. A fault that makes a function throw or come back with null gives out nothing.
-/

namespace ManagedBridge.Jvm.Machine

open References

variable {α : Type} {m m' : Machine} {t : ThreadId} {L G : Set Handle} {owner : Option ThreadId}

/-- The references of a thread, or the global ones. -/
def held (m : Machine) (owner : Option ThreadId) : Set Handle :=
  {handle | ∃ object, m.refs.get? handle = some ⟨owner, object⟩}

/-- Every reference was given out. -/
def Numbered (m : Machine) : Prop :=
  ∀ handle r, m.refs.get? handle = some r → handle < m.nextHandle

/-- Only the question for the machine may come back with a code, and the one for the environment is
answered. -/
def Bland (target : String) (fault : Fault) : Prop :=
  target = "GetJavaVM" ∨ target ≠ "GetEnv" ∧ fault.code = 0

/-- The references as an attached thread has them. -/
def references (t : ThreadId) : References Machine where
  sound m := m.isAttached t = true ∧ m.Numbered ∧ ∀ shot ∈ m.faults, Bland shot.target shot.effect
  pending m := (m.pending? t).isSome
  locals m := m.held (some t)
  globals m := m.held none

theorem Numbered.not_mem_held (h : m.Numbered) (owner : Option ThreadId) :
    m.nextHandle ∉ m.held owner := by
  rintro ⟨object, hobject⟩
  exact absurd (h _ _ hobject) (Nat.lt_irrefl _)

/-- What gives out no reference and deletes none. -/
theorem at_of_refs (h : (references t).At L G m) (hrefs : m'.refs = m.refs)
    (hnext : m'.nextHandle = m.nextHandle) (hattached : m'.isAttached t = true)
    (hfaults : ∀ shot ∈ m'.faults, Bland shot.target shot.effect) : (references t).At L G m' := by
  have hheld (owner : Option ThreadId) : m'.held owner = m.held owner := by
    rw [held, held, hrefs]
  refine ⟨⟨hattached, ?_, hfaults⟩, (hheld _).trans h.locals_eq, (hheld _).trans h.globals_eq⟩
  rw [Numbered, hrefs, hnext]
  exact h.sound.2.1

theorem at_called (h : (references t).At L G m) (name : String) :
    (references t).At L G { m with called := name :: m.called } :=
  at_of_refs h rfl rfl h.sound.1 h.sound.2.2

theorem isAttached_throwOn (hattached : m.isAttached t = true) (e : Throwable) :
    (m.throwOn t e).isAttached t = true := by
  rw [throwOn, if_pos hattached]
  simp [setPending, isAttached, Table.contains]

theorem at_throwOn (h : (references t).At L G m) (e : Throwable) :
    (references t).At L G (m.throwOn t e) := by
  have hattached := isAttached_throwOn h.sound.1 e
  rw [throwOn, if_pos h.sound.1] at hattached ⊢
  exact at_of_refs h rfl rfl hattached h.sound.2.2

theorem held_referred (m : Machine) (owner : Option ThreadId) (object : Nat) :
    (m.referred owner object).held owner = added (m.held owner) (some m.nextHandle) := by
  ext handle
  show (∃ o, (m.refs.set m.nextHandle ⟨owner, object⟩).get? handle = some ⟨owner, o⟩) ↔ _
  by_cases hnew : m.nextHandle = handle
  · simp [mem_added, hnew]
  · simp [mem_added, hnew, held]

theorem held_referred_of_ne (hnumbered : m.Numbered) {other : Option ThreadId}
    (hne : other ≠ owner) (object : Nat) : (m.referred owner object).held other = m.held other := by
  ext handle
  show (∃ o, (m.refs.set m.nextHandle ⟨owner, object⟩).get? handle = some ⟨other, o⟩) ↔ _
  by_cases hnew : m.nextHandle = handle
  · have hfresh := hnumbered.not_mem_held other
    rw [hnew] at hfresh
    simp [hnew, hne.symm, hfresh]
  · simp [hnew, held]

theorem numbered_referred (h : m.Numbered) (owner : Option ThreadId) (object : Nat) :
    (m.referred owner object).Numbered := by
  intro handle r hr
  show handle < m.nextHandle + 1
  have hr' : (m.refs.set m.nextHandle ⟨owner, object⟩).get? handle = some r := hr
  by_cases hnew : m.nextHandle = handle
  · exact hnew ▸ Nat.lt_succ_self _
  · rw [Table.get?_set, if_neg hnew] at hr'
    exact Nat.lt_succ_of_lt (h handle r hr')

/-- A new local reference of the thread. -/
theorem left_referred (h : (references t).At L G m) (object : Nat) :
    (references t).Left L G (some m.nextHandle) (m.referred (some t) object) := by
  obtain ⟨⟨hattached, hnumbered, hfaults⟩, rfl, rfl⟩ := h
  refine ⟨fresh_some.2 (hnumbered.not_mem_held _), ?_, held_referred m (some t) object, ?_⟩
  · exact ⟨hattached, numbered_referred hnumbered _ object, hfaults⟩
  · have hne : (none : Option ThreadId) ≠ some t := by simp
    exact held_referred_of_ne hnumbered hne object

theorem pinned_referred (h : (references t).At L G m) (object : Nat) :
    (references t).Pinned L G (some m.nextHandle) (m.referred none object) := by
  obtain ⟨⟨hattached, hnumbered, hfaults⟩, rfl, rfl⟩ := h
  refine ⟨fresh_some.2 (hnumbered.not_mem_held _), ?_, ?_, held_referred m none object⟩
  · exact ⟨hattached, numbered_referred hnumbered _ object, hfaults⟩
  · have hne : some t ≠ none := by simp
    exact held_referred_of_ne hnumbered hne object

theorem held_erase (m : Machine) (owner : Option ThreadId) (handle : Handle) :
    held { m with refs := m.refs.erase handle } owner = removed (m.held owner) (some handle) := by
  ext other
  show (∃ object, (m.refs.erase handle).get? other = some ⟨owner, object⟩) ↔ _
  by_cases hsame : handle = other
  · simp [mem_removed, hsame]
  · simp [mem_removed, hsame, held]

theorem any_owner_iff {handle : Handle} :
    (m.refs.get? handle).any (fun r => r.owner = owner) = true ↔ handle ∈ m.held owner := by
  cases href : m.refs.get? handle with
  | none => simp [held, href]
  | some r =>
    obtain ⟨o, object⟩ := r
    simp [held, href]

/-- A reference of an owner is deleted, and no other one. -/
theorem held_deleteRef (m : Machine) (owner other : Option ThreadId) (ref : Ref) :
    (deleteRef owner ref m).2.held other =
      if other = owner then removed (m.held other) ref else m.held other := by
  cases ref with
  | none =>
    rw [removed_none, ite_self]
    rfl
  | some handle =>
    show held (if (m.refs.get? handle).any _ then _ else m) other = _
    by_cases hheld : handle ∈ m.held owner
    · rw [if_pos (any_owner_iff.2 hheld), held_erase]
      split
      · rfl
      · next hne =>
        apply removed_of_not_mem
        rintro ⟨object, hobject⟩
        obtain ⟨object', hobject'⟩ := hheld
        cases hobject.symm.trans hobject'
        exact hne rfl
    · rw [if_neg fun hany => hheld (any_owner_iff.1 hany)]
      split
      · next hsame => exact (removed_of_not_mem (hsame ▸ hheld)).symm
      · rfl

theorem sound_deleteRef (h : (references t).sound m) (owner : Option ThreadId) (ref : Ref) :
    (references t).sound (deleteRef owner ref m).2 := by
  obtain ⟨hattached, hnumbered, hfaults⟩ := h
  cases ref with
  | none => exact ⟨hattached, hnumbered, hfaults⟩
  | some handle =>
    show (references t).sound (if (m.refs.get? handle).any _ then _ else m)
    split
    · refine ⟨hattached, fun other r hr => ?_, hfaults⟩
      have hr' : (m.refs.erase handle).get? other = some r := hr
      rw [Table.get?_erase] at hr'
      split at hr'
      · cases hr'
      · exact hnumbered other r hr'
    · exact ⟨hattached, hnumbered, hfaults⟩

/-- A function for which faults can be armed does what it usually does, or it is struck. -/
theorem faulty_cases (name : String) (result : Int64 → α) (usual : StateM Machine α)
    (h : (references t).At L G m) :
    ∃ m', (references t).At L G m' ∧ ((references t).pending m' = (references t).pending m ∧
        faulty t name result usual m = usual m' ∨
      ∃ fault, Bland name fault ∧ faulty t name result usual m = (result fault.code, m')) := by
  obtain ⟨hleft, hused⟩ := take_effect name h.sound.2.2
  have hnoted : (references t).At L G
      { m with called := name :: m.called, faults := (OneShot.take name m.faults).2 } :=
    at_of_refs h rfl rfl h.sound.1 hleft
  cases htake : (OneShot.take name m.faults).1 with
  | none => exact ⟨_, hnoted, .inl ⟨rfl, faulty_spared (Prod.ext htake rfl) result usual⟩⟩
  | some fault =>
    refine ⟨struck t fault
      { m with called := name :: m.called, faults := (OneShot.take name m.faults).2 }, ?_,
      .inr ⟨fault, hused fault htake, ?_⟩⟩
    · unfold struck
      split
      · exact at_throwOn hnoted _
      · exact hnoted
    · exact faulty_struck (Prod.ext htake rfl) result usual

theorem faulty_keeps {name : String} {result : Int64 → α} {usual : StateM Machine α}
    (h : (references t).Keeps usual) : (references t).Keeps (faulty t name result usual) := by
  intro L G m hm
  obtain ⟨m', hm', ⟨-, hrun⟩ | ⟨fault, -, hrun⟩⟩ := faulty_cases name result usual hm
  · rw [hrun]
    exact h L G m' hm'
  · rw [hrun]
    exact hm'

theorem careful_eq (name : String) (result : Int64 → α) (usual : StateM Machine α) (m : Machine) :
    careful t name result usual m =
      if (m.pending? t).isSome then (result 0, { m with called := name :: m.called })
      else faulty t name result usual m := by
  show (if (m.pending? t).isSome then _ else _ : StateM Machine α) m = _
  split <;> rfl

theorem careful_keeps {name : String} {result : Int64 → α} {usual : StateM Machine α}
    (h : (references t).Keeps usual) : (references t).Keeps (careful t name result usual) := by
  intro L G m hm
  rw [careful_eq]
  split
  · exact at_called hm name
  · exact faulty_keeps h L G m hm

/-- With nothing pending the function gives out a new reference, or it comes back with null and may
throw. -/
def Gives (t : ThreadId) (usual : StateM Machine Ref) : Prop :=
  ∀ L G m, (references t).At L G m → (references t).pending m = false →
    (references t).Left L G (usual m).1 (usual m).2 ∧
      ((references t).pending (usual m).2 = true → (usual m).1 = none)

theorem gives_none {usual : StateM Machine Ref} (hnone : ∀ m, (usual m).1 = none)
    (h : (references t).Keeps usual) : Gives t usual := by
  intro L G m hm _
  rw [hnone m]
  exact ⟨(h L G m hm).left, fun _ => rfl⟩

theorem gives_newLocal (object : Object) : Gives t (newLocal t object) := by
  intro L G m hm hquiet
  rw [newLocal_eq hm.sound.1]
  have hstored : (references t).At L G { m with objects := m.objects ++ [object] } :=
    at_of_refs hm rfl rfl hm.sound.1 hm.sound.2.2
  refine ⟨left_referred hstored m.objects.length, fun hthrown => ?_⟩
  have hsame : (references t).pending (m.extended t object) = (references t).pending m := rfl
  rw [hsame, hquiet] at hthrown
  cases hthrown

theorem keeps_throwing (e : Throwable) (result : α) :
    (references t).Keeps (throwing t e result) :=
  fun _ _ _ hm => at_throwOn hm e

theorem keeps_pure (a : α) : (references t).Keeps (pure a) := fun _ _ _ => id

/-- What is done may depend on the state that is found. -/
theorem gives_get {f : Machine → StateM Machine Ref} (h : ∀ m, Gives t (f m)) :
    Gives t (get >>= f) :=
  fun L G m => h m L G m

theorem pins_get {f : Machine → StateM Machine Ref} (h : ∀ m, (references t).Pins (f m)) :
    (references t).Pins (get >>= f) :=
  fun L G m => h m L G m

theorem keeps_get {f : Machine → StateM Machine α} (h : ∀ m, (references t).Keeps (f m)) :
    (references t).Keeps (get >>= f) :=
  fun L G m => h m L G m

theorem gives_null : Gives t (pure none) := gives_none (fun _ => rfl) (keeps_pure none)

theorem gives_throwing (e : Throwable) : Gives t (throwing t e none) :=
  gives_none (fun _ => rfl) (keeps_throwing e none)

/-- A careful function that gives out a reference is not struck then, and nothing was pending. -/
theorem careful_hands {name : String} {usual : StateM Machine Ref} (hname : name ≠ "GetJavaVM")
    (h : Gives t usual) : (references t).Hands (careful t name Fault.pointer usual) := by
  intro L G m hm
  rw [careful_eq]
  cases hpending : (m.pending? t).isSome with
  | true =>
    exact ⟨fun _ => at_called hm name, fun _ => (at_called hm name).left⟩
  | false =>
    obtain ⟨m', hm', ⟨hsame, hrun⟩ | ⟨fault, hbland, hrun⟩⟩ :=
      faulty_cases name Fault.pointer usual hm
    · obtain ⟨hleft, hthrows⟩ := h L G m' hm' (hsame.trans hpending)
      rw [if_neg Bool.false_ne_true, hrun]
      refine ⟨fun hthrown => ?_, fun _ => hleft⟩
      rw [hthrows hthrown] at hleft
      exact hleft.none_now
    · obtain ⟨-, hcode⟩ := hbland.resolve_left hname
      rw [if_neg Bool.false_ne_true, hrun, hcode]
      exact ⟨fun _ => hm', fun _ => hm'.left⟩

theorem findClass_hands (missing : List Entry) (name : String) :
    (references t).Hands ((natives missing t).findClass name) := by
  refine careful_hands (by decide) (gives_get fun m => ?_)
  split
  · exact gives_newLocal _
  · exact gives_throwing _

theorem charsetNamed_gives (name : Ref) : Gives t (charsetNamed t name) := by
  refine gives_get fun m => ?_
  split
  · exact gives_null
  · split
    · exact gives_newLocal _
    · exact gives_throwing _

theorem callStaticObjectMethod_hands (missing : List Entry) (cls : Ref) (method : MethodId)
    (args : List Ref) :
    (references t).Hands ((natives missing t).callStaticObjectMethod cls method args) := by
  refine careful_hands (by decide) ?_
  split
  · exact charsetNamed_gives _
  · exact gives_null

theorem orNoSuchMethod_keeps (name : String) (found : Option MethodId) :
    (references t).Keeps (orNoSuchMethod t name found) := by
  cases found with
  | none => exact keeps_throwing _ none
  | some method => exact keeps_pure _

theorem faulty_pins {name : String} {usual : StateM Machine Ref} (hname : name ≠ "GetJavaVM")
    (h : (references t).Pins usual) :
    (references t).Pins (faulty t name Fault.pointer usual) := by
  intro L G m hm
  obtain ⟨m', hm', ⟨-, hrun⟩ | ⟨fault, hbland, hrun⟩⟩ := faulty_cases name Fault.pointer usual hm
  · rw [hrun]
    exact h L G m' hm'
  · obtain ⟨-, hcode⟩ := hbland.resolve_left hname
    rw [hrun, hcode]
    exact hm'.pinned

theorem newGlobalRef_pins (missing : List Entry) (ref : Ref) :
    (references t).Pins ((natives missing t).newGlobalRef ref) := by
  refine faulty_pins (by decide) (pins_get fun m => ?_)
  split
  · exact fun L G m hm => pinned_referred hm _
  · exact fun L G m hm => hm.pinned

theorem deleteRef_at_local (h : (references t).At L G m) (ref : Ref) :
    (references t).At (removed L ref) G (deleteRef (some t) ref m).2 := by
  obtain ⟨hsound, rfl, rfl⟩ := h
  refine ⟨sound_deleteRef hsound _ ref, ?_, ?_⟩
  · exact (held_deleteRef m (some t) (some t) ref).trans (if_pos rfl)
  · exact (held_deleteRef m (some t) none ref).trans (if_neg nofun)

theorem deleteRef_at_global (h : (references t).At L G m) (ref : Ref) :
    (references t).At L (removed G ref) (deleteRef none ref m).2 := by
  obtain ⟨hsound, rfl, rfl⟩ := h
  refine ⟨sound_deleteRef hsound _ ref, ?_, ?_⟩
  · exact (held_deleteRef m none (some t) ref).trans (if_neg nofun)
  · exact (held_deleteRef m none none ref).trans (if_pos rfl)

/-- While faults are bland the simulated machine keeps track of references as a resolution relies
on. -/
theorem natives_tracks {missing : List Entry} (hchecks : .exceptionCheck ∉ missing)
    (hdeletes : .deleteLocalRef ∉ missing) (hglobal : .deleteGlobalRef ∉ missing) :
    (natives missing t).Tracks (references t) where
  checks := by simp [natives, hchecks]
  deletes := by simp [natives, hdeletes]
  deletesGlobal := by simp [natives, hglobal]
  exceptionCheck _ := rfl
  exceptionCheck_keeps _ _ _ hm := at_called hm _
  findClass := findClass_hands missing
  newStringUtf text := careful_hands (by decide) (gives_newLocal _)
  callStaticObjectMethod := callStaticObjectMethod_hands missing
  getMethodId cls name signature :=
    careful_keeps (keeps_get fun _ => orNoSuchMethod_keeps name _)
  getStaticMethodId cls name signature :=
    careful_keeps (keeps_get fun _ => orNoSuchMethod_keeps name _)
  getJavaVm := faulty_keeps (keeps_pure _)
  deleteLocalRef ref _ _ _ hm := deleteRef_at_local (at_called hm _) ref
  deleteGlobalRef ref _ _ _ hm := deleteRef_at_global (at_called hm _) ref
  newGlobalRef := newGlobalRef_pins missing

/-- The environment of an attached thread is that of the thread. -/
theorem invocation_tracks {missing : List Entry} (hchecks : .exceptionCheck ∉ missing)
    (hdeletes : .deleteLocalRef ∉ missing) (hglobal : .deleteGlobalRef ∉ missing) :
    (invocation missing).Tracks t t (references t) where
  getEnv m hm := by
    obtain ⟨m', hm', ⟨-, hrun⟩ | ⟨fault, hbland, -⟩⟩ := faulty_cases "GetEnv" Fault.status (do
        if (← get).isAttached t then return (0, some t) else return (detachedCode, none))
      (⟨hm, rfl, rfl⟩ : (references t).At _ _ m)
    · have hanswer : (invocation missing).getEnv t m =
          (if m'.isAttached t then pure (0, some t) else pure (detachedCode, none) :
            StateM Machine (Int32 × Option ThreadId)) m' := hrun
      rw [hanswer, if_pos hm'.sound.1]
      rfl
    · simp [Bland] at hbland
  getEnv_keeps := by
    refine faulty_keeps (keeps_get fun m => ?_)
    split
    · exact keeps_pure _
    · exact keeps_pure _
  functions := natives_tracks hchecks hdeletes hglobal

end ManagedBridge.Jvm.Machine
