import ManagedBridge.Proofs.Performance
import ManagedBridge.Proofs.Simulation

/-!
# Scopes on the simulated machine

The simulated machine is dependable. A thread that is detached takes its references with it, which
leaves the others as they are because no handle is given out twice: a table of references has one
entry for a handle. Functions can be called while that is so, and they leave it so.
-/

namespace ManagedBridge

namespace Table

variable {κ ν : Type} {t : Table κ ν}

/-- No key has two entries. -/
def Distinct (t : Table κ ν) : Prop := (t.entries.map Prod.fst).Nodup

theorem Distinct.filter (h : t.Distinct) (keep : κ × ν → Bool) :
    (⟨t.entries.filter keep⟩ : Table κ ν).Distinct :=
  List.Nodup.sublist (List.filter_sublist.map _) h

variable [DecidableEq κ] {k : κ}

theorem get?_eq_none (h : k ∉ t.entries.map Prod.fst) : t.get? k = none := by
  cases hv : t.get? k with
  | none => rfl
  | some v => exact absurd (List.mem_map_of_mem (mem_entries_of_get? hv)) h

instance : Decidable t.Distinct := inferInstanceAs (Decidable (List.Nodup _))

/-- Entries that are taken away are missed by nobody who looks for others. -/
theorem get?_filter (h : t.Distinct) (keep : κ × ν → Bool) (k : κ) :
    (⟨t.entries.filter keep⟩ : Table κ ν).get? k = (t.get? k).filter fun v => keep (k, v) := by
  obtain ⟨entries⟩ := t
  induction entries with
  | nil => rfl
  | cons entry rest ih =>
    obtain ⟨j, w⟩ := entry
    obtain ⟨hnew, hrest⟩ := List.nodup_cons.mp h
    have hlater := ih hrest
    by_cases hkeep : keep (j, w) = true <;> by_cases hj : j = k
    · subst hj
      simp [get?, find?, hkeep, Option.filter]
    · simpa [get?, find?, hkeep, hj] using hlater
    · subst hj
      have hnone : find? j rest = none := get?_eq_none (t := ⟨rest⟩) hnew
      simpa [get?, find?, hkeep, hnone, Option.filter] using hlater
    · simpa [get?, find?, hkeep, hj] using hlater

theorem Distinct.erase (h : t.Distinct) (k : κ) : (t.erase k).Distinct := h.filter _

theorem map_put (k : κ) (v : ν) (entries : List (κ × ν)) :
    (put k v entries).map Prod.fst =
      if k ∈ entries.map Prod.fst then entries.map Prod.fst else entries.map Prod.fst ++ [k] := by
  induction entries with
  | nil => rfl
  | cons entry rest ih =>
    obtain ⟨j, w⟩ := entry
    by_cases hj : j = k
    · simp [put, hj]
    · simp only [put, if_neg hj, List.map_cons, ih, List.mem_cons, Ne.symm hj, false_or]
      split <;> rfl

theorem Distinct.set (h : t.Distinct) (k : κ) (v : ν) : (t.set k v).Distinct := by
  show ((put k v t.entries).map Prod.fst).Nodup
  rw [map_put]
  split
  · exact h
  · next hnew =>
    refine List.nodup_append.mpr ⟨h, List.nodup_cons.mpr ⟨nofun, .nil⟩, fun j hj _ hk => ?_⟩
    rw [List.mem_singleton.mp hk]
    exact fun heq => hnew (heq ▸ hj)

end Table

namespace Jvm

variable {μ ε χ α β : Type}

/-- The reading by which functions can be called only while `inv` holds. -/
def Reading.during (R : Reading μ ε χ) (inv : μ → Prop) : Reading μ ε χ :=
  { R with callable := fun m env => R.callable m env ∧ inv m }

section During

variable {R : Reading μ ε χ} {inv : μ → Prop} {env : ε} {lost : Ref → Referent χ → Prop}
  {f : StateM μ α} {post : μ → α → μ → Prop}

theorem Reading.pinned_during {m : μ} {ref : Ref} {o : Referent χ} :
    (R.during inv).Pinned m ref o ↔ R.Pinned m ref o :=
  ⟨fun h => ⟨h.global, h.referent⟩, fun h => ⟨h.global, h.referent⟩⟩

theorem Reading.Keeps.during {m m' : μ} (h : R.Keeps env lost m m') (hinv : inv m') :
    (R.during inv).Keeps env lost m m' where
  callable := ⟨h.callable, hinv⟩
  environment := h.environment
  referent := h.referent
  pinned hpinned hlost := pinned_during.mpr (h.pinned (pinned_during.mp hpinned) hlost)
  method := h.method

/-- A function that leaves `inv` holding. -/
def Keeping (inv : μ → Prop) (f : StateM μ α) : Prop := ∀ m, inv m → inv (f m).2

variable (hf : Keeping inv f)

include hf

theorem Reading.Throws.during (h : R.Throws env lost f post) :
    (R.during inv).Throws env lost f post :=
  fun m hm => (h m hm.1).imp_left fun hkeeps => hkeeps.during (hf m hm.2)

theorem Reading.Silent.during (h : R.Silent env lost f post) :
    (R.during inv).Silent env lost f post :=
  fun m hm => (h m hm.1).imp_left fun hkeeps => hkeeps.during (hf m hm.2)

theorem Reading.Adds.during (h : R.Adds env f post) : (R.during inv).Adds env f post :=
  fun m hm => (h m hm.1).imp_left fun hkeeps => hkeeps.during (hf m hm.2)

end During

namespace Machine

variable {m m' : Machine} {t : ThreadId}

/-- No handle has two entries. -/
def Tidy (m : Machine) : Prop := m.refs.Distinct

instance : Decidable m.Tidy := inferInstanceAs (Decidable m.refs.Distinct)

section Keeping

variable {f : StateM Machine α} {g : α → StateM Machine β}

theorem keeping_pure {a : α} : Keeping Tidy (pure a : StateM Machine α) := fun _ => id

theorem keeping_bind (hf : Keeping Tidy f) (hg : ∀ a, Keeping Tidy (g a)) :
    Keeping Tidy (f >>= g) :=
  fun m hm => hg _ _ (hf m hm)

/-- What is done may depend on the state that is found. -/
theorem keeping_get {f : Machine → StateM Machine α} (hf : ∀ m, m.Tidy → Keeping Tidy (f m)) :
    Keeping Tidy (get >>= f) :=
  fun m hm => hf m hm m hm

theorem keeping_set (h : m.Tidy) : Keeping Tidy (set m : StateM Machine PUnit) := fun _ _ => h

theorem keeping_modify {change : Machine → Machine} (h : ∀ m, (change m).refs = m.refs) :
    Keeping Tidy (modify change) := by
  intro m hm
  show (change m).refs.Distinct
  rw [h]
  exact hm

theorem keeping_newRef {owner : Option ThreadId} {object : Nat} :
    Keeping Tidy (newRef owner object) :=
  fun _ hm => hm.set ..

theorem keeping_newLocal {o : Object} : Keeping Tidy (newLocal t o) := by
  refine keeping_get fun m hm => ?_
  split
  · exact keeping_bind (keeping_set (m := { m with objects := _ }) hm) fun _ =>
      keeping_newRef
  · exact keeping_pure

theorem refs_throwOn (m : Machine) (t : ThreadId) (e : Throwable) :
    (m.throwOn t e).refs = m.refs := by
  unfold throwOn
  split <;> rfl

theorem keeping_throwing {e : Throwable} {result : α} :
    Keeping Tidy (throwing t e result) :=
  keeping_bind (keeping_modify fun m => refs_throwOn m t e) fun _ => keeping_pure

theorem keeping_strike {name : String} : Keeping Tidy (strike t name) := by
  refine keeping_get fun m hm => ?_
  refine keeping_bind (keeping_set (m := { m with faults := _ }) hm) fun _ => ?_
  split
  · split
    · exact keeping_bind (keeping_modify fun m => refs_throwOn m t _) fun _ => keeping_pure
    · exact keeping_pure
  · exact keeping_pure

theorem keeping_enter {name : String} : Keeping Tidy (enter name) :=
  keeping_modify fun _ => rfl

theorem keeping_faulty {name : String} {result : Int64 → α} (hf : Keeping Tidy f) :
    Keeping Tidy (faulty t name result f) := by
  refine keeping_bind (keeping_enter) fun _ => ?_
  refine keeping_bind (keeping_strike) fun fault => ?_
  cases fault with
  | some fault => exact keeping_pure
  | none => exact hf

theorem keeping_careful {name : String} {result : Int64 → α} (hf : Keeping Tidy f) :
    Keeping Tidy (careful t name result f) := by
  refine keeping_get fun m _ => ?_
  split
  · exact keeping_bind (keeping_enter) fun _ => keeping_pure
  · exact keeping_faulty hf

theorem keeping_plain {name : String} (hf : Keeping Tidy f) : Keeping Tidy (plain name f) :=
  keeping_bind (keeping_enter) fun _ => hf

end Keeping

theorem keeping_findClass (name : String) : Keeping Tidy ((boundedNatives t).findClass name) := by
  refine keeping_careful (keeping_get fun m _ => ?_)
  split
  · exact keeping_newLocal
  · exact keeping_throwing

theorem keeping_orNoSuchMethod {name : String} (found : Option MethodId) :
    Keeping Tidy (orNoSuchMethod t name found) := by
  cases found with
  | none => exact keeping_throwing
  | some method => exact keeping_pure

theorem keeping_getMethodId (cls : Ref) (name signature : String) :
    Keeping Tidy ((boundedNatives t).getMethodId cls name signature) :=
  keeping_careful (keeping_get fun _ _ => keeping_orNoSuchMethod _)

theorem keeping_getStaticMethodId (cls : Ref) (name signature : String) :
    Keeping Tidy ((boundedNatives t).getStaticMethodId cls name signature) :=
  keeping_careful (keeping_get fun _ _ => keeping_orNoSuchMethod _)

theorem keeping_callStaticObjectMethod (cls : Ref) (method : MethodId) (args : List Ref) :
    Keeping Tidy ((boundedNatives t).callStaticObjectMethod cls method args) := by
  refine keeping_careful ?_
  split
  · refine keeping_get fun m _ => ?_
    split
    · exact keeping_pure
    · split
      · exact keeping_newLocal
      · exact keeping_throwing
  · exact keeping_pure

theorem keeping_encodeString {string charset : Ref} :
    Keeping Tidy (encodeString t string charset) := by
  refine keeping_get fun m _ => ?_
  refine keeping_get fun m _ => ?_
  split
  · exact keeping_newLocal
  · exact keeping_pure

theorem keeping_bounded {f : StateM Machine Ref} (hf : Keeping Tidy f) :
    Keeping Tidy (bounded t f) := by
  refine keeping_bind hf fun array => keeping_get fun m _ => ?_
  split
  · split
    · exact keeping_pure
    · exact keeping_throwing
  · exact keeping_pure

theorem keeping_callObjectMethod (object : Ref) (method : MethodId) (args : List Ref) :
    Keeping Tidy ((boundedNatives t).callObjectMethod object method args) := by
  refine keeping_bounded (keeping_careful ?_)
  split
  · exact keeping_encodeString
  · split
    · refine keeping_get fun m _ => ?_
      split
      · exact keeping_newLocal
      · exact keeping_pure
    · exact keeping_pure

theorem keeping_newObject (cls : Ref) (constructor : MethodId) (args : List Ref) :
    Keeping Tidy ((boundedNatives t).newObject cls constructor args) := by
  refine keeping_careful ?_
  split
  · refine keeping_get fun m _ => keeping_get fun m _ => keeping_get fun m _ => ?_
    split
    · exact keeping_newLocal
    · exact keeping_pure
  · exact keeping_pure

theorem keeping_getByteArrayRegion (array : Ref) (start len : Int32) :
    Keeping Tidy ((boundedNatives t).getByteArrayRegion array start len) := by
  refine keeping_careful (keeping_get fun m _ => ?_)
  split
  · exact keeping_pure
  · split
    · exact keeping_pure
    · exact keeping_throwing

theorem keeping_setByteArrayRegion (array : Ref) (start len : Int32) (bytes : List Int8) :
    Keeping Tidy ((boundedNatives t).setByteArrayRegion array start len bytes) := by
  refine keeping_careful (keeping_get fun m hm => ?_)
  split
  · split
    · exact keeping_set (m := { m with objects := _ }) hm
    · exact keeping_throwing
  · exact keeping_pure

theorem keeping_newGlobalRef (ref : Ref) : Keeping Tidy ((boundedNatives t).newGlobalRef ref) := by
  refine keeping_faulty (keeping_get fun m _ => ?_)
  split
  · exact keeping_newRef
  · exact keeping_pure

theorem keeping_deleteRef {owner : Option ThreadId} (ref : Ref) :
    Keeping Tidy (deleteRef owner ref) := by
  intro m hm
  cases ref with
  | none => exact hm
  | some handle =>
    show (ite _ _ _ : Machine).Tidy
    split
    · exact hm.erase handle
    · exact hm

/-- The functions are faithful where no handle has two entries. -/
theorem boundedNatives_faithful_tidy (stringClass : String) (t : ThreadId) :
    (boundedNatives t).Faithful (reading.during Tidy) simulatedCharsets stringClass t := by
  have h := boundedNatives_faithful stringClass t
  exact
    { provides := h.provides
      exceptionCheck :=
        h.exceptionCheck.during (keeping_plain (keeping_get fun _ _ => keeping_pure))
      findClass := fun name => (h.findClass name).during (keeping_findClass name)
      getMethodId := fun cls name signature =>
        (h.getMethodId cls name signature).during (keeping_getMethodId cls name signature)
      getStaticMethodId := fun cls name signature =>
        (h.getStaticMethodId cls name signature).during
          (keeping_getStaticMethodId cls name signature)
      newStringUtf := fun text => (h.newStringUtf text).during (keeping_careful keeping_newLocal)
      callStaticObjectMethod := fun cls method args =>
        (h.callStaticObjectMethod cls method args).during
          (keeping_callStaticObjectMethod cls method args)
      callObjectMethod := fun object method args =>
        (h.callObjectMethod object method args).during
          (keeping_callObjectMethod object method args)
      newObject := fun cls constructor args =>
        (h.newObject cls constructor args).during (keeping_newObject cls constructor args)
      newByteArray := fun len => (h.newByteArray len).during (keeping_careful keeping_newLocal)
      getArrayLength := fun array =>
        (h.getArrayLength array).during (keeping_faulty (keeping_get fun _ _ => keeping_pure))
      getByteArrayRegion := fun array start len =>
        (h.getByteArrayRegion array start len).during (keeping_getByteArrayRegion array start len)
      setByteArrayRegion := fun array start len bytes =>
        (h.setByteArrayRegion array start len bytes).during
          (keeping_setByteArrayRegion array start len bytes)
      newGlobalRef := fun ref m hm =>
        have ⟨hkeeps, hpost⟩ := h.newGlobalRef ref m hm.1
        ⟨hkeeps.during (keeping_newGlobalRef ref m hm.2), fun o ho hcopy =>
          (hpost o ho hcopy).imp_left Reading.pinned_during.mpr⟩
      deleteLocalRef := fun ref =>
        (h.deleteLocalRef ref).during (keeping_plain (keeping_deleteRef ref))
      getJavaVm := h.getJavaVm.during (keeping_faulty keeping_pure) }

section Reports

variable {f : StateM Machine α} {post : Machine → α → Machine → Prop} {name : String}
  {result : Int64 → α}

/-- The reference that is handed out is a new one, or leads nowhere. -/
abbrev HandedOut (t : ThreadId) (m : Machine) (ref : Ref) (_ : Machine) : Prop :=
  reading.referent m t ref = none

theorem adds_get {f : Machine → StateM Machine α} (h : ∀ m, reading.Adds t (f m) post) :
    reading.Adds t (get >>= f) post :=
  fun m hm => h m m hm

theorem adds_plain (h : reading.Adds t f post)
    (hpost : ∀ {m a m'}, post { m with called := name :: m.called } a m' → post m a m') :
    reading.Adds t (plain name f) post := by
  intro m hm
  obtain ⟨hkeeps, hdone⟩ := h { m with called := name :: m.called } hm
  exact ⟨keeps_after_called hkeeps, hpost hdone⟩

theorem adds_faulty (h : reading.Adds t f post)
    (hpost : ∀ {m a m'}, post { m with called := name :: m.called } a m' → post m a m') :
    reading.Adds t (faulty t name result f) post := by
  intro m hm
  rw [faulty_eq name result f hm.2.1]
  exact adds_plain h hpost m hm

/-- While an exception is pending a careful function comes back with a result for nothing. -/
theorem adds_careful (h : reading.Adds t f post)
    (hpost : ∀ {m a m'}, post { m with called := name :: m.called } a m' → post m a m')
    (hresult : ∀ m m', post m (result 0) m') : reading.Adds t (careful t name result f) post := by
  refine adds_get fun m => ?_
  split
  · exact fun m hm => ⟨keeps_called name hm, hresult _ _⟩
  · exact adds_faulty h hpost

theorem adds_newLocal {o : Object} : reading.Adds t (newLocal t o) (HandedOut t) := by
  intro m ⟨hattached, hfaults, hordered⟩
  rw [newLocal_eq hattached]
  exact ⟨(spares_extended t o hfaults hordered).keeps hattached, hordered.referent_nextHandle⟩

theorem adds_none : reading.Adds t (pure none) (HandedOut t) :=
  fun _ hm => ⟨(spares_rfl hm.2.1 hm.2.2).keeps hm.1, rfl⟩

/-- What is left of an array after the check of its length: the array, or an exception. -/
theorem adds_within_bound (array : Ref) : reading.Adds t (do
    match (← get).bytes? array with
    | some content =>
      if content.length ≤ Context.maxArrayLen then return array else throwing t outOfMemory none
    | none => return array) fun _ out _ => out = array ∨ out = none := by
  refine adds_get fun m => ?_
  split
  · split
    · exact fun m hm => ⟨(spares_rfl hm.2.1 hm.2.2).keeps hm.1, .inl rfl⟩
    · exact fun m hm => ⟨(throws_throwing _ _ m hm).1, .inr rfl⟩
  · exact fun m hm => ⟨(spares_rfl hm.2.1 hm.2.2).keeps hm.1, .inl rfl⟩

theorem adds_bounded {f : StateM Machine Ref} (h : reading.Adds t f (HandedOut t)) :
    reading.Adds t (bounded t f) (HandedOut t) := by
  intro m hm
  obtain ⟨hkeeps, hnew⟩ := h m hm
  obtain ⟨hkeeps', hout⟩ := adds_within_bound _ _ hkeeps.callable
  refine ⟨hkeeps.trans hkeeps', ?_⟩
  rcases hout with hout | hout
  · exact (congrArg (reading.referent m t) hout).trans hnew
  · exact congrArg (reading.referent m t) hout

theorem adds_describe : reading.Adds t (boundedNatives t).exceptionDescribe fun _ _ _ => True := by
  refine adds_plain (adds_get fun m => ?_) id
  split
  · intro m hm
    have h : Spares Reading.nothing _ _ := spares_threads {} hm.1 hm.2.1 hm.2.2
    exact ⟨Spares.keeps ⟨h.faults, h.ordered, h.classes, h.attached, h.refs⟩ hm.1, trivial⟩
  · exact fun m hm => ⟨(spares_rfl hm.2.1 hm.2.2).keeps hm.1, trivial⟩

theorem adds_clear : reading.Adds t (boundedNatives t).exceptionClear
    fun _ _ m' => reading.pending m' t = false := by
  refine adds_plain (fun m hm => ?_) id
  have hrun : (do if ((← get).pending? t).isSome then modify (·.setPending t none) :
      StateM Machine Unit) m = ((), if (m.pending? t).isSome then m.setPending t none else m) := by
    show (if (m.pending? t).isSome then _ else _ : StateM Machine Unit) m = _
    split <;> rfl
  rw [hrun]
  dsimp only
  split
  · refine ⟨(spares_threads ⟨none⟩ hm.1 hm.2.1 hm.2.2).keeps hm.1, ?_⟩
    show (((m.threads.set t ⟨none⟩).get? t).bind ThreadState.pending).isSome = false
    rw [Table.get?_set, if_pos rfl]
    rfl
  · next hquiet => exact ⟨(spares_rfl hm.2.1 hm.2.2).keeps hm.1, Bool.eq_false_iff.mpr hquiet⟩

theorem adds_callObjectMethod (object : Ref) (method : MethodId) (args : List Ref) :
    reading.Adds t ((boundedNatives t).callObjectMethod object method args) (HandedOut t) := by
  refine adds_bounded (adds_careful ?_ id fun _ _ => rfl)
  split
  · refine adds_get fun m => adds_get fun m => ?_
    split
    · exact adds_newLocal
    · exact adds_none
  · split
    · refine adds_get fun m => ?_
      split
      · exact adds_newLocal
      · exact adds_none
    · exact adds_none

theorem adds_getStringUtfChars (string : Ref) :
    reading.Adds t ((boundedNatives t).getStringUtfChars string) fun _ _ _ => True := by
  refine adds_careful (adds_get fun m => ?_) id fun _ _ => trivial
  split
  · intro m hm
    have h : Spares Reading.nothing _ _ := spares_rfl hm.2.1 hm.2.2
    exact ⟨Spares.keeps ⟨h.faults, h.ordered, h.classes, h.attached, h.refs⟩ hm.1, trivial⟩
  · exact fun m hm => ⟨(spares_rfl hm.2.1 hm.2.2).keeps hm.1, trivial⟩

/-- Exceptions are reported and cleared with no reference lost. -/
theorem boundedNatives_reports (t : ThreadId) :
    (boundedNatives t).Reports (reading.during Tidy) t where
  exceptionOccurred := by
    have h : reading.Adds t (boundedNatives t).exceptionOccurred (HandedOut t) := by
      refine adds_faulty (adds_get fun m => ?_) id
      split
      · exact adds_newLocal
      · exact adds_none
    refine h.during (keeping_faulty (keeping_get fun m _ => ?_))
    split
    · exact keeping_newLocal
    · exact keeping_pure
  exceptionDescribe := by
    refine Reading.Adds.during (keeping_plain (keeping_get fun m _ => ?_)) adds_describe
    split
    · exact keeping_modify fun _ => rfl
    · exact keeping_pure
  exceptionClear := by
    refine Reading.Adds.during (keeping_plain (keeping_get fun m _ => ?_)) adds_clear
    split
    · exact keeping_modify fun _ => rfl
    · exact keeping_pure
  getObjectClass _ := Reading.Adds.during (keeping_plain (keeping_get fun _ _ => keeping_newLocal))
    (adds_plain (adds_get fun _ => adds_newLocal) id)
  callObjectMethod object method args :=
    Reading.Adds.during (keeping_callObjectMethod object method args)
      (adds_callObjectMethod object method args)
  isAssignableFrom _ _ := Reading.Adds.during
    (keeping_faulty (keeping_get fun _ _ => keeping_pure))
    (adds_faulty (adds_get fun _ _ hm => ⟨(spares_rfl hm.2.1 hm.2.2).keeps hm.1, trivial⟩) id)
  getStringUtfChars string := by
    refine Reading.Adds.during (keeping_careful (keeping_get fun m _ => ?_))
      (adds_getStringUtfChars string)
    split
    · exact keeping_bind (keeping_modify fun _ => rfl) fun _ => keeping_pure
    · exact keeping_pure
  releaseStringUtfChars _ := by
    refine Reading.Adds.during (keeping_plain (keeping_modify fun _ => rfl))
      (adds_plain (fun m hm => ?_) id)
    have h : Spares Reading.nothing _ _ := spares_rfl hm.2.1 hm.2.2
    exact ⟨Spares.keeps ⟨h.faults, h.ordered, h.classes, h.attached, h.refs⟩ hm.1, trivial⟩

end Reports

/-- Whether a thread may be attached: no fault is armed, and references are in order. -/
structure Sound (m : Machine) : Prop where
  faults : m.faults = []
  ordered : m.Ordered
  tidy : m.Tidy

/-- Raises an exception on a thread. -/
def raise (t : ThreadId) (message : String) : StateM Machine Unit :=
  modify (·.throwOn t ⟨"java/lang/RuntimeException", some message⟩)

theorem raise_adds (t : ThreadId) (message : String) :
    (reading.during Tidy).Adds t (raise t message)
      fun _ _ m' => (reading.during Tidy).pending m' t = true := by
  refine Reading.Adds.during (keeping_modify fun m => refs_throwOn m t _) fun m hm => ?_
  exact ⟨(spares_throwOn _ hm.2.1 hm.2.2).keeps hm.1, pending_throwOn _ hm.1⟩

theorem environment_eq_some_iff {env : ThreadId} :
    reading.environment m t = some env ↔ m.isAttached t = true ∧ env = t := by
  show (if m.isAttached t then some t else none) = some env ↔ _
  split
  · next h => simp [h, eq_comm]
  · next h => simp [h]

theorem environment_eq_none_iff : reading.environment m t = none ↔ m.isAttached t = false := by
  show (if m.isAttached t then some t else none) = none ↔ _
  split
  · next h => simp [h]
  · next h => simp [h]

/-- A thread that is detached takes only its own references with it. -/
theorem endures_detach (htidy : m.Tidy) (t : ThreadId) :
    (reading.during Tidy).Endures m (m.detach t) where
  pinned {ref o} hpinned := by
    obtain ⟨handle, object, rfl, hr⟩ := hpinned.global
    have hr' : (m.detach t).refs.get? handle = some ⟨none, object⟩ := by
      refine (Table.get?_filter htidy _ handle).trans ?_
      rw [hr]
      rfl
    refine ⟨⟨handle, object, rfl, hr'⟩, fun u => ?_⟩
    obtain ⟨found, ho, hfound⟩ := (referent_eq_some_iff (t := u)).mp (hpinned.referent u)
    obtain ⟨_, r, ⟨rfl⟩, hget, hobject⟩ := object?_eq_some_iff.mp ho
    cases hr.symm.trans hget
    exact (referent_eq_some_iff (t := u)).mpr
      ⟨found, object?_eq_some_iff.mpr ⟨handle, _, rfl, hr', hobject⟩, hfound⟩
  method := id

theorem ordered_detach (hordered : m.Ordered) (htidy : m.Tidy) (t : ThreadId) :
    (m.detach t).Ordered := by
  intro handle r hr
  have hr' : (m.refs.get? handle).filter _ = some r :=
    (Table.get?_filter htidy _ handle).symm.trans hr
  exact hordered handle r (Option.filter_eq_some_iff.mp hr').1

theorem getEnv_eq (hfaults : m.faults = []) (t : ThreadId) :
    boundedInvocation.getEnv t m = (if m.isAttached t then (0, some t) else (detachedCode, none),
      { m with called := "GetEnv" :: m.called }) := by
  refine (faulty_eq "GetEnv" Fault.status _ hfaults).trans ?_
  show (if m.isAttached t then pure _ else pure _ : StateM Machine _) _ = _
  split <;> rfl

theorem attachCurrentThread_eq (hfaults : m.faults = []) (t : ThreadId) :
    boundedInvocation.attachCurrentThread t m =
      ((0, some t), ({ m with called := "AttachCurrentThread" :: m.called }).attach t) :=
  faulty_eq "AttachCurrentThread" Fault.status _ hfaults

/-- Attachments of the simulated machine are what scopes take them for. -/
theorem boundedInvocation_faithful (t : ThreadId) :
    boundedInvocation.Faithful (reading.during Tidy) Sound t where
  getEnv m env hm henv := by
    obtain ⟨hattached, rfl⟩ := environment_eq_some_iff.mp henv
    rw [getEnv_eq hm.1.2.1, if_pos hattached]
    exact ⟨rfl, (keeps_called _ hm.1).during hm.2, rfl⟩
  getEnvDetached m hsound hnone := by
    have hdetached : ¬ m.isAttached t = true :=
      Bool.eq_false_iff.mp (environment_eq_none_iff.mp hnone)
    rw [getEnv_eq hsound.faults, if_neg hdetached]
    exact ⟨(by decide : detachedCode ≠ 0), hnone, ⟨hsound.faults, hsound.ordered, hsound.tidy⟩,
      ⟨fun hpinned => ⟨hpinned.global, hpinned.referent⟩, id⟩⟩
  attachCurrentThread m hsound hnone _ := by
    have hdetached : ¬ m.isAttached t = true :=
      Bool.eq_false_iff.mp (environment_eq_none_iff.mp hnone)
    have hattach : ({ m with called := "AttachCurrentThread" :: m.called }).attach t =
        { m with
          called := "AttachCurrentThread" :: m.called
          threads := m.threads.set t {} } := if_neg hdetached
    rw [attachCurrentThread_eq hsound.faults, hattach]
    have hget : (m.threads.set t {}).get? t = some {} :=
      (Table.get?_set ..).trans (if_pos rfl)
    have hattached : (m.threads.set t {}).contains t = true := by
      rw [Table.contains, hget]
      rfl
    refine ⟨t, rfl, environment_eq_some_iff.mpr ⟨hattached, rfl⟩,
      ⟨⟨hattached, hsound.faults, hsound.ordered⟩, hsound.tidy⟩, ?_,
      ⟨fun hpinned => ⟨hpinned.global, hpinned.referent⟩, id⟩⟩
    show (((m.threads.set t {}).get? t).bind ThreadState.pending).isSome = false
    rw [hget]
    rfl
  detachCurrentThread m env hm henv := by
    refine ⟨environment_eq_none_iff.mpr ?_, ⟨hm.1.2.1, ordered_detach hm.1.2.2 hm.2 t,
      hm.2.filter _⟩, ?_⟩
    · show ((m.threads.erase t).get? t).isSome = false
      rw [Table.get?_erase, if_pos rfl]
      rfl
    · have h := endures_detach (m := { m with called := "DetachCurrentThread" :: m.called }) hm.2 t
      exact ⟨fun hpinned => h.pinned ⟨hpinned.global, hpinned.referent⟩, h.method⟩

/-- The simulated machine does what scripts need. -/
theorem boundedInvocation_dependable (stringClass : String) (t : ThreadId) :
    Dependable boundedInvocation (reading.during Tidy) simulatedCharsets Sound raise t
      stringClass where
  natives := boundedNatives_faithful_tidy stringClass
  reports := boundedNatives_reports
  invocation := boundedInvocation_faithful t
  raise := raise_adds
  encode cs hcs := by
    cases hcs
    rfl
  decode cs hcs := by
    cases hcs
    rfl

end Machine

end Jvm

end ManagedBridge
