import ManagedBridge.Jvm.Machine
import ManagedBridge.Proofs.Charset
import ManagedBridge.Proofs.Success

/-!
# The simulated machine is faithful

The functions of the simulated machine, as long as no fault is armed, do what they are for. Most of
them only add something: what references led to before, they lead to after it. The machine knows no
bound for what a string is encoded to, so it is given one here.
-/

namespace ManagedBridge

/-- A text has no unpaired surrogates, so nothing of it is lost. -/
theorem Text.Utf16.decodeLossy_encode (s : String) : decodeLossy (encode s) = s := by
  have h : parts (encodeChars s.toList) = s.toList.map some :=
    Utf16.parts_encodeChars s.toList
  rw [decodeLossy, encode, h, List.map_map]
  exact (congrArg String.ofList (List.map_id _)).trans String.ofList_toList

namespace Jvm

/-- What an object is to strings. -/
def Object.referent? : Object → Option (Referent Text.Charset)
  | .text _ units => some (.text units)
  | .bytes content => some (.bytes content.toList)
  | .classOf name => some (.classOf name)
  | .charset cs => some (.charset cs)
  | .throwable _ => none

/-- The charsets of the simulated machine. -/
def simulatedCharsets : Charsets Text.Charset :=
  ⟨Text.Charset.forName?, Text.Charset.decode, Text.Charset.encode⟩

namespace Machine

variable {α : Type} {m m' m'' : Machine} {t : ThreadId} {o : Object}
  {lost : Ref → Referent Text.Charset → Prop}

/-- Every reference is an old one and leads to an object. -/
def Ordered (m : Machine) : Prop :=
  ∀ handle r, m.refs.get? handle = some r → handle < m.nextHandle ∧ r.object < m.objects.length

theorem ordered_of_entries (h : ∀ entry ∈ m.refs.entries,
    entry.1 < m.nextHandle ∧ entry.2.object < m.objects.length) : m.Ordered :=
  fun _ _ hr => h _ (Table.mem_entries_of_get? hr)

/-- How the state of the simulated machine is read. -/
def reading : Reading Machine ThreadId Text.Charset where
  callable m t := m.isAttached t = true ∧ m.faults = [] ∧ m.Ordered
  environment m t := if m.isAttached t then some t else none
  pending m t := (m.pending? t).isSome
  referent m _ ref := (m.object? ref).bind Object.referent?
  global m ref := ∃ handle object, ref = some handle ∧ m.refs.get? handle = some ⟨none, object⟩
  method m id key := m.method? key.className key.name key.signature = some id ∨
    staticMethod? key.className key.name key.signature = some id

theorem object?_eq_some_iff {ref : Ref} :
    m.object? ref = some o ↔
      ∃ handle r, ref = some handle ∧ m.refs.get? handle = some r ∧
        m.objects[r.object]? = some o := by
  cases ref with
  | none => simp [object?]
  | some handle =>
    simp only [object?, Option.bind_eq_bind, Option.bind_some, Option.bind_eq_some_iff,
      Option.some.injEq]
    exact ⟨fun ⟨r, hr, ho⟩ => ⟨_, r, rfl, hr, ho⟩, fun ⟨_, r, hh, hr, ho⟩ => hh ▸ ⟨r, hr, ho⟩⟩

theorem referent_eq_some_iff {ref : Ref} {referent : Referent Text.Charset} :
    reading.referent m t ref = some referent ↔
      ∃ o, m.object? ref = some o ∧ o.referent? = some referent :=
  Option.bind_eq_some_iff

theorem Ordered.fresh (h : m.Ordered) : m.refs.get? m.nextHandle = none := by
  cases hr : m.refs.get? m.nextHandle with
  | none => rfl
  | some r => exact absurd (h _ r hr).1 (Nat.lt_irrefl _)

/-- A handle that is not given out yet leads nowhere. -/
theorem Ordered.referent_nextHandle (h : m.Ordered) :
    reading.referent m t (some m.nextHandle) = none := by
  show (m.object? (some m.nextHandle)).bind _ = none
  rw [object?, Option.bind_eq_bind, Option.bind_some, h.fresh]
  rfl

/-- No fault is armed, and what references led to in `m` they lead to in `m'`, but for those that
are `lost`. -/
structure Spares (lost : Ref → Referent Text.Charset → Prop) (m m' : Machine) : Prop where
  faults : m'.faults = []
  ordered : m'.Ordered
  classes : m'.classes = m.classes
  attached : ∀ u, m'.isAttached u = m.isAttached u
  refs : ∀ handle r o referent, m.refs.get? handle = some r → m.objects[r.object]? = some o →
    o.referent? = some referent → ¬ lost (some handle) referent →
    m'.refs.get? handle = some r ∧ m'.objects[r.object]? = some o

theorem Spares.trans (h : Spares lost m m') (h' : Spares Reading.nothing m' m'') :
    Spares lost m m'' where
  faults := h'.faults
  ordered := h'.ordered
  classes := h'.classes.trans h.classes
  attached u := (h'.attached u).trans (h.attached u)
  refs handle r o referent hr ho href hlost :=
    have ⟨hr', ho'⟩ := h.refs handle r o referent hr ho href hlost
    h'.refs handle r o referent hr' ho' href id

theorem method?_congr (h : m'.classes = m.classes) (className name signature : String) :
    m'.method? className name signature = m.method? className name signature := by
  unfold method? class?
  rw [h]

theorem Spares.referent (h : Spares lost m m') {ref : Ref} {referent : Referent Text.Charset}
    (href : reading.referent m t ref = some referent) (hlost : ¬ lost ref referent) :
    reading.referent m' t ref = some referent := by
  obtain ⟨o, ho, hreferent⟩ := referent_eq_some_iff.mp href
  obtain ⟨handle, r, rfl, hr, hobject⟩ := object?_eq_some_iff.mp ho
  obtain ⟨hr', hobject'⟩ := h.refs handle r o referent hr hobject hreferent hlost
  exact referent_eq_some_iff.mpr ⟨o, object?_eq_some_iff.mpr ⟨handle, r, rfl, hr', hobject'⟩,
    hreferent⟩

theorem Spares.pinned (h : Spares lost m m') {ref : Ref} {referent : Referent Text.Charset}
    (hpinned : reading.Pinned m ref referent) (hlost : ¬ lost ref referent) :
    reading.Pinned m' ref referent where
  global := by
    obtain ⟨handle, object, rfl, hr⟩ := hpinned.global
    obtain ⟨o, ho, hreferent⟩ := referent_eq_some_iff.mp (hpinned.referent (.worker 0))
    obtain ⟨_, r, ⟨rfl⟩, hr', hobject⟩ := object?_eq_some_iff.mp ho
    obtain rfl := Option.some.inj (hr.symm.trans hr')
    exact ⟨handle, object, rfl, (h.refs handle _ o referent hr hobject hreferent hlost).1⟩
  referent u := h.referent (hpinned.referent u) hlost

theorem Spares.keeps (h : Spares lost m m') (hattached : m.isAttached t = true) :
    reading.Keeps t lost m m' where
  callable := ⟨(h.attached t).trans hattached, h.faults, h.ordered⟩
  environment := by
    funext u
    show (if m'.isAttached u then _ else _) = if m.isAttached u then _ else _
    rw [h.attached]
  referent := h.referent
  pinned := h.pinned
  method hmethod := hmethod.imp_left (method?_congr h.classes _ _ _).trans

/-- The machine with a new reference. -/
def referred (m : Machine) (owner : Option ThreadId) (object : Nat) : Machine :=
  { m with refs := m.refs.set m.nextHandle ⟨owner, object⟩, nextHandle := m.nextHandle + 1 }

/-- The machine with a new object and a reference to it. -/
def extended (m : Machine) (t : ThreadId) (o : Object) : Machine :=
  { m with objects := m.objects ++ [o] }.referred (some t) m.objects.length

theorem spares_rfl (hfaults : m.faults = []) (hordered : m.Ordered) : Spares lost m m :=
  ⟨hfaults, hordered, rfl, fun _ => rfl, fun _ _ _ _ hr ho _ _ => ⟨hr, ho⟩⟩

theorem spares_referred (owner : Option ThreadId) {object : Nat} (hfaults : m.faults = [])
    (hordered : m.Ordered) (hobject : object < m.objects.length) :
    Spares lost m (m.referred owner object) where
  faults := hfaults
  ordered := by
    intro handle r hr
    have hr' : (m.refs.set m.nextHandle ⟨owner, object⟩).get? handle = some r := hr
    rw [Table.get?_set] at hr'
    split at hr'
    · next heq =>
      cases hr'
      exact ⟨heq ▸ Nat.lt_succ_self _, hobject⟩
    · exact ⟨Nat.lt_succ_of_lt (hordered handle r hr').1, (hordered handle r hr').2⟩
  classes := rfl
  attached _ := rfl
  refs handle r o referent hr ho _ _ := by
    refine ⟨?_, ho⟩
    show (m.refs.set m.nextHandle ⟨owner, object⟩).get? handle = some r
    rw [Table.get?_set, if_neg, hr]
    rintro rfl
    rw [hordered.fresh] at hr
    cases hr

theorem spares_objects (o : Object) (hfaults : m.faults = []) (hordered : m.Ordered) :
    Spares lost m { m with objects := m.objects ++ [o] } where
  faults := hfaults
  ordered handle r hr := by
    have h := hordered handle r hr
    exact ⟨h.1, by simp only [List.length_append]; omega⟩
  classes := rfl
  attached _ := rfl
  refs handle r o' referent hr ho _ _ := by
    refine ⟨hr, ?_⟩
    show (m.objects ++ [o])[r.object]? = some o'
    rw [List.getElem?_append_left (hordered handle r hr).2, ho]

theorem spares_extended (t : ThreadId) (o : Object) (hfaults : m.faults = [])
    (hordered : m.Ordered) : Spares lost m (m.extended t o) := by
  have h : Spares lost m { m with objects := m.objects ++ [o] } :=
    spares_objects o hfaults hordered
  exact h.trans (spares_referred (some t) h.faults h.ordered (by simp))

theorem referent_extended {referent : Referent Text.Charset} (href : o.referent? = some referent) :
    reading.referent (m.extended t o) t (some m.nextHandle) = some referent := by
  refine referent_eq_some_iff.mpr ⟨o, object?_eq_some_iff.mpr
    ⟨_, ⟨some t, m.objects.length⟩, rfl, ?_, ?_⟩, href⟩
  · exact (Table.get?_set ..).trans (if_pos rfl)
  · show (m.objects ++ [o])[m.objects.length]? = some o
    simp

/-- A thread that is attached may come to have an exception pending, or none. -/
theorem spares_threads (state : ThreadState) (hattached : m.isAttached t = true)
    (hfaults : m.faults = []) (hordered : m.Ordered) :
    Spares lost m { m with threads := m.threads.set t state } := by
  refine ⟨hfaults, hordered, rfl, fun u => ?_, fun _ _ _ _ hr ho _ _ => ⟨hr, ho⟩⟩
  show ((m.threads.set t state).get? u).isSome = (m.threads.get? u).isSome
  rw [Table.get?_set]
  split
  · next heq => exact heq ▸ hattached.symm
  · rfl

theorem spares_throwOn (e : Throwable) (hfaults : m.faults = []) (hordered : m.Ordered) :
    Spares lost m (m.throwOn t e) := by
  unfold throwOn
  split
  · next hattached => exact spares_threads ⟨some e⟩ hattached hfaults hordered
  · exact spares_rfl hfaults hordered

theorem pending_throwOn (e : Throwable) (hattached : m.isAttached t = true) :
    reading.pending (m.throwOn t e) t = true := by
  rw [throwOn, if_pos hattached]
  show (((m.threads.set t ⟨some e⟩).get? t).bind ThreadState.pending).isSome = true
  rw [Table.get?_set, if_pos rfl]
  rfl

theorem newLocal_eq (hattached : m.isAttached t = true) (o : Object) :
    newLocal t o m = (some m.nextHandle, m.extended t o) := by
  show (if m.isAttached t then _ else _ : StateM Machine Ref) m = _
  rw [if_pos hattached]
  rfl

theorem faulty_eq (name : String) (result : Int64 → α) (usual : StateM Machine α)
    (hfaults : m.faults = []) :
    faulty t name result usual m = usual { m with called := name :: m.called } := by
  obtain ⟨classes, threads, objects, refs, nextHandle, faults, called, described, lent⟩ := m
  obtain rfl : faults = [] := hfaults
  rfl

/-- To note a call is to do nothing else. -/
theorem keeps_called (name : String) (hm : reading.callable m t) :
    reading.Keeps t lost m { m with called := name :: m.called } :=
  Spares.keeps ⟨hm.2.1, hm.2.2, rfl, fun _ => rfl, fun _ _ _ _ hr ho _ _ => ⟨hr, ho⟩⟩ hm.1

theorem keeps_after_called {name : String}
    (h : reading.Keeps t lost { m with called := name :: m.called } m') :
    reading.Keeps t lost m m' where
  callable := h.callable
  environment := h.environment
  referent := h.referent
  pinned hpinned := h.pinned ⟨hpinned.global, hpinned.referent⟩
  method := h.method

/-- While an exception is pending a careful function changes nothing, and a call that leaves the
exception pending promises nothing. -/
theorem throws_careful {name : String} {result : Int64 → α} {usual : StateM Machine α}
    {post : Machine → α → Machine → Prop}
    (h : reading.Throws t lost usual post)
    (hpost : ∀ {m a m'}, post { m with called := name :: m.called } a m' → post m a m') :
    reading.Throws t lost (careful t name result usual) post := by
  intro m hm
  have hrun : careful t name result usual m = if (m.pending? t).isSome then
      (result 0, { m with called := name :: m.called })
    else faulty t name result usual m := by
    show (if (m.pending? t).isSome then _ else _ : StateM Machine α) m = _
    split <;> rfl
  rw [hrun]
  split
  · next hpending =>
    refine ⟨keeps_called name hm, fun hnone => ?_⟩
    have : (m.pending? t).isSome = false := hnone
    rw [hpending] at this
    cases this
  · rw [faulty_eq name result usual hm.2.1]
    obtain ⟨hkeeps, hdone⟩ := h { m with called := name :: m.called } hm
    exact ⟨keeps_after_called hkeeps, fun hnone => hpost (hdone hnone)⟩

/-- A new object for a thread, with a new reference. -/
theorem throws_newLocal {referent : Referent Text.Charset} (href : o.referent? = some referent) :
    reading.Throws t lost (newLocal t o) fun m result m' => ∃ handle, result = some handle ∧
      reading.referent m' t (some handle) = some referent ∧
      reading.referent m t (some handle) = none := by
  intro m ⟨hattached, hfaults, hordered⟩
  rw [newLocal_eq hattached]
  exact ⟨(spares_extended t o hfaults hordered).keeps hattached, fun _ =>
    ⟨m.nextHandle, rfl, referent_extended href, hordered.referent_nextHandle⟩⟩

theorem throws_throwing (e : Throwable) (result : α) :
    reading.Throws t lost (throwing t e result) fun _ _ _ => False := by
  intro m ⟨hattached, hfaults, hordered⟩
  refine ⟨(spares_throwOn e hfaults hordered).keeps hattached, fun hnone => ?_⟩
  have : reading.pending (m.throwOn t e) t = false := hnone
  rw [pending_throwOn e hattached] at this
  cases this

theorem throws_pure (a : α) :
    reading.Throws t lost (pure a) fun m result m' => result = a ∧ m' = m :=
  fun _ hm => ⟨(spares_rfl hm.2.1 hm.2.2).keeps hm.1, fun _ => ⟨rfl, rfl⟩⟩

/-- What a function does may depend on the state that it finds. -/
theorem throws_of_run {f : StateM Machine α} {post : Machine → α → Machine → Prop}
    (h : ∀ m, reading.callable m t → ∃ g post', f m = g m ∧ reading.Throws t lost g post' ∧
      ∀ a m', post' m a m' → post m a m') :
    reading.Throws t lost f post := by
  intro m hm
  obtain ⟨g, post', hrun, hthrows, himp⟩ := h m hm
  rw [hrun]
  exact (hthrows m hm).imp_right fun hdone hnone => himp _ _ (hdone hnone)

theorem throws_get {f : Machine → StateM Machine α} {post : Machine → α → Machine → Prop}
    (h : ∀ m, reading.callable m t → ∃ g post', f m = g ∧ reading.Throws t lost g post' ∧
      ∀ a m', post' m a m' → post m a m') :
    reading.Throws t lost (get >>= f) post :=
  throws_of_run fun m hm =>
    have ⟨g, post', hrun, hthrows, himp⟩ := h m hm
    ⟨g, post', congrFun hrun m, hthrows, himp⟩

theorem throws_mono {f : StateM Machine α} {post post' : Machine → α → Machine → Prop}
    (h : reading.Throws t lost f post') (himp : ∀ m a m', post' m a m' → post m a m') :
    reading.Throws t lost f post :=
  throws_of_run fun m _ => ⟨f, post', rfl, h, himp m⟩

/-- A function that notes its call and then does what it usually does. -/
theorem silent_called {name : String} {f usual : StateM Machine α}
    {post : Machine → α → Machine → Prop}
    (hrun : ∀ m, m.faults = [] → f m = usual { m with called := name :: m.called })
    (h : reading.Silent t lost usual post)
    (hpost : ∀ {m a m'}, post { m with called := name :: m.called } a m' → post m a m') :
    reading.Silent t lost f post := by
  intro m hm
  rw [hrun m hm.2.1]
  obtain ⟨hkeeps, hpending, hdone⟩ := h { m with called := name :: m.called } hm
  exact ⟨keeps_after_called hkeeps, hpending, hpost hdone⟩

theorem silent_faulty {name : String} {result : Int64 → α} {usual : StateM Machine α}
    {post : Machine → α → Machine → Prop} (h : reading.Silent t lost usual post)
    (hpost : ∀ {m a m'}, post { m with called := name :: m.called } a m' → post m a m') :
    reading.Silent t lost (faulty t name result usual) post :=
  silent_called (fun _ => faulty_eq name result usual) h hpost

theorem silent_plain {name : String} {usual : StateM Machine α}
    {post : Machine → α → Machine → Prop} (h : reading.Silent t lost usual post)
    (hpost : ∀ {m a m'}, post { m with called := name :: m.called } a m' → post m a m') :
    reading.Silent t lost (plain name usual) post :=
  silent_called (fun _ _ => rfl) h hpost

theorem object?_of_text {ref : Ref} {units : List UInt16}
    (h : reading.referent m t ref = some (.text units)) :
    ∃ className, m.object? ref = some (.text className units) := by
  obtain ⟨o, ho, href⟩ := referent_eq_some_iff.mp h
  cases o <;> cases href
  exact ⟨_, ho⟩

theorem object?_of_bytes {ref : Ref} {content : List Int8}
    (h : reading.referent m t ref = some (.bytes content)) :
    ∃ array, m.object? ref = some (.bytes array) ∧ array.toList = content := by
  obtain ⟨o, ho, href⟩ := referent_eq_some_iff.mp h
  cases o <;> cases href
  exact ⟨_, ho, rfl⟩

theorem object?_of_classOf {ref : Ref} {name : String}
    (h : reading.referent m t ref = some (.classOf name)) :
    m.object? ref = some (.classOf name) := by
  obtain ⟨o, ho, href⟩ := referent_eq_some_iff.mp h
  cases o <;> cases href
  exact ho

theorem object?_of_charset {ref : Ref} {cs : Text.Charset}
    (h : reading.referent m t ref = some (.charset cs)) :
    m.object? ref = some (.charset cs) := by
  obtain ⟨o, ho, href⟩ := referent_eq_some_iff.mp h
  cases o <;> cases href
  exact ho

theorem findClass_throws (name : String) :
    reading.Throws t Reading.nothing ((natives [] t).findClass name) fun m cls m' =>
      reading.Leads t (.classOf name) cls m' ∧ (cls.isSome → reading.referent m t cls = none) := by
  refine throws_careful (throws_get fun m _ => ?_) id
  cases hclass : (m.class? name).isSome with
  | false => exact ⟨_, _, rfl, throws_throwing _ _, fun _ _ => False.elim⟩
  | true =>
    refine ⟨newLocal t (.classOf name), _, rfl, throws_newLocal rfl, ?_⟩
    rintro _ m' ⟨handle, rfl, hleads, hfresh⟩
    exact ⟨fun _ heq => heq ▸ hleads, fun _ => hfresh⟩

/-- A method that is looked up is found, or the lookup throws. -/
theorem throws_orNoSuchMethod (name : String) (found : Option MethodId) :
    reading.Throws t lost (orNoSuchMethod t name found) fun m id m' => id = found ∧ m' = m := by
  cases found with
  | none => exact throws_mono (throws_throwing _ _) fun _ _ _ => False.elim
  | some method => exact throws_pure _

/-- A lookup in the class that a reference leads to. -/
theorem lookup_throws {entry name signature : String} {cls : Ref}
    (find : Machine → String → Option MethodId)
    (hfind : ∀ m c method, find m c = some method → reading.method m method ⟨c, name, signature⟩) :
    reading.Throws t Reading.nothing (careful t entry Fault.pointer do
        let m ← get
        orNoSuchMethod t name ((m.classNameOf? cls).bind (find m)))
      fun m id m' => ∀ c method, reading.referent m t cls = some (.classOf c) →
        id = some method → reading.method m' method ⟨c, name, signature⟩ := by
  refine throws_careful (throws_get fun m _ => ⟨_, _, rfl, throws_orNoSuchMethod _ _, ?_⟩) id
  rintro _ _ ⟨rfl, rfl⟩ c method hcls hfound
  rw [classNameOf?, object?_of_classOf hcls] at hfound
  exact hfind _ c method hfound

theorem getMethodId_throws (cls : Ref) (name signature : String) :
    reading.Throws t Reading.nothing ((natives [] t).getMethodId cls name signature)
      fun m id m' => ∀ c method, reading.referent m t cls = some (.classOf c) →
        id = some method → reading.method m' method ⟨c, name, signature⟩ :=
  lookup_throws (fun m c => m.method? c name signature) fun _ _ _ => .inl

theorem getStaticMethodId_throws (cls : Ref) (name signature : String) :
    reading.Throws t Reading.nothing ((natives [] t).getStaticMethodId cls name signature)
      fun m id m' => ∀ c method, reading.referent m t cls = some (.classOf c) →
        id = some method → reading.method m' method ⟨c, name, signature⟩ :=
  lookup_throws (fun _ c => staticMethod? c name signature) fun _ _ _ => .inr

theorem method_forName {className : String} {method : MethodId}
    (h : reading.method m method ⟨className, "forName", forNameSignature⟩) :
    method = forNameId := by
  rcases h with h | h
  · simp [method?] at h
  · simp only [staticMethod?] at h
    split at h
    · exact (Option.some.inj h).symm
    · cases h

theorem method_getBytes {className : String} {method : MethodId}
    (h : reading.method m method ⟨className, "getBytes", getBytesSignature⟩) :
    method = getBytesId := by
  rcases h with h | h
  · simp [method?] at h
    exact h.2.symm
  · simp [staticMethod?] at h

theorem newStringUtf_throws (text : String) :
    reading.Throws t Reading.nothing ((natives [] t).newStringUtf text) fun m string m' =>
      reading.Leads t (.text (Text.Utf16.encode text)) string m' ∧
        (string.isSome → reading.referent m t string = none) := by
  refine throws_careful (throws_mono (throws_newLocal rfl) ?_) id
  rintro _ _ m' ⟨handle, rfl, hleads, hfresh⟩
  exact ⟨fun _ heq => heq ▸ hleads, fun _ => hfresh⟩

/-- The charset of a name. -/
theorem throws_charsetNamed (name : Ref) :
    reading.Throws t Reading.nothing (charsetNamed t name) fun m charset m' => ∀ text,
      reading.referent m t name = some (.text (Text.Utf16.encode text)) → charset.isSome →
        ∃ cs, simulatedCharsets.named text = some cs ∧
          reading.Leads t (.charset cs) charset m' := by
  refine throws_get fun m _ => ?_
  cases htext : m.text? name with
  | none =>
    refine ⟨_, _, rfl, throws_pure none, ?_⟩
    rintro _ _ ⟨rfl, -⟩ _ _ ⟨⟩
  | some text =>
    cases hcs : Text.Charset.forName? text with
    | none => exact ⟨_, _, by dsimp only; rw [hcs], throws_throwing _ _,
      fun _ _ => False.elim⟩
    | some cs =>
      refine ⟨newLocal t (.charset cs), _, by dsimp only; rw [hcs], throws_newLocal rfl, ?_⟩
      rintro _ m' ⟨handle, rfl, hleads, -⟩ text' href -
      obtain ⟨className, ho⟩ := object?_of_text href
      rw [text?, ho] at htext
      obtain rfl : text' = text := by
        rw [← Text.Utf16.decodeLossy_encode text']
        exact Option.some.inj htext
      exact ⟨cs, hcs, fun _ heq => heq ▸ hleads⟩

theorem callStaticObjectMethod_throws (cls : Ref) (method : MethodId) (args : List Ref) :
    reading.Throws t Reading.nothing ((natives [] t).callStaticObjectMethod cls method args)
      fun m charset m' => ∀ name text, args = [name] →
        reading.method m method ⟨charsetClassName, "forName", forNameSignature⟩ →
        reading.referent m t name = some (.text (Text.Utf16.encode text)) → charset.isSome →
        ∃ cs, simulatedCharsets.named text = some cs ∧
          reading.Leads t (.charset cs) charset m' := by
  refine throws_careful ?_ id
  split
  · refine throws_mono (throws_charsetNamed _) ?_
    rintro m charset m' hdone name text rfl - href
    exact hdone text href
  · next hne =>
    exact throws_mono (throws_pure none) fun _ _ _ _ _ _ _ hmethod =>
      absurd (method_forName hmethod) hne

theorem encodeString_run (string charset : Ref) :
    encodeString t string charset m = (match m.object? string, m.object? charset with
      | some (.text _ units), some (.charset cs) =>
        newLocal t (.bytes (.ofList ((cs.encode units).map UInt8.toInt8)))
      | _, _ => pure none : StateM Machine Ref) m :=
  rfl

/-- The bytes of a string in a charset. -/
theorem throws_encodeString (string charset : Ref) :
    reading.Throws t Reading.nothing (encodeString t string charset) fun m array m' =>
      ∀ units cs, reading.referent m t string = some (.text units) →
        reading.referent m t charset = some (.charset cs) → ∃ handle, array = some handle ∧
          reading.referent m' t (some handle) =
            some (.bytes ((simulatedCharsets.encode cs units).map UInt8.toInt8)) := by
  refine throws_of_run fun m _ => ?_
  by_cases h : ∃ className units cs, m.object? string = some (.text className units) ∧
      m.object? charset = some (.charset cs)
  · obtain ⟨className, units, cs, hstring, hcharset⟩ := h
    refine ⟨newLocal t (.bytes (.ofList ((cs.encode units).map UInt8.toInt8))), _, ?_,
      throws_newLocal (congrArg (some <| Referent.bytes ·) (ZeroFilled.toList_ofList _)), ?_⟩
    · rw [encodeString_run, hstring, hcharset]
    · rintro _ m' ⟨handle, rfl, hleads, -⟩ units' cs' hunits hcs
      obtain ⟨_, ho⟩ := object?_of_text hunits
      cases hstring.symm.trans ho
      cases hcharset.symm.trans (object?_of_charset hcs)
      exact ⟨handle, rfl, hleads⟩
  · refine ⟨pure none, _, ?_, throws_pure none, ?_⟩
    · rw [encodeString_run]
      refine congrFun ?_ m
      split
      · next hstring hcharset => exact absurd ⟨_, _, _, hstring, hcharset⟩ h
      · rfl
    · intro _ _ _ units cs hunits hcs
      obtain ⟨_, ho⟩ := object?_of_text hunits
      exact absurd ⟨_, _, _, ho, object?_of_charset hcs⟩ h

theorem decodeString_run (cls array charset : Ref) :
    decodeString t cls array charset m =
      (match m.object? cls, m.object? array, m.object? charset with
      | some (.classOf name), some (.bytes content), some (.charset cs) =>
        newLocal t (.text name (cs.decode (content.toList.map Int8.toUInt8)))
      | _, _, _ => pure none : StateM Machine Ref) m :=
  rfl

/-- A string of a class, built from an array and a charset. -/
theorem throws_decodeString (cls array charset : Ref) :
    reading.Throws t Reading.nothing (decodeString t cls array charset) fun m string m' =>
      ∀ name content cs, reading.referent m t cls = some (.classOf name) →
        reading.referent m t array = some (.bytes content) →
        reading.referent m t charset = some (.charset cs) →
        reading.Leads t (.text (simulatedCharsets.decode cs (content.map Int8.toUInt8)))
          string m' := by
  refine throws_of_run fun m _ => ?_
  by_cases h : ∃ name content cs, m.object? cls = some (.classOf name) ∧
      m.object? array = some (.bytes content) ∧ m.object? charset = some (.charset cs)
  · obtain ⟨name, content, cs, hcls, harray, hcharset⟩ := h
    refine ⟨newLocal t (.text name (cs.decode (content.toList.map Int8.toUInt8))), _, ?_,
      throws_newLocal rfl, ?_⟩
    · rw [decodeString_run, hcls, harray, hcharset]
    · rintro _ m' ⟨handle, rfl, hleads, -⟩ name' content' cs' - hcontent hcs
      obtain ⟨_, ho, rfl⟩ := object?_of_bytes hcontent
      cases harray.symm.trans ho
      cases hcharset.symm.trans (object?_of_charset hcs)
      exact fun _ heq => heq ▸ hleads
  · refine ⟨pure none, _, ?_, throws_pure none, ?_⟩
    · rw [decodeString_run]
      refine congrFun ?_ m
      split
      · next hcls harray hcharset => exact absurd ⟨_, _, _, hcls, harray, hcharset⟩ h
      · rfl
    · intro _ _ _ name content cs hname hcontent hcs
      obtain ⟨_, ho, -⟩ := object?_of_bytes hcontent
      exact absurd ⟨_, _, _, object?_of_classOf hname, ho, object?_of_charset hcs⟩ h

theorem newObject_throws (cls : Ref) (constructor : MethodId) (args : List Ref) :
    reading.Throws t Reading.nothing ((natives [] t).newObject cls constructor args)
      fun m string m' => ∀ array content charset cs name, args = [array, charset] →
        reading.referent m t cls = some (.classOf name) →
        reading.referent m t array = some (.bytes content) →
        reading.referent m t charset = some (.charset cs) →
        reading.Leads t (.text (simulatedCharsets.decode cs (content.map Int8.toUInt8)))
          string m' := by
  refine throws_careful ?_ id
  split
  · refine throws_mono (throws_decodeString _ _ _) ?_
    rintro m string m' hdone array content charset cs name ⟨⟩
    exact hdone name content cs
  · next hnot =>
    exact throws_mono (throws_pure none) fun _ _ _ _ array _ charset _ _ hargs =>
      (hnot array charset hargs).elim

theorem newByteArray_throws (len : Int32) :
    reading.Throws t Reading.nothing ((natives [] t).newByteArray len) fun _ array m' =>
      0 ≤ len.toInt → reading.Leads t (.bytes (List.replicate len.toInt.toNat 0)) array m' := by
  refine throws_careful (throws_mono
    (throws_newLocal (congrArg (some <| Referent.bytes ·) (ZeroFilled.toList_zeros _))) ?_) id
  rintro _ _ m' ⟨handle, rfl, hleads, -⟩ -
  exact fun _ heq => heq ▸ hleads

theorem getArrayLength_silent (array : Ref) :
    reading.Silent t Reading.nothing ((natives [] t).getArrayLength array) fun m len _ =>
      ∀ content, reading.referent m t array = some (.bytes content) →
        content.length ≤ Context.maxArrayLen → len.toInt = content.length := by
  refine silent_faulty (fun m hm => ⟨(spares_rfl hm.2.1 hm.2.2).keeps hm.1, rfl, ?_⟩) id
  intro content href hfits
  obtain ⟨_, ho, rfl⟩ := object?_of_bytes href
  show (Int32.ofNat ((m.bytes? array).getD (.zeros 0)).length).toInt = _
  rw [bytes?, ho, Option.getD_some, ZeroFilled.length_toList]
  rw [ZeroFilled.length_toList] at hfits
  exact Int32.toInt_ofNat_of_lt (Nat.lt_of_le_of_lt hfits (by decide))

theorem region?_eq {content : ZeroFilled Int8} {start len : Int32} {s n : Nat}
    (h : region? content start len = some (s, n)) :
    s = start.toInt.toNat ∧ n = len.toInt.toNat ∧ s + n ≤ content.length := by
  simp only [region?] at h
  split at h
  · cases h
    exact ⟨rfl, rfl, by omega⟩
  · cases h

theorem bytes?_of_bytes {array : Ref} {content : List Int8}
    (h : reading.referent m t array = some (.bytes content)) :
    ∃ filled, m.bytes? array = some filled ∧ filled.toList = content := by
  obtain ⟨filled, ho, rfl⟩ := object?_of_bytes h
  exact ⟨filled, by rw [bytes?, ho], rfl⟩

theorem getByteArrayRegion_throws (array : Ref) (start len : Int32) :
    reading.Throws t Reading.nothing ((natives [] t).getByteArrayRegion array start len)
      fun m bytes _ => ∀ content, reading.referent m t array = some (.bytes content) →
        0 ≤ start.toInt → 0 ≤ len.toInt →
        bytes = (content.drop start.toInt.toNat).take len.toInt.toNat := by
  refine throws_careful (throws_get fun m _ => ?_) id
  cases hbytes : m.bytes? array with
  | none =>
    refine ⟨_, _, rfl, throws_pure [], ?_⟩
    intro _ _ _ content href
    obtain ⟨_, ho, -⟩ := bytes?_of_bytes href
    cases hbytes.symm.trans ho
  | some filled =>
    cases hregion : region? filled start len with
    | none =>
      exact ⟨_, _, by dsimp only; rw [hregion], throws_throwing _ _, fun _ _ => False.elim⟩
    | some region =>
      refine ⟨_, _, by dsimp only; rw [hregion], throws_pure _, ?_⟩
      rintro _ _ ⟨rfl, -⟩ _ href - -
      obtain ⟨_, ho, rfl⟩ := bytes?_of_bytes href
      cases hbytes.symm.trans ho
      obtain ⟨hstart, hlen, -⟩ := region?_eq hregion
      rw [← hstart, ← hlen]
      exact ZeroFilled.slice_eq _ _ _

/-- To write into an array is to touch nothing but arrays. -/
theorem spares_write (hfaults : m.faults = []) (hordered : m.Ordered) {object : Nat}
    {before after : ZeroFilled Int8} (hbefore : m.objects[object]? = some (.bytes before)) :
    Spares Reading.arrays m { m with objects := m.objects.set object (.bytes after) } where
  faults := hfaults
  ordered handle r hr := by
    have h := hordered handle r hr
    exact ⟨h.1, by rw [List.length_set]; exact h.2⟩
  classes := rfl
  attached _ := rfl
  refs handle r o referent hr ho href hlost := by
    refine ⟨hr, ?_⟩
    show (m.objects.set object (.bytes after))[r.object]? = some o
    rw [List.getElem?_set_ne, ho]
    rintro rfl
    cases hbefore.symm.trans ho
    cases href
    exact hlost ⟨_, rfl⟩

theorem writeRegion_run (array : Ref) (start len : Int32) (bytes : List Int8) :
    writeRegion t array start len bytes m = (match m.bytes? array, array.bind m.refs.get? with
      | some content, some r =>
        match region? content start len with
        | some (s, n) =>
          set { m with objects := m.objects.set r.object (.bytes (content.write s (bytes.take n))) }
        | none => throwing t outOfRange ()
      | _, _ => pure () : StateM Machine Unit) m :=
  rfl

theorem throws_writeRegion (array : Ref) (start len : Int32) (bytes : List Int8) :
    reading.Throws t Reading.arrays (writeRegion t array start len bytes) fun m _ m' =>
      ∀ content, reading.referent m t array = some (.bytes content) → len.toInt = bytes.length →
        reading.referent m' t array =
          some (.bytes (content.take start.toInt.toNat ++ bytes ++
            content.drop (start.toInt.toNat + bytes.length))) := by
  intro m hm
  cases hbytes : m.bytes? array with
  | none =>
    have hrun : writeRegion t array start len bytes m = ((), m) := by
      rewrite [writeRegion_run, hbytes]
      rfl
    rw [hrun]
    refine ⟨(spares_rfl hm.2.1 hm.2.2).keeps hm.1, fun _ content href => ?_⟩
    obtain ⟨_, ho, -⟩ := bytes?_of_bytes href
    cases hbytes.symm.trans ho
  | some filled =>
    have harray : m.object? array = some (.bytes filled) := by
      rw [bytes?] at hbytes
      split at hbytes
      · next h => exact h.trans (congrArg (some <| Object.bytes ·) (Option.some.inj hbytes))
      · cases hbytes
    obtain ⟨handle, r, rfl, hr, hobject⟩ := object?_eq_some_iff.mp harray
    have hfound : (some handle : Ref).bind m.refs.get? = some r := hr
    rw [writeRegion_run, hbytes, hfound]
    dsimp only
    cases hregion : region? filled start len with
    | none =>
      exact (throws_throwing _ _ m hm).imp_right fun hnone hpending => (hnone hpending).elim
    | some region =>
      refine ⟨(spares_write hm.2.1 hm.2.2 hobject).keeps hm.1, fun _ content href hlen => ?_⟩
      obtain ⟨hstart, hcount, hwithin⟩ := region?_eq hregion
      obtain ⟨_, ho, rfl⟩ := object?_of_bytes href
      cases harray.symm.trans ho
      have hbound : r.object < m.objects.length := (hm.2.2 _ _ hr).2
      refine referent_eq_some_iff.mpr ⟨.bytes (filled.write region.1 (bytes.take region.2)),
        object?_eq_some_iff.mpr ⟨handle, r, rfl, hr, List.getElem?_set_self hbound⟩, ?_⟩
      have hall : region.2 = bytes.length := by rw [hcount, hlen, Int.toNat_natCast]
      have hfits : bytes.length ≤ filled.toList.length - region.1 := by
        rw [ZeroFilled.length_toList]
        omega
      rw [Object.referent?, ZeroFilled.toList_write, hall, List.take_length, overwrite,
        List.take_of_length_le hfits, hstart]

theorem newGlobalRef_run (ref : Ref) (hfaults : m.faults = []) :
    (natives [] t).newGlobalRef ref m =
      (match ref.bind m.refs.get? with
      | some r => newRef none r.object
      | none => pure none : StateM Machine Ref) { m with called := "NewGlobalRef" :: m.called } :=
  faulty_eq "NewGlobalRef" Fault.pointer _ hfaults

theorem newGlobalRef_adds (ref : Ref) :
    reading.Adds t ((natives [] t).newGlobalRef ref) fun m copy m' => ∀ o,
      reading.referent m t ref = some o → copy.isSome →
        reading.Pinned m' copy o ∧ reading.referent m t copy = none := by
  intro m hm
  rw [newGlobalRef_run ref hm.2.1]
  cases hr : ref.bind m.refs.get? with
  | none => exact ⟨keeps_called _ hm, fun _ _ hsome => by cases hsome⟩
  | some r =>
    obtain ⟨handle, rfl, hr⟩ := Option.bind_eq_some_iff.mp hr
    have hspares : Spares Reading.nothing { m with called := "NewGlobalRef" :: m.called }
        ({ m with called := "NewGlobalRef" :: m.called }.referred none r.object) :=
      spares_referred none hm.2.1 hm.2.2 (hm.2.2 handle r hr).2
    refine ⟨keeps_after_called (hspares.keeps hm.1),
      fun o href _ => ⟨?_, hm.2.2.referent_nextHandle⟩⟩
    have hcopy : (m.refs.set m.nextHandle ⟨none, r.object⟩).get? m.nextHandle =
        some ⟨none, r.object⟩ := (Table.get?_set ..).trans (if_pos rfl)
    refine ⟨⟨_, _, rfl, hcopy⟩, fun u => ?_⟩
    obtain ⟨object, ho, hobject⟩ := referent_eq_some_iff.mp href
    obtain ⟨_, r', ⟨rfl⟩, hr', hget⟩ := object?_eq_some_iff.mp ho
    cases hr.symm.trans hr'
    exact referent_eq_some_iff.mpr
      ⟨object, object?_eq_some_iff.mpr ⟨_, _, rfl, hcopy, hget⟩, hobject⟩

theorem spares_erase (hfaults : m.faults = []) (hordered : m.Ordered) (handle : Handle) :
    Spares (Reading.only (some handle)) m { m with refs := m.refs.erase handle } where
  faults := hfaults
  ordered other r hr := by
    have hr' : (m.refs.erase handle).get? other = some r := hr
    rw [Table.get?_erase] at hr'
    split at hr'
    · cases hr'
    · exact hordered other r hr'
  classes := rfl
  attached _ := rfl
  refs other r o referent hr ho _ hlost := by
    refine ⟨?_, ho⟩
    show (m.refs.erase handle).get? other = some r
    rw [Table.get?_erase, if_neg, hr]
    rintro rfl
    exact hlost rfl

theorem deleteLocalRef_silent (ref : Ref) :
    reading.Silent t (Reading.only ref) ((natives [] t).deleteLocalRef ref)
      fun _ _ _ => True := by
  refine silent_plain (fun m hm => ?_) id
  cases ref with
  | none => exact ⟨(spares_rfl hm.2.1 hm.2.2).keeps hm.1, rfl, trivial⟩
  | some handle =>
    show reading.Keeps t _ m (ite _ _ _) ∧ reading.pending (ite _ _ _) t = _ ∧ _
    split
    · exact ⟨(spares_erase hm.2.1 hm.2.2 handle).keeps hm.1, rfl, trivial⟩
    · exact ⟨(spares_rfl hm.2.1 hm.2.2).keeps hm.1, rfl, trivial⟩

def outOfMemory : Throwable := ⟨"java/lang/OutOfMemoryError", none⟩

/-- An array that would be too long is refused. -/
def bounded (t : ThreadId) (f : StateM Machine Ref) : StateM Machine Ref := do
  let array ← f
  match (← get).bytes? array with
  | some content =>
    if content.length ≤ Context.maxArrayLen then return array else throwing t outOfMemory none
  | none => return array

theorem throws_bounded {f : StateM Machine Ref} {post : Machine → Ref → Machine → Prop}
    (h : reading.Throws t Reading.nothing f post) :
    reading.Throws t Reading.nothing (bounded t f) fun m array m' => post m array m' ∧
      ∀ content, reading.referent m' t array = some (.bytes content) →
        content.length ≤ Context.maxArrayLen := by
  intro m hm
  obtain ⟨hkeeps, hdone⟩ := h m hm
  have hrun : bounded t f m =
      (match (f m).2.bytes? (f m).1 with
      | some content =>
        if content.length ≤ Context.maxArrayLen then pure (f m).1 else throwing t outOfMemory none
      | none => pure (f m).1 : StateM Machine Ref) (f m).2 := rfl
  rw [hrun]
  cases hbytes : (f m).2.bytes? (f m).1 with
  | none =>
    refine ⟨hkeeps, fun hnone => ⟨hdone hnone, fun content href => ?_⟩⟩
    obtain ⟨_, ho, -⟩ := bytes?_of_bytes href
    cases hbytes.symm.trans ho
  | some content =>
    dsimp only
    by_cases hfits : content.length ≤ Context.maxArrayLen
    · rw [if_pos hfits]
      refine ⟨hkeeps, fun hnone => ⟨hdone hnone, fun content' href => ?_⟩⟩
      obtain ⟨_, ho, rfl⟩ := bytes?_of_bytes href
      cases hbytes.symm.trans ho
      rw [ZeroFilled.length_toList]
      exact hfits
    · rw [if_neg hfits]
      obtain ⟨hkeeps', hnot⟩ := throws_throwing outOfMemory (none : Ref) _ hkeeps.callable
      exact ⟨hkeeps.trans hkeeps', fun hnone => (hnot hnone).elim⟩

/-- The native interface of a thread of the simulated machine, with the bound of arrays. -/
def boundedNatives (t : ThreadId) : NativeInterface Machine :=
  { natives [] t with
    callObjectMethod := fun object method args =>
      bounded t ((natives [] t).callObjectMethod object method args) }

/-- The invocation interface of the simulated machine, with the bound of arrays. -/
def boundedInvocation : InvocationInterface Machine ThreadId :=
  { invocation [] with functions := boundedNatives }

theorem callObjectMethod_throws (object : Ref) (method : MethodId) (args : List Ref)
    (stringClass : String) :
    reading.Throws t Reading.nothing ((boundedNatives t).callObjectMethod object method args)
      fun m array m' => ∀ units charset cs, args = [charset] →
        reading.method m method ⟨stringClass, "getBytes", getBytesSignature⟩ →
        reading.referent m t object = some (.text units) →
        reading.referent m t charset = some (.charset cs) →
        (simulatedCharsets.encode cs units).length ≤ Context.maxArrayLen ∧ ∃ handle,
          array = some handle ∧ reading.referent m' t (some handle) =
            some (.bytes ((simulatedCharsets.encode cs units).map UInt8.toInt8)) := by
  have hcall : reading.Throws t Reading.nothing
      ((natives [] t).callObjectMethod object method args) fun m array m' =>
        ∀ units charset cs, args = [charset] → method = getBytesId →
          reading.referent m t object = some (.text units) →
          reading.referent m t charset = some (.charset cs) → ∃ handle, array = some handle ∧
            reading.referent m' t (some handle) =
              some (.bytes ((simulatedCharsets.encode cs units).map UInt8.toInt8)) := by
    refine throws_careful ?_ id
    split
    · refine throws_mono (throws_encodeString _ _) ?_
      rintro m array m' hdone units charset cs rfl -
      exact hdone units cs
    · next hne =>
      split
      · refine throws_get fun m _ => ?_
        cases m.object? object with
        | none => exact ⟨_, _, rfl, throws_pure none, fun _ _ _ _ _ _ _ h => absurd h hne⟩
        | some o =>
          exact ⟨_, _, rfl, throws_newLocal rfl, fun _ _ _ _ _ _ _ h => absurd h hne⟩
      · exact throws_mono (throws_pure none) fun _ _ _ _ _ _ _ _ h => absurd h hne
  refine throws_mono (throws_bounded hcall) ?_
  rintro m array m' ⟨hdone, hbound⟩ units charset cs hargs hmethod hunits hcs
  obtain ⟨handle, rfl, hleads⟩ :=
    hdone units charset cs hargs (method_getBytes hmethod) hunits hcs
  refine ⟨?_, handle, rfl, hleads⟩
  have hlen := hbound _ hleads
  rwa [List.length_map] at hlen

theorem boundedNatives_faithful (stringClass : String) (t : ThreadId) :
    (boundedNatives t).Faithful reading simulatedCharsets stringClass t where
  provides _ := rfl
  exceptionCheck :=
    silent_plain (fun _ hm => ⟨(spares_rfl hm.2.1 hm.2.2).keeps hm.1, rfl, rfl⟩) id
  findClass := findClass_throws
  getMethodId := getMethodId_throws
  getStaticMethodId := getStaticMethodId_throws
  newStringUtf := newStringUtf_throws
  callStaticObjectMethod := callStaticObjectMethod_throws
  callObjectMethod object method args := callObjectMethod_throws object method args stringClass
  newObject cls constructor args := throws_mono (newObject_throws cls constructor args)
    fun _ _ _ h array content charset cs hargs _ => h array content charset cs _ hargs
  newByteArray := newByteArray_throws
  getArrayLength := getArrayLength_silent
  getByteArrayRegion := getByteArrayRegion_throws
  setByteArrayRegion array start len bytes :=
    throws_careful (throws_mono (throws_writeRegion array start len bytes)
      fun _ _ _ h content href _ => h content href) id
  newGlobalRef := newGlobalRef_adds
  deleteLocalRef := deleteLocalRef_silent
  getJavaVm := silent_faulty
    (fun _ hm => ⟨(spares_rfl hm.2.1 hm.2.2).keeps hm.1, rfl, trivial⟩) id

end Machine

end Jvm

end ManagedBridge
