import ManagedBridge.Proofs.Failure

/-!
# Strings of a virtual machine

The calls of a context, on a faithful machine, for the capabilities that were resolved: which
reference leads to what after each of them, if it succeeds, and that a function of the machine has
failed if it is refused. A byte crosses as a signed byte and comes back as it was.
-/

namespace ManagedBridge.Jvm

variable {μ ε χ : Type}

theorem map_toUInt8_map_toInt8 (bytes : List UInt8) :
    (bytes.map UInt8.toInt8).map Int8.toUInt8 = bytes := by
  simp [Function.comp_def]

/-- The capabilities lead to the class of strings with its two methods, and to a charset. -/
structure Resolved (R : Reading μ ε χ) (stringClass : String) (cs : χ) (caps : Capabilities)
    (m : μ) : Prop where
  toClass : R.Pinned m caps.stringClass (.classOf stringClass)
  toCharset : R.Pinned m caps.charset (.charset cs)
  constructor : R.method m caps.constructor ⟨stringClass, "<init>", constructorSignature⟩
  getBytes : R.method m caps.getBytes ⟨stringClass, "getBytes", getBytesSignature⟩

/-- What conversions rest on: the environment of a thread and the capabilities, which lead to the
class of strings and to a charset. -/
structure Footing (ε χ : Type) where
  thread : ThreadId
  env : ε
  stringClass : String
  charset : χ
  caps : Capabilities

/-- Strings that an environment can be given, with their units. -/
abbrev Known := List (Ref × List UInt16)

/-- The thread is attached, the capabilities are resolved and the strings are known. -/
structure Idle (R : Reading μ ε χ) (x : Footing ε χ) (known : Known) (m : μ) : Prop where
  callable : R.callable m x.env
  current : R.environment m x.thread = some x.env
  resolved : Resolved R x.stringClass x.charset x.caps m
  strings : ∀ string units, (string, units) ∈ known →
    string.isSome = true ∧ R.referent m x.env string = some (.text units)

/-- Besides, an array is there, with the bytes in it. -/
structure Holds (R : Reading μ ε χ) (x : Footing ε χ) (known : Known) (array : Handle)
    (bytes : List UInt8) (m : μ) : Prop extends Idle R x known m where
  array : R.referent m x.env (some array) = some (.bytes (bytes.map UInt8.toInt8))
  fits : bytes.length ≤ Context.maxArrayLen

section Calls

variable {R : Reading μ ε χ} {C : Charsets χ} {x : Footing ε χ} {known : Known}
  {jni : NativeInterface μ} {lost : Ref → Referent χ → Prop} {array : Handle}
  {bytes : List UInt8} {s t : Site (Link μ)}

/-- Where nothing is lost but arrays, what a context needs stays. -/
theorem Idle.keeps {m m' : μ} (h : Idle R x known m)
    (hkeeps : R.Keeps x.env lost m m')
    (safe : ∀ ref o, lost ref o → R.referent m x.env ref = some o → ∃ content, o = .bytes content) :
    Idle R x known m' where
  callable := hkeeps.callable
  current := (congrFun hkeeps.environment x.thread).trans h.current
  resolved :=
    { toClass := hkeeps.pinned h.resolved.toClass fun hlost =>
        nomatch safe _ _ hlost (h.resolved.toClass.referent x.env)
      toCharset := hkeeps.pinned h.resolved.toCharset fun hlost =>
        nomatch safe _ _ hlost (h.resolved.toCharset.referent x.env)
      constructor := hkeeps.method h.resolved.constructor
      getBytes := hkeeps.method h.resolved.getBytes }
  strings string units hmem :=
    have ⟨hsome, hstring⟩ := h.strings string units hmem
    ⟨hsome, hkeeps.referent hstring fun hlost => nomatch safe _ _ hlost hstring⟩

theorem Holds.keeps {m m' : μ} (h : Holds R x known array bytes m)
    (hkeeps : R.Keeps x.env Reading.nothing m m') :
    Holds R x known array bytes m' where
  toIdle := h.toIdle.keeps hkeeps fun _ _ => False.elim
  array := hkeeps.referent h.array id
  fits := h.fits

/-- A string that is built is known. -/
theorem Holds.cons {m : μ} {string : Handle} {units : List UInt16}
    (h : Holds R x known array bytes m)
    (hstring : R.referent m x.env (some string) = some (.text units)) :
    Holds R x ((some string, units) :: known) array bytes m where
  callable := h.callable
  current := h.current
  resolved := h.resolved
  strings := by
    intro other units' hmem
    rcases List.mem_cons.mp hmem with heq | hmem
    · obtain ⟨rfl, rfl⟩ := Prod.mk.inj heq
      exact ⟨rfl, hstring⟩
    · exact h.strings other units' hmem
  array := h.array
  fits := h.fits

/-- A length that an array can have is not changed on its way. -/
theorem toInt_ofNat {len : Nat} (h : len ≤ Context.maxArrayLen) : (Int32.ofNat len).toInt = len :=
  Int32.toInt_ofNat_of_lt (Nat.lt_of_le_of_lt h (by decide))

theorem newByteArray_succeeds (faithful : jni.Faithful R C x.stringClass x.env) {len : Nat}
    (h : Idle R x known s.backend.machine)
    (run : Succeeds (Context.newByteArray jni len) s array t) :
    Holds R x known array (List.replicate len 0) t.backend.machine ∧
      Calm R x.env Reading.nothing s t := by
  unfold Context.newByteArray at run
  split at run
  case isFalse => cases run
  case isTrue hlen =>
    obtain ⟨m, hpost, hkeeps, hcalm⟩ :=
      run.of_ofChecked.of_orNull faithful (faithful.newByteArray _) h.callable
    rw [toInt_ofNat hlen] at hpost
    have harray := hkeeps.referent (hpost (Int.natCast_nonneg len) array rfl) id
    refine ⟨⟨h.keeps hcalm.machine fun _ _ => False.elim, ?_, ?_⟩, hcalm⟩
    · rw [harray]
      simp
    · rwa [List.length_replicate]

theorem writeByteArray_succeeds (faithful : jni.Faithful R C x.stringClass x.env)
    {old : List UInt8} (same : bytes.length = old.length)
    (h : Holds R x known array old s.backend.machine)
    (run : Succeeds (Context.writeByteArray jni array bytes) s () t) :
    Holds R x known array bytes t.backend.machine ∧
      Calm R x.env Reading.arrays s t := by
  obtain ⟨m, hpost, hkeeps, hcalm⟩ :=
    run.of_ofChecked.of_orException faithful (faithful.setByteArrayRegion _ _ _ _) h.callable
  have hlen : (bytes.map UInt8.toInt8).length ≤ Context.maxArrayLen := by
    rw [List.length_map, same]
    exact h.fits
  have harray := hkeeps.referent (hpost _ h.array (by decide) (toInt_ofNat hlen)) id
  refine ⟨⟨h.toIdle.keeps hcalm.machine fun _ o hlost _ => hlost, ?_, same ▸ h.fits⟩, hcalm⟩
  rw [harray]
  simp [same]

theorem newString_succeeds (faithful : jni.Faithful R C x.stringClass x.env) {string : Ref}
    (h : Holds R x known array bytes s.backend.machine)
    (run : Succeeds (Context.newString jni x.caps array) s string t) :
    Holds R x ((string, C.decode x.charset bytes) :: known) array bytes
      t.backend.machine ∧ Calm R x.env Reading.nothing s t := by
  obtain ⟨handle, u, hcall, hpure⟩ := run.of_bind
  obtain ⟨rfl, rfl⟩ := hpure.of_pure
  obtain ⟨m, hpost, hkeeps, hcalm⟩ :=
    hcall.of_ofChecked.of_orNull faithful (faithful.newObject _ _ _) h.callable
  have hstring := hpost _ _ _ _ rfl h.resolved.constructor (h.resolved.toClass.referent x.env)
    h.array (h.resolved.toCharset.referent x.env) handle rfl
  rw [map_toUInt8_map_toInt8] at hstring
  exact ⟨(h.keeps hcalm.machine).cons (hkeeps.referent hstring id), hcalm⟩

theorem stringBytes_succeeds (faithful : jni.Faithful R C x.stringClass x.env) {string : Ref}
    {units : List UInt16} (hmem : (string, units) ∈ known)
    (h : Idle R x known s.backend.machine)
    (run : Succeeds (Context.stringBytes jni x.caps string) s array t) :
    Holds R x known array (C.encode x.charset units) t.backend.machine ∧
      Calm R x.env Reading.nothing s t := by
  obtain ⟨array?, u, hcall, h'⟩ := run.of_bind
  obtain ⟨m, hpost, hkeeps, hcalm⟩ :=
    hcall.of_ofChecked.of_orException faithful (faithful.callObjectMethod _ _ _) h.callable
  obtain ⟨hfits, handle, rfl, hleads⟩ := hpost units _ x.charset rfl
    h.resolved.getBytes (h.strings string units hmem).2 (h.resolved.toCharset.referent x.env)
  obtain ⟨rfl, rfl⟩ := h'.of_pure
  exact ⟨⟨h.keeps hcalm.machine fun _ _ => False.elim, hkeeps.referent hleads id, hfits⟩, hcalm⟩

/-- Reading a length throws nothing. -/
theorem byteArrayLen_succeeds (faithful : jni.Faithful R C x.stringClass x.env) {len : Nat}
    (h : Holds R x known array bytes s.backend.machine)
    (run : Succeeds (Context.byteArrayLen jni array) s len t) :
    len = bytes.length ∧ Holds R x known array bytes t.backend.machine ∧
      Kept R x.env Reading.nothing s t ∧
      R.pending t.backend.machine x.env = R.pending s.backend.machine x.env := by
  obtain ⟨word, u, hcall, h'⟩ := run.of_bind
  obtain ⟨rfl, rfl⟩ := hcall.of_ofChecked.of_enter
  obtain ⟨hkeeps, hpending, hlen⟩ := faithful.getArrayLength (some array) _ h.callable
  have hword := hlen _ h.array (by rw [List.length_map]; exact h.fits)
  rw [List.length_map] at hword
  dsimp only at h'
  split at h'
  · cases h'
  · obtain ⟨rfl, rfl⟩ := h'.of_pure
    refine ⟨?_, h.keeps hkeeps, ⟨hkeeps, rfl⟩, hpending⟩
    rw [hword]
    rfl

theorem readByteArray_succeeds (faithful : jni.Faithful R C x.stringClass x.env)
    {read : List UInt8}
    (h : Holds R x known array bytes s.backend.machine)
    (run : Succeeds (Context.readByteArray jni array bytes.length) s read t) :
    read = bytes ∧ Holds R x known array bytes t.backend.machine ∧
      Calm R x.env Reading.nothing s t := by
  obtain ⟨signed, u, hcall, hpure⟩ := run.of_bind
  obtain ⟨rfl, rfl⟩ := hpure.of_pure
  obtain ⟨m, hpost, hkeeps, hcalm⟩ :=
    hcall.of_ofChecked.of_orException faithful (faithful.getByteArrayRegion _ _ _) h.callable
  rw [toInt_ofNat h.fits] at hpost
  have hsigned := hpost _ h.array (by decide) (Int.natCast_nonneg _)
  refine ⟨?_, h.keeps hcalm.machine, hcalm⟩
  rw [hsigned]
  simp [Function.comp_def]

/-- After its release nothing is known of the array any more. -/
theorem releaseBytes_run (faithful : jni.Faithful R C x.stringClass x.env)
    (h : Holds R x known array bytes s.backend.machine)
    (run : (Context.dropLocal jni (some array)).run s = (.ok (), t)) :
    Idle R x known t.backend.machine ∧
      Kept R x.env (Reading.only (some array)) s t ∧
      R.pending t.backend.machine x.env = R.pending s.backend.machine x.env := by
  obtain ⟨hkeeps, hpending, -⟩ := faithful.deleteLocalRef (some array) _ h.callable
  cases (dropLocal_run faithful (some array) s).symm.trans run
  refine ⟨h.toIdle.keeps hkeeps ?_, ⟨hkeeps, rfl⟩, hpending⟩
  rintro ref o rfl hreferent
  rw [h.array] at hreferent
  exact ⟨_, (Option.some.inj hreferent).symm⟩

end Calls

section Refusals

variable {vm : InvocationInterface μ ε} {R : Reading μ ε χ} {C : Charsets χ} {x : Footing ε χ}
  {known : Known} {array : Handle} {bytes : List UInt8} {s t : Site (NotedLink μ)}

/-- The notes of a machine beside its state. -/
abbrev Reading.noted (R : Reading μ ε χ) : Reading (μ × List (Note μ)) ε χ := R.beside _

theorem newByteArray_refused (faithful : (vm.functions x.env).Faithful R C x.stringClass x.env)
    {len : Nat} (fits : len ≤ Context.maxArrayLen) (h : Idle R.noted x known s.backend.machine)
    (run : Refused (Context.newByteArray ((vm.functions x.env).recorded Prod.mk) len) s t) :
    Failed vm R x.thread t.backend := by
  rw [Context.newByteArray, if_pos fits] at run
  obtain ⟨hlacks, hnoted⟩ := run.of_ofChecked.of_orNull (.newByteArray (.ofNat len))
    faithful (faithful.newByteArray _) h.callable
  exact .of_native h.current hnoted hlacks

theorem writeByteArray_refused (faithful : (vm.functions x.env).Faithful R C x.stringClass x.env)
    (h : Idle R.noted x known s.backend.machine)
    (run : Refused (Context.writeByteArray ((vm.functions x.env).recorded Prod.mk) array bytes)
      s t) :
    Failed vm R x.thread t.backend := by
  obtain ⟨hthrown, hnoted⟩ := run.of_ofChecked.of_orException
    (.setByteArrayRegion (some array) 0 _ _) faithful
    (faithful.setByteArrayRegion _ _ _ _) h.callable
  exact .of_native h.current hnoted hthrown

theorem newString_refused (faithful : (vm.functions x.env).Faithful R C x.stringClass x.env)
    (h : Idle R.noted x known s.backend.machine)
    (run : Refused (Context.newString ((vm.functions x.env).recorded Prod.mk) x.caps array) s t) :
    Failed vm R x.thread t.backend := by
  rcases run.of_bind with run | ⟨string, u, -, run⟩
  · obtain ⟨hlacks, hnoted⟩ := run.of_ofChecked.of_orNull (.newObject _ _ _) faithful
      (faithful.newObject _ _ _) h.callable
    exact .of_native h.current hnoted hlacks
  · exact absurd run not_refused_pure

/-- Where an encoding is what `getBytes` gives, it does not give null. -/
theorem stringBytes_refused (faithful : (vm.functions x.env).Faithful R C x.stringClass x.env)
    {string : Ref} {units : List UInt16} (hmem : (string, units) ∈ known)
    (h : Idle R.noted x known s.backend.machine)
    (run : Refused (Context.stringBytes ((vm.functions x.env).recorded Prod.mk) x.caps string)
      s t) :
    Failed vm R x.thread t.backend := by
  rcases run.of_bind with run | ⟨array?, u, hcall, run⟩
  · obtain ⟨hthrown, hnoted⟩ := run.of_ofChecked.of_orException (.callObjectMethod _ _ _)
      faithful (faithful.callObjectMethod _ _ _) h.callable
    exact .of_native h.current hnoted hthrown
  · have faithful' := faithful.recorded Prod.mk
    obtain ⟨m, hpost, -, -⟩ := hcall.of_ofChecked.of_orException faithful'
      (faithful'.callObjectMethod _ _ _) h.callable
    obtain ⟨-, handle, rfl, -⟩ := hpost units _ x.charset rfl
      h.resolved.getBytes (h.strings string units hmem).2 (h.resolved.toCharset.referent x.env)
    exact absurd run not_refused_pure

/-- A length that is read off an array is the length of the array, and not negative. -/
theorem not_refused_byteArrayLen {jni : NativeInterface μ} {s t : Site (Link μ)}
    (faithful : jni.Faithful R C x.stringClass x.env)
    (h : Holds R x known array bytes s.backend.machine) :
    ¬ Refused (Context.byteArrayLen jni array) s t := by
  intro run
  rcases run.of_bind with run | ⟨word, u, hcall, run⟩
  · exact not_refused_enter (faithful.provides _) run.of_ofChecked
  · obtain ⟨rfl, rfl⟩ := hcall.of_ofChecked.of_enter
    obtain ⟨-, -, hlen⟩ := faithful.getArrayLength (some array) _ h.callable
    have hword := hlen _ h.array (by rw [List.length_map]; exact h.fits)
    have hpositive : ¬ (jni.getArrayLength (some array) s.backend.machine).1 < 0 := by
      rw [Int32.lt_iff_toInt_lt, hword]
      exact Int.not_lt.mpr (Int.natCast_nonneg _)
    dsimp only at run
    rw [if_neg hpositive] at run
    exact not_refused_pure run

theorem readByteArray_refused (faithful : (vm.functions x.env).Faithful R C x.stringClass x.env)
    {len : Nat} (h : Idle R.noted x known s.backend.machine)
    (run : Refused (Context.readByteArray ((vm.functions x.env).recorded Prod.mk) array len) s t) :
    Failed vm R x.thread t.backend := by
  rcases run.of_bind with run | ⟨bytes, u, -, run⟩
  · obtain ⟨hthrown, hnoted⟩ := run.of_ofChecked.of_orException
      (.getByteArrayRegion (some array) 0 _) faithful (faithful.getByteArrayRegion _ _ _)
      h.callable
    exact .of_native h.current hnoted hthrown
  · exact absurd run not_refused_pure

end Refusals

end ManagedBridge.Jvm
