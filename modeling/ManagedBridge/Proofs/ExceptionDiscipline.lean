import ManagedBridge.Proofs.ExceptionRules

/-!
# Exception discipline

The conversions of the bridge and the resolution of its capabilities call no function out of turn
while an exception is pending, whatever the functions of the machine answer. An exception is pending
after them exactly if they report one.
-/

namespace ManagedBridge.Jvm

variable {μ ε α β : Type}

section Attaching

variable {pending : μ → Bool} {vm : InvocationInterface μ ε} {t : ThreadId}

theorem getEnv_silent (h : vm.Orderly t pending) :
    Silent pending (Checked.getEnv (vm.recorded Prod.mk) t)
      fun env => (vm.functions env).Orderly pending := by
  refine (silent_call (.getEnv t) h.getEnv).bind fun out hout => ?_
  obtain ⟨m, rfl⟩ := hout
  exact (orStatus_silent _).mono fun env henv => h.getEnv_orderly m env henv

theorem quiet_step {f : NotedLink μ → α × NotedLink μ}
    (h : ∀ l, (f l).2.machine = l.machine) : Quiet pending (Call.step f) := by
  refine fun known => Call.returns_step fun l hl => ?_
  exact ⟨(h l).symm ▸ hl.pending_eq, (h l).symm ▸ hl.allowed, (h l).symm ▸ hl.known⟩

theorem release_quiet (h : vm.Orderly t pending) :
    Quiet pending (Link.release (vm.recorded Prod.mk) t) := by
  refine (quiet_step fun _ => rfl).bind fun guarded => ?_
  split
  · refine fun known => Call.returns_step fun l hl => ?_
    have hafter := hl.record (.detachCurrentThread t) (vm.detachCurrentThread t) nofun
    rw [h.detach _ hl.pending_eq] at hafter
    exact hafter.tail
  · exact .pure ()

theorem attachGuarded_silent (h : vm.Orderly t pending) :
    Silent pending (Link.attachGuarded (vm.recorded Prod.mk) t)
      fun env => (vm.functions env).Orderly pending := by
  refine (silent_call (.attachCurrentThread t) h.attach).bind fun out hout => ?_
  obtain ⟨m, rfl⟩ := hout
  have hstatus : Silent pending (Checked.orStatus (vm.attachCurrentThread t m).1)
      fun env => (vm.functions env).Orderly pending :=
    (orStatus_silent _).mono fun env henv => h.attach_orderly m env henv
  rcases Status.ofCode? (vm.attachCurrentThread t m).1.1 with _ | status
  · have hguard : Quiet pending (Link.guard (vm.recorded Prod.mk) t) :=
      (release_quiet h).bind fun _ => quiet_step fun _ => rfl
    exact hguard.silent.bind fun _ _ => hstatus
  · exact (silent_call (.detachCurrentThread t) h.detach).bind fun _ _ => hstatus

/-- Wherever the environment comes from, giving a reference back throws nothing. -/
theorem dropGlobalRef_quiet (h : vm.Orderly t pending) (ref : Ref) :
    Quiet pending (Link.dropGlobalRef (vm.recorded Prod.mk) t ref) := by
  have hdelete (env : ε) (henv : (vm.functions env).Orderly pending) :
      Quiet pending (do
        let _ ← (Checked.deleteGlobalRef ((vm.functions env).recorded Prod.mk) ref).run
        : Call (NotedLink μ) Unit) :=
    (silent_enter _ .deleteGlobalRef fun m hm => (henv.deleteGlobalRef ref m).trans hm).quiet.bind
      fun _ => .pure ()
  intro known
  refine (getEnv_silent h known).bind ?_
  rintro (e | env)
  · refine fun s hs => ((getEnv_silent h known).bind ?_) s hs.1
    rintro (e | env)
    · refine fun s hs => ((attachGuarded_silent h known).bind ?_) s hs.1
      rintro (e | env)
      · exact .pure fun _ hs => hs.1
      · refine fun s hs => (Quiet.bind ?_ fun _ => release_quiet h) known s hs.1
        exact hdelete env (hs.2.2 env rfl)
    · exact fun s hs => hdelete env (hs.2.2 env rfl) known s hs.1
  · exact fun s hs => hdelete env (hs.2.2 env rfl) known s hs.1

end Attaching

namespace Context

variable {pending : μ → Bool} {jni : NativeInterface μ}

theorem ofChecked_settles {x : Checked (μ × List (Note μ)) α} {Q : α → List (Note μ) → Prop}
    (hx : Settles pending x Q) : Settles pending (Mapped.ofChecked x) Q :=
  hx.adapt raised_toRuntime

theorem dropLocal_keeps (h : jni.Orderly pending) (ref : Ref) :
    Keeps pending (dropLocal (jni.recorded Prod.mk) ref) := by
  refine fun known thrown => (keeps_deleteLocalRef h ref known thrown).bind ?_
  rintro (e | _)
  · exact fun s hs => ⟨(), _, rfl, hs⟩
  · exact .pure fun _ => id

theorem charsetForName_settles (h : jni.Orderly pending) (charset : String) :
    Settles pending (charsetForName (jni.recorded Prod.mk) charset) fun _ _ => True := by
  refine (ofChecked_settles (orNull_settles h .newStringUtf)).bind fun name => ?_
  intro known
  have hfound := callStaticMethod_settles h charsetClassName "forName" forNameSignature [some name]
  refine returns_lift_bind (hfound known) fun found => ?_
  rintro s ⟨hs, -⟩
  have hdropped := dropLocal_keeps h (some name) known (raisedIn found)
  refine (returns_lift_bind hdropped fun _ => ?_) s hs
  rcases found with e | _ | charset
  · exact .pure fun _ hs => ⟨hs.of_eq (raised_toRuntime e), nofun⟩
  · exact .pure fun _ hs => ⟨hs, nofun⟩
  · exact .pure fun _ hs => ⟨hs, fun _ _ => trivial⟩

theorem resolve_settles {vm : InvocationInterface μ ε} {t : ThreadId} {c : Context ε}
    (hvm : vm.Orderly t pending) (h : (vm.functions c.env).Orderly pending) :
    Settles pending (c.resolve (vm.recorded Prod.mk) t) fun _ _ => True := by
  refine (ofChecked_settles (orNull_settles h .findClass)).bind fun cls => ?_
  refine (ofChecked_settles (getMethodId_settles h cls _ _)).bind fun constructor => ?_
  refine (ofChecked_settles (getMethodId_settles h cls _ _)).bind fun getBytes => ?_
  refine (charsetForName_settles h _).bind fun charset => ?_
  refine (ofChecked_settles (newGlobalRef_silent h _).settles).bind fun stringClass => ?_
  intro known
  refine returns_lift_bind (newGlobalRef_silent h (some charset) known) ?_
  rintro (e | pinned)
  · rintro s ⟨hs, hraised, -⟩
    refine (returns_lift_bind (dropGlobalRef_quiet hvm stringClass known) fun _ => ?_) s hs
    exact .pure fun _ hs => ⟨hs.of_eq ((raised_toRuntime e).trans hraised), nofun⟩
  · rintro s ⟨hs, -, -⟩
    have hcls := dropLocal_keeps h (some cls) known false
    have hcharset := dropLocal_keeps h (some charset) known false
    refine (returns_lift_bind hcls fun _ => returns_lift_bind hcharset fun _ => ?_) s hs
    refine returns_lift_bind (M := fun _ s => Poised pending known false s.backend) ?_ fun _ => ?_
    · exact fun s hs => ⟨(), _, rfl, hs⟩
    · exact .pure fun _ hs => ⟨hs, fun _ _ => trivial⟩

/-- The bytes of a string are the array that the machine answers with. -/
theorem stringBytes_settles (h : jni.Orderly pending) (caps : Capabilities) (string : Ref) :
    Settles pending (stringBytes (jni.recorded Prod.mk) caps string) fun array notes => ∃ m,
      (m, .callObjectMethod string caps.getBytes [caps.charset]) ∈ notes ∧
        (jni.callObjectMethod string caps.getBytes [caps.charset] m).1 = some array := by
  intro known
  refine (ofChecked_settles (orException_settles h .callObjectMethod) known).bind ?_
  rintro (e | _ | array)
  · exact .pure fun _ hs => ⟨hs.1, nofun⟩
  · exact .pure fun _ hs => ⟨hs.1, nofun⟩
  · refine .pure fun s hs => ⟨hs.1, fun a ha => ?_⟩
    obtain ⟨m, hm, hanswer⟩ := hs.2 _ rfl
    obtain rfl := Except.ok.inj ha
    exact ⟨m, hm, hanswer.symm⟩

/-- The length of an array is the one that the machine answers with. -/
theorem byteArrayLen_settles (h : jni.Orderly pending) (array : Handle) :
    Settles pending (byteArrayLen (jni.recorded Prod.mk) array) fun len notes => ∃ m,
      (m, .getArrayLength (some array)) ∈ notes ∧
        (jni.getArrayLength (some array) m).1.toInt = len := by
  intro known
  have hlen : Settles pending (Checked.getArrayLength (jni.recorded Prod.mk) (some array))
      fun answer notes => ∃ m, (m, .getArrayLength (some array)) ∈ notes ∧
        answer = (jni.getArrayLength (some array) m).1 :=
    settles_enter _ _ (h.getArrayLength (some array))
  refine (ofChecked_settles hlen known).bind ?_
  rintro (e | len)
  · exact .pure fun _ hs => ⟨hs.1, nofun⟩
  · by_cases hnegative : len < 0
    · simp only [ExceptT.bindCont, if_pos hnegative]
      exact .pure fun _ hs => ⟨hs.1, nofun⟩
    · simp only [ExceptT.bindCont, if_neg hnegative]
      refine .pure fun s hs => ⟨hs.1, fun a ha => ?_⟩
      obtain ⟨m, hm, hanswer⟩ := hs.2 _ rfl
      obtain rfl := Except.ok.inj ha
      refine ⟨m, hm, ?_⟩
      rw [← hanswer, Int.toNat_of_nonneg]
      rw [Int32.lt_iff_toInt_lt] at hnegative
      simpa using hnegative

theorem readByteArray_settles (h : jni.Orderly pending) (array : Handle) (len : Nat) :
    Settles pending (readByteArray (jni.recorded Prod.mk) array len) fun bytes notes => ∃ m,
      (m, .getByteArrayRegion (some array) 0 (.ofNat len)) ∈ notes ∧
        bytes = ((jni.getByteArrayRegion (some array) 0 (.ofNat len) m).1).map Int8.toUInt8 := by
  intro known
  refine (ofChecked_settles (orException_settles h .getByteArrayRegion) known).bind ?_
  rintro (e | bytes)
  · exact .pure fun _ hs => ⟨hs.1, nofun⟩
  · refine .pure fun s hs => ⟨hs.1, fun a ha => ?_⟩
    obtain ⟨m, hm, hanswer⟩ := hs.2 _ rfl
    obtain rfl := Except.ok.inj ha
    exact ⟨m, hm, by rw [hanswer]⟩

theorem newByteArray_settles (h : jni.Orderly pending) (len : Nat) :
    Settles pending (newByteArray (jni.recorded Prod.mk) len) fun _ _ => True := by
  rw [newByteArray]
  split
  · exact ofChecked_settles (orNull_settles h .newByteArray)
  · exact .throw rfl

theorem writeByteArray_settles (h : jni.Orderly pending) (array : Handle) (bytes : List UInt8) :
    Settles pending (writeByteArray (jni.recorded Prod.mk) array bytes) fun _ _ => True :=
  ofChecked_settles ((orException_settles h .setByteArrayRegion).mono fun _ _ _ => trivial)

/-- A new string is not null. -/
theorem newString_settles (h : jni.Orderly pending) (caps : Capabilities) (array : Handle) :
    Settles pending (newString (jni.recorded Prod.mk) caps array)
      fun string _ => string.isSome = true :=
  (ofChecked_settles (orNull_settles h .newObject)).bind fun _ => .pure fun _ => rfl

end Context

section Conversions

open Process

variable {pending : μ → Bool} {known : List (Note μ)} {vm : InvocationInterface μ ε} {t : ThreadId}
  {c : Context ε}

/-- The buffer is made of an array in its full length, both as the machine answered them. -/
def CopiedFrom (jni : NativeInterface μ) (array : Handle) (buffer : ByteBuffer)
    (notes : List (Note μ)) : Prop :=
  ∃ m n, ∃ len : Nat, (m, .getArrayLength (some array)) ∈ notes ∧
    (jni.getArrayLength (some array) m).1.toInt = len ∧
    (n, .getByteArrayRegion (some array) 0 (.ofNat len)) ∈ notes ∧
    buffer = .filled len
      (((jni.getByteArrayRegion (some array) 0 (.ofNat len) n).1).map Int8.toUInt8)

/-- The buffer is made of the array that the machine gave for the string. -/
def CopiedOut (jni : NativeInterface μ) (string : Ref) (buffer : ByteBuffer)
    (notes : List (Note μ)) : Prop :=
  ∃ method args m array, (m, .callObjectMethod string method args) ∈ notes ∧
    (jni.callObjectMethod string method args m).1 = some array ∧
      CopiedFrom jni array buffer notes

theorem copyOut_settles (h : (vm.functions c.env).Orderly pending) (array : Handle) :
    (Marshal.copyOut (context (vm.recorded Prod.mk) t c) array).Returns
      (fun p => Poised pending known false p.link)
      fun r p => Settled pending known (CopiedFrom (vm.functions c.env) array) r p.link := by
  have hlen := Call.Returns.zoom_part lawful_linkPlace (Context.byteArrayLen_settles h array known)
  refine hlen.bind ?_
  rintro (e | len)
  · exact .pure fun _ hs => ⟨hs.1.of_eq (raised_ofRuntime _ _ e), nofun⟩
  · rintro s ⟨hs, hlen⟩
    obtain ⟨m, hm, hlen⟩ := hlen len rfl
    by_cases fits : ByteBuffer.fits len = true
    · simp only [if_pos fits]
      have hread := Call.Returns.zoom_part lawful_linkPlace (Context.readByteArray_settles h array
        len ((m, .getArrayLength (some array)) :: known))
      refine (hread.bind ?_) s (hs.cons hm)
      rintro (e | bytes)
      · exact .pure fun _ hs => ⟨hs.1.tail.of_eq (raised_ofRuntime _ _ e), nofun⟩
      · refine .pure fun s hs => ⟨hs.1.tail, fun buffer hbuffer => ?_⟩
        obtain ⟨n, hn, rfl⟩ := hs.2 _ rfl
        exact ⟨m, n, len, hs.1.head, hlen, hn, (Except.ok.inj hbuffer).symm⟩
    · simp only [if_neg fits]
      exact ⟨_, s, rfl, hs, nofun⟩

theorem releaseBytes_keeps (h : (vm.functions c.env).Orderly pending) (array : Handle)
    (thrown : Bool) :
    ((context (vm.recorded Prod.mk) t c).releaseBytes array).Returns
      (fun p => Poised pending known thrown p.link) fun _ p => Poised pending known thrown p.link :=
  Call.Returns.zoom_part lawful_linkPlace (Context.dropLocal_keeps h (some array) known thrown)

theorem toNative_settles (h : (vm.functions c.env).Orderly pending) (caps : Capabilities)
    (string : Ref) :
    (Marshal.toNative (context (vm.recorded Prod.mk) t c) caps (some string)).Returns
      (fun p => Poised pending known false p.link)
      fun r p => Settled pending known (fun buffer? notes => ∃ buffer, buffer? = some buffer ∧
        CopiedOut (vm.functions c.env) string buffer notes) r p.link := by
  have hbytes := Call.Returns.zoom_part lawful_linkPlace
    (Context.stringBytes_settles h caps string known)
  refine (Call.Returns.monadLift hbytes).bind ?_
  rintro (e | array)
  · exact .pure fun _ hw => ⟨hw.1.of_eq (raised_ofRuntime _ _ e), nofun⟩
  · rintro w ⟨hw, harray⟩
    obtain ⟨k, hk, harray⟩ := harray array rfl
    refine ((copyOut_settles h array).monadLift.bind ?_) w (hw.cons hk)
    rintro (e | buffer)
    · rintro w ⟨hw, -⟩
      refine ((releaseBytes_keeps h array _).monadLift.bind fun _ => ?_) w hw
      exact .pure fun _ hw => ⟨hw.tail, nofun⟩
    · rintro w ⟨hw, hcopied⟩
      obtain ⟨m, n, len, hm, hlen, hn, hbuffer⟩ := hcopied buffer rfl
      have hknown := (hw.cons hn).cons hm
      refine ((releaseBytes_keeps h array _).monadLift.bind fun _ => ?_) w hknown
      refine fun w hw => ⟨.ok (some buffer), _, rfl, hw.tail.tail.tail, fun _ hbuffer? => ?_⟩
      exact ⟨buffer, (Except.ok.inj hbuffer?).symm, _, _, k, array, hw.tail.tail.head, harray,
        m, n, len, hw.head, hlen, hw.tail.head, hbuffer⟩

theorem construct_settles (h : (vm.functions c.env).Orderly pending) (caps : Capabilities)
    (array : Handle) (bytes : List UInt8) :
    (Marshal.construct (context (vm.recorded Prod.mk) t c) caps array bytes).Returns
      (fun p => Poised pending known false p.link)
      fun r p => Settled pending known (fun string _ => string.isSome = true) r p.link := by
  have hwritten := Call.Returns.zoom_part lawful_linkPlace
    (Context.writeByteArray_settles h array bytes known)
  refine hwritten.bind ?_
  rintro (e | _)
  · exact .pure fun _ hs => ⟨hs.1.of_eq (raised_ofRuntime _ _ e), nofun⟩
  · have hbuilt := Call.Returns.zoom_part lawful_linkPlace
      (Context.newString_settles h caps array known)
    refine fun s hs => (hbuilt.bind ?_) s hs.1
    rintro (e | string)
    · exact .pure fun _ hs => ⟨hs.1.of_eq (raised_ofRuntime _ _ e), nofun⟩
    · exact .pure fun _ hs => ⟨hs.1, fun a ha => Except.ok.inj ha ▸ hs.2 string rfl⟩

theorem toManaged_settles (h : (vm.functions c.env).Orderly pending) (caps : Capabilities)
    (bytes : List UInt8) :
    (Marshal.toManaged (context (vm.recorded Prod.mk) t c) caps (some bytes)).Returns
      (fun p => Poised pending known false p.link)
      fun r p => Settled pending known (fun string? _ => ∃ string, string? = some string ∧
        string.isSome = true) r p.link := by
  have harray := Call.Returns.zoom_part lawful_linkPlace
    (Context.newByteArray_settles h bytes.length known)
  refine (Call.Returns.monadLift harray).bind ?_
  rintro (e | array)
  · exact .pure fun _ hw => ⟨hw.1.of_eq (raised_ofRuntime _ _ e), nofun⟩
  · refine fun w hw => ((construct_settles h caps array bytes).monadLift.bind ?_) w hw.1
    rintro (e | string)
    · rintro w ⟨hw, -⟩
      refine ((releaseBytes_keeps h array _).monadLift.bind fun _ => ?_) w hw
      exact .pure fun _ hw => ⟨hw, nofun⟩
    · rintro w ⟨hw, hstring⟩
      refine ((releaseBytes_keeps h array _).monadLift.bind fun _ => ?_) w hw
      refine fun w hw => ⟨.ok (some string), _, rfl, hw, fun _ hstring? => ?_⟩
      exact ⟨string, (Except.ok.inj hstring?).symm, hstring string rfl⟩

/-- What is read in the process makes no difference to the machine. -/
theorem read_poised (place : Place (NotedProcess μ) α) :
    (Call.read place).Returns (fun p => Poised pending known false p.link)
      fun _ p => Poised pending known false p.link :=
  Call.returns_read place

theorem nativeFromManaged_settles (h : (vm.functions c.env).Orderly pending) (string : Handle) :
    (Process.nativeFromManaged (vm.recorded Prod.mk) t c (some string)).Returns
      (fun p => Poised pending known false p.link)
      fun r p => Settled pending known (fun buffer? notes => ∃ buffer, buffer? = some buffer ∧
        CopiedOut (vm.functions c.env) (some string) buffer notes) r p.link := by
  refine (read_poised bridgePlace).monadLift.bind ?_
  rintro ⟨registry, ⟨_ | caps⟩⟩
  · exact .pure fun _ hw => ⟨hw, nofun⟩
  · exact toNative_settles h caps (some string)

theorem managedFromNative_settles (h : (vm.functions c.env).Orderly pending)
    (bytes : List UInt8) :
    (Process.managedFromNative (vm.recorded Prod.mk) t c (some bytes)).Returns
      (fun p => Poised pending known false p.link)
      fun r p => Settled pending known (fun string _ => string.isSome = true) r p.link := by
  have hbuilt : (Bridge.managedFromNative bridgePlace (context (vm.recorded Prod.mk) t c)
      (some bytes)).Returns (fun p => Poised pending known false p.link)
        fun r p => Settled pending known (fun string? _ => ∃ string, string? = some string ∧
          string.isSome = true) r p.link := by
    refine (read_poised bridgePlace).monadLift.bind ?_
    rintro ⟨registry, ⟨_ | caps⟩⟩
    · exact .pure fun _ hw => ⟨hw, nofun⟩
    · exact toManaged_settles h caps bytes
  refine hbuilt.bind ?_
  rintro (e | string?)
  · exact .pure fun _ hw => ⟨hw.1, nofun⟩
  · refine .pure fun w hw => ⟨hw.1, fun _ ha => ?_⟩
    obtain ⟨string, rfl, hstring⟩ := hw.2 string? rfl
    exact Except.ok.inj ha ▸ hstring

/-- The cache stores what was resolved, if it has nothing by then. -/
theorem fill_settles (hvm : vm.Orderly t pending) (h : (vm.functions c.env).Orderly pending) :
    (CapabilityCache.fill (bridgePlace.inside Bridge.cachePlace)
      (context (vm.recorded Prod.mk) t c)).Returns (fun p => Poised pending known false p.link)
      fun r p => Settled pending known (fun _ _ => True) r p.link := by
  refine (read_poised _).bind ?_
  rintro ⟨_ | caps⟩
  · have hresolved := Call.Returns.zoom_part lawful_linkPlace
      (Context.resolve_settles hvm h known)
    refine Routine.Returns.bind hresolved ?_
    rintro (e | caps)
    · exact .pure fun _ hs => ⟨hs.1.of_eq (raised_ofRuntime _ _ e), nofun⟩
    · rintro ⟨⟨link, ⟨registry, ⟨_ | caps'⟩⟩, settings⟩, log⟩ ⟨hs, -⟩
      · exact ⟨.ok (), _, rfl, hs, fun _ _ => trivial⟩
      · exact ⟨_, _, rfl, hs, nofun⟩
  · exact .pure fun _ hs => ⟨hs, nofun⟩

end Conversions

/-- Begun with no exception pending and nothing noted down, the operation returns. It has called
functions with an exception pending only if they may be called then, and leaves one pending exactly
if it reports that. A proper result is what `Q` says. -/
def Disciplined (pending : μ → Bool)
    (act : Act (NotedProcess μ) (Except BridgeError α))
    (Q : α → List (Note μ) → Prop) : Prop :=
  ∀ w, pending w.backend.link.machine.1 = false → w.backend.link.machine.2 = [] →
    ∃ r v, act.run w = (.ok r, v) ∧
      (∀ note ∈ v.backend.link.machine.2, Allowed pending note) ∧
      (pending v.backend.link.machine.1 = true ↔ ∃ op, r = .error (.pendingException op)) ∧
      ∀ a, r = .ok a → pending v.backend.link.machine.1 = false ∧ Q a v.backend.link.machine.2

theorem disciplined_of_settled {pending : μ → Bool}
    {act : Act (NotedProcess μ) (Except BridgeError α)}
    {Q : α → List (Note μ) → Prop}
    (h : act.Returns (fun p => Poised pending [] false p.link)
      fun r p => Settled pending [] Q r p.link) : Disciplined pending act Q := by
  intro w hquiet hnone
  have hw : Poised pending [] false w.backend.link :=
    ⟨hquiet, by rw [hnone]; nofun, nofun⟩
  obtain ⟨r, v, hrun, hv, hresult⟩ := h w hw
  refine ⟨r, v, hrun, hv.allowed, ?_, fun a ha => ⟨?_, hresult a ha⟩⟩
  · rw [hv.pending_eq, raisedIn_eq_true_iff]
  · rw [hv.pending_eq, ha]
    rfl

/-- Conversions and the resolution of capabilities keep the discipline. A new string is not null,
and a buffer is made of the whole array of its string. -/
theorem conversions_disciplined {pending : μ → Bool} {vm : InvocationInterface μ ε} {t : ThreadId}
    {c : Context ε} (hvm : vm.Orderly t pending) (hjni : (vm.functions c.env).Orderly pending) :
    (∀ bytes, Disciplined pending
      (Process.managedFromNative (vm.recorded Prod.mk) t c (some bytes))
      fun string _ => string ≠ none) ∧
    (∀ string, Disciplined pending
      (Process.nativeFromManaged (vm.recorded Prod.mk) t c (some string))
      fun buffer? notes => ∃ buffer, buffer? = some buffer ∧
        CopiedOut (vm.functions c.env) (some string) buffer notes) ∧
    Disciplined pending
      (CapabilityCache.fill (Process.bridgePlace.inside Bridge.cachePlace)
        (Process.context (vm.recorded Prod.mk) t c)).inWorld
      fun _ _ => True := by
  refine ⟨fun bytes => ?_, fun string => ?_, ?_⟩
  · refine disciplined_of_settled ((managedFromNative_settles hjni bytes).mono fun r w hw => ?_)
    exact ⟨hw.1, fun a ha => Option.isSome_iff_ne_none.mp (hw.2 a ha)⟩
  · exact disciplined_of_settled (nativeFromManaged_settles hjni string)
  · exact disciplined_of_settled (fill_settles hvm hjni).monadLift

/-- A machine on which no array can be made; its state is whether an exception is pending. -/
def exhausted : InvocationInterface Bool Unit where
  getEnv _ := pure (0, some ())
  attachCurrentThread _ := pure (0, some ())
  detachCurrentThread _ := pure ()
  functions _ :=
    { provides := fun _ => true
      findClass := fun _ => pure (some 1)
      getMethodId := fun _ _ _ => pure (some 1)
      getStaticMethodId := fun _ _ _ => pure (some 1)
      newStringUtf := fun _ => pure (some 1)
      callStaticObjectMethod := fun _ _ _ => pure (some 1)
      callObjectMethod := fun _ _ _ => pure (some 1)
      newObject := fun _ _ _ => pure (some 1)
      newByteArray := fun _ _ => (none, true)
      getArrayLength := fun _ => pure 0
      getByteArrayRegion := fun _ _ _ => pure []
      setByteArrayRegion := fun _ _ _ _ => pure ()
      newGlobalRef := pure
      deleteGlobalRef := fun _ => pure ()
      deleteLocalRef := fun _ => pure ()
      getObjectClass := fun _ => pure (some 1)
      isAssignableFrom := fun _ _ => pure true
      getStringUtfChars := fun _ => pure (some "")
      releaseStringUtfChars := fun _ => pure ()
      exceptionCheck := get
      exceptionOccurred := pure (some 1)
      exceptionDescribe := set false
      exceptionClear := set false
      getJavaVm := pure (0, some 1) }

/-- A process whose bridge was started on that machine. -/
def exhaustedProcess : Process (Bool × List (Note Bool)) where
  link := ⟨(false, []), []⟩
  bridge := ⟨⟨some ⟨1, {}⟩⟩, ⟨some ⟨some 1, some 1, 1, 1⟩⟩⟩

theorem conversions_disciplined_exhausted : ∃ op, ∃ v : World (Process (Bool × List (Note Bool))),
    (Process.managedFromNative (exhausted.recorded Prod.mk) (.worker 0) ⟨(), {}⟩
      (some [104, 105])).run ⟨⟨exhaustedProcess, []⟩, .zero⟩ =
        (.ok (.error (.pendingException op)), v) ∧
      v.backend.link.machine.1 = true ∧ ∀ note ∈ v.backend.link.machine.2, Allowed id note := by
  have hjni : (exhausted.functions ()).Orderly id :=
    ⟨rfl, fun _ => rfl, fun _ => rfl, fun _ _ => rfl, fun _ _ => rfl, fun _ _ => id,
      fun _ _ => id, fun _ => id⟩
  have hvm : exhausted.Orderly (.worker 0) id :=
    ⟨fun _ => id, fun _ _ _ => hjni, fun _ => id, fun _ _ _ => hjni, fun _ => id⟩
  obtain ⟨r, v, hrun, hallowed, -, -⟩ :=
    (conversions_disciplined (c := ⟨(), {}⟩) hvm hjni).1 [104, 105]
      ⟨⟨exhaustedProcess, []⟩, .zero⟩ rfl rfl
  cases hrun
  exact ⟨_, _, rfl, rfl, hallowed⟩

end ManagedBridge.Jvm
