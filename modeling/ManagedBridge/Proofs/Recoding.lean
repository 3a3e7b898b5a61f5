import ManagedBridge.Proofs.Carrying
import ManagedBridge.Proofs.Charset
import ManagedBridge.Proofs.EntryPoints
import ManagedBridge.Proofs.Resolution
import ManagedBridge.Proofs.Simulation

/-!
# Bytes through a virtual machine and back

The context of an attached thread carries strings across, for the charset that was resolved when the
bridge was started: what the context itself is set to makes no difference. Bytes that go in and out
again come back as what they are encoded to after they were decoded, unless a function of the
machine fails.
-/

namespace ManagedBridge.Jvm

open Text

variable {μ ε χ α : Type} {vm : InvocationInterface μ ε} {R : Reading μ ε χ} {C : Charsets χ}
  {t : ThreadId} {c : Context ε} {stringClass : String} {cs : χ} {caps : Capabilities}

/-- A call that ends does so with what success gives, or with an error that a failure is behind. -/
theorem Ends.orFailed {y : Mapped μ α} {s : Site (Link μ)} {failed : Link μ → Prop}
    {Q : Except RuntimeError α → Link μ → Prop} (h : Ends y)
    (succeeds : ∀ a u, Succeeds y s a u → Q (.ok a) u.backend)
    (refused : ∀ u, Refused y s u → failed u.backend) :
    ∃ r u, y.run.run s = (.ok r, u) ∧ OrFailed failed Q r u.backend := by
  obtain ⟨r, u, hrun, ⟨a, rfl, hsucceeds⟩ | ⟨⟨e, rfl⟩, hrefused⟩⟩ := h.succeeds_or_refused s
  · exact ⟨_, u, hrun, .inr (succeeds a u hsucceeds)⟩
  · exact ⟨_, u, hrun, .inl ⟨⟨e, rfl⟩, refused u hrefused⟩⟩

namespace Context

/-- What conversions through a context rest on. -/
abbrev footing (c : Context ε) (t : ThreadId) (stringClass : String) (cs : χ)
    (caps : Capabilities) : Footing ε χ :=
  ⟨t, c.env, stringClass, cs, caps⟩

/-- What is so of a link stays so where attachments stay as they are, if no exception is pending
afterwards or as it was before. -/
def Lasts (R : Reading μ ε χ) (env : ε) (rest : Link μ → Prop) : Prop :=
  ∀ {lost} {s u : Site (Link μ)}, rest s.backend → Kept R env lost s u →
    (R.pending u.backend.machine env = false ∨
      R.pending u.backend.machine env = R.pending s.backend.machine env) → rest u.backend

theorem Lasts.calm {rest : Link μ → Prop} {env : ε} (h : Lasts R env rest)
    {lost : Ref → Referent χ → Prop} {s u : Site (Link μ)} (hs : rest s.backend)
    (hcalm : Calm R env lost s u) : rest u.backend :=
  h hs hcalm.toKept (.inl hcalm.quiet)

/-- A context of a faithful machine carries strings across, whatever its settings are, and what
lasts is so until something fails. -/
theorem operations_carries_while (rest : Link (μ × List (Note μ)) → Prop)
    (faithful : (vm.functions c.env).Faithful R C stringClass c.env)
    (lasts : Lasts R.noted c.env rest) :
    (c.operations (vm.recorded Prod.mk) t).Carries caps (C.encode cs) (C.decode cs)
      (· ≤ maxArrayLen) (Failed vm R t)
      (fun known l => Idle R.noted (c.footing t stringClass cs caps) known l.machine ∧ rest l)
      fun known array bytes l =>
        Holds R.noted (c.footing t stringClass cs caps) known array bytes l.machine ∧ rest l where
  stringBytes hmem _ hs := (stringBytes_ends _ _ _).orFailed
    (fun array _ h =>
      have ⟨hholds, hcalm⟩ := stringBytes_succeeds (faithful.recorded _) hmem hs.1 h
      ⟨array, rfl, hholds, lasts.calm hs.2 hcalm⟩)
    fun _ h => stringBytes_refused faithful hmem hs.1 h
  newByteArray _ _ fits _ hs := (newByteArray_ends _ _).orFailed
    (fun array _ h =>
      have ⟨hholds, hcalm⟩ := newByteArray_succeeds (faithful.recorded _) hs.1 h
      ⟨array, rfl, hholds, lasts.calm hs.2 hcalm⟩)
    fun _ h => newByteArray_refused faithful fits hs.1 h
  byteArrayLen _ _ _ _ hs := (byteArrayLen_ends _ _).orFailed
    (fun _ _ h =>
      have ⟨hlen, hholds, hkept, hsame⟩ := byteArrayLen_succeeds (faithful.recorded _) hs.1 h
      ⟨congrArg _ hlen, hholds, lasts hs.2 hkept (.inr hsame)⟩)
    fun _ h => (not_refused_byteArrayLen (faithful.recorded _) hs.1 h).elim
  readByteArray _ _ _ _ hs := (readByteArray_ends _ _ _).orFailed
    (fun _ _ h =>
      have ⟨hread, hholds, hcalm⟩ := readByteArray_succeeds (faithful.recorded _) hs.1 h
      ⟨congrArg _ hread, hholds, lasts.calm hs.2 hcalm⟩)
    fun _ h => readByteArray_refused faithful hs.1.toIdle h
  writeByteArray _ _ _ _ same _ hs := (writeByteArray_ends _ _ _).orFailed
    (fun _ _ h =>
      have ⟨hholds, hcalm⟩ := writeByteArray_succeeds (faithful.recorded _) same hs.1 h
      ⟨rfl, hholds, lasts.calm hs.2 hcalm⟩)
    fun _ h => writeByteArray_refused faithful hs.1.toIdle h
  newString _ _ _ _ hs := (newString_ends _ _ _).orFailed
    (fun string _ h =>
      have ⟨hholds, hcalm⟩ := newString_succeeds (faithful.recorded _) hs.1 h
      ⟨string, rfl, hholds, lasts.calm hs.2 hcalm⟩)
    fun _ h => newString_refused faithful hs.1.toIdle h
  releaseBytes _ array _ s hs :=
    have released := dropLocal_run (faithful.recorded Prod.mk) (some array) s
    have ⟨hidle, hkept, hsame⟩ := releaseBytes_run (faithful.recorded _) hs.1 released
    ⟨(), _, released, hidle, lasts hs.2 hkept (.inr hsame)⟩
  releaseFailed array s hs :=
    ⟨(), _, dropLocal_run (faithful.recorded Prod.mk) (some array) s,
      hs.after (.deleteLocalRef _) _⟩
  fits hs := hs.1.fits

theorem operations_carries
    (faithful : (vm.functions c.env).Faithful R C stringClass c.env) :
    (c.operations (vm.recorded Prod.mk) t).Carries caps (C.encode cs) (C.decode cs)
      (· ≤ maxArrayLen) (Failed vm R t)
      (fun known l => Idle R.noted (c.footing t stringClass cs caps) known l.machine)
      fun known array bytes l =>
        Holds R.noted (c.footing t stringClass cs caps) known array bytes l.machine := by
  simpa only [and_true] using
    operations_carries_while (t := t) (fun _ => True) faithful fun _ _ _ => trivial

end Context

namespace Process

/-- What is said of the link to the machine, and the rest of the process is as in `whole`. -/
def OnLink (whole : Process μ) (P : Link μ → Prop) (p : Process μ) : Prop :=
  P (linkPlace.get p) ∧ ∃ link, p = linkPlace.set link whole

theorem OnLink.bridge_eq {whole p : Process μ} {P : Link μ → Prop} (h : OnLink whole P p) :
    p.bridge = whole.bridge := by
  obtain ⟨-, link, rfl⟩ := h
  rfl

theorem context_carries (faithful : (vm.functions c.env).Faithful R C stringClass c.env)
    (whole : NotedProcess μ) :
    (context (vm.recorded Prod.mk) t c).Carries caps (C.encode cs) (C.decode cs)
      (· ≤ Context.maxArrayLen) (OnLink whole (Failed vm R t))
      (fun known => OnLink whole fun l =>
        Idle R.noted (c.footing t stringClass cs caps) known l.machine)
      fun known array bytes => OnLink whole fun l =>
        Holds R.noted (c.footing t stringClass cs caps) known array bytes l.machine :=
  (Context.operations_carries faithful).zoom lawful_linkPlace whole

variable {whole : NotedProcess μ} {known : Known}

theorem managedFromNative_orFailed
    (faithful : (vm.functions c.env).Faithful R C stringClass c.env)
    (hcaps : whole.bridge.capabilities = .ok caps) {bytes : List UInt8}
    (fits : bytes.length ≤ Context.maxArrayLen) :
    (managedFromNative (vm.recorded Prod.mk) t c (some bytes)).Returns
      (OnLink whole fun l => Idle R.noted (c.footing t stringClass cs caps) known l.machine)
      (OrFailed (OnLink whole (Failed vm R t)) fun r p => ∃ string, r = .ok string ∧
        OnLink whole (fun l => Idle R.noted (c.footing t stringClass cs caps)
          ((string, C.decode cs bytes) :: known) l.machine) p) := by
  have hread (p : NotedProcess μ) (hp : OnLink whole (fun l =>
      Idle R.noted (c.footing t stringClass cs caps) known l.machine) p) :
      (bridgePlace.get p).capabilities = .ok caps :=
    (congrArg Bridge.capabilities hp.bridge_eq).trans hcaps
  refine ((context_carries faithful whole).managedFromNative hread fits).bind fun r => ?_
  rintro w (⟨⟨e, rfl⟩, hw⟩ | ⟨string, rfl, hw⟩)
  · exact ⟨_, w, rfl, .inl ⟨⟨_, rfl⟩, hw⟩⟩
  · exact ⟨_, w, rfl, .inr ⟨string, rfl, hw⟩⟩

theorem nativeFromManaged_orFailed
    (faithful : (vm.functions c.env).Faithful R C stringClass c.env)
    (hcaps : whole.bridge.capabilities = .ok caps) {string : Ref} {units : List UInt16}
    (hmem : (string, units) ∈ known) :
    (nativeFromManaged (vm.recorded Prod.mk) t c string).Returns
      (OnLink whole fun l => Idle R.noted (c.footing t stringClass cs caps) known l.machine)
      (OrFailed (OnLink whole (Failed vm R t)) fun r p =>
        r = (copied (C.encode cs units)).map some ∧
          (C.encode cs units).length ≤ Context.maxArrayLen ∧ OnLink whole (fun l =>
            Idle R.noted (c.footing t stringClass cs caps) known l.machine) p) := by
  have hread (p : NotedProcess μ) (hp : OnLink whole (fun l =>
      Idle R.noted (c.footing t stringClass cs caps) known l.machine) p) :
      (bridgePlace.get p).capabilities = .ok caps :=
    (congrArg Bridge.capabilities hp.bridge_eq).trans hcaps
  intro w hw
  obtain ⟨hsome, -⟩ := hw.1.strings string units hmem
  obtain ⟨handle, rfl⟩ := Option.isSome_iff_exists.mp hsome
  exact (context_carries faithful whole).nativeFromManaged hread hmem w hw

/-- Brings bytes into the machine and copies the string out again. -/
def roundTrip (vm : InvocationInterface μ ε) (t : ThreadId) (c : Context ε) (bytes : List UInt8) :
    Act (Process μ) (Except BridgeError (Option ByteBuffer)) := do
  match ← managedFromNative vm t c (some bytes) with
  | .error e => return .error e
  | .ok string => nativeFromManaged vm t c string

theorem roundTrip_orFailed (faithful : (vm.functions c.env).Faithful R C stringClass c.env)
    (hcaps : whole.bridge.capabilities = .ok caps) {bytes : List UInt8}
    (fits : bytes.length ≤ Context.maxArrayLen) :
    (roundTrip (vm.recorded Prod.mk) t c bytes).Returns
      (OnLink whole fun l => Idle R.noted (c.footing t stringClass cs caps) known l.machine)
      (OrFailed (OnLink whole (Failed vm R t)) fun r _ =>
        r = .ok (some (.ofBytes (C.encode cs (C.decode cs bytes))))) := by
  refine (managedFromNative_orFailed faithful hcaps fits).bind fun r => ?_
  rintro w (⟨⟨e, rfl⟩, hw⟩ | ⟨string, rfl, hw⟩)
  · exact ⟨_, w, rfl, .inl ⟨⟨_, rfl⟩, hw⟩⟩
  · refine (nativeFromManaged_orFailed faithful hcaps (.head _)).mono ?_ w hw
    refine fun r v h => h.imp fun ⟨hr, hlen, _⟩ => ?_
    have hfits : ByteBuffer.fits (C.encode cs (C.decode cs bytes)).length = true :=
      ByteBuffer.fits_of_lt (Nat.lt_of_le_of_lt hlen (by decide))
    rw [hr, copied, if_pos hfits]
    rfl

end Process

/-- What lasts from one state of a machine to a later one: the global references, which are given
back by nobody but the bridge, and the methods. -/
structure Reading.Endures (R : Reading μ ε χ) (m m' : μ) : Prop where
  pinned : ∀ {ref o}, R.Pinned m ref o → R.Pinned m' ref o
  method : ∀ {id key}, R.method m id key → R.method m' id key

/-- What bytes come back as through a charset. ISO-8859-1 brings back all bytes, and UTF-8 those
that are well-formed. -/
structure Recoded (C : Charsets χ) (cs : χ) (bytes content : List UInt8) : Prop where
  same : content = C.encode cs (C.decode cs bytes)
  latin1 : C.decode cs = Charset.latin1.decode → C.encode cs = Charset.latin1.encode →
    content = bytes
  utf8 : C.decode cs = Charset.utf8.decode → C.encode cs = Charset.utf8.encode →
    (content = bytes ↔ Utf8.WellFormed bytes)

theorem recoded_encode_decode (C : Charsets χ) (cs : χ) (bytes : List UInt8) :
    Recoded C cs bytes (C.encode cs (C.decode cs bytes)) where
  same := rfl
  latin1 hdecode hencode := by rw [hdecode, hencode, Charset.encode_decode_latin1]
  utf8 hdecode hencode := by rw [hdecode, hencode, Charset.encode_decode_utf8_eq_iff]

/-- A start that succeeds has resolved the capabilities that the bridge holds from then on. -/
theorem Process.start_resolves {t : ThreadId} {pointer : VmPointer} {env : ε}
    {config : BridgeConfig} {s u : Site (Process μ)} (hempty : s.backend.bridge = {})
    (started : (Process.start vm t pointer env config).run s = (.ok (.ok ()), u)) :
    ∃ caps left, Succeeds ((⟨env, config⟩ : Context ε).resolve vm t) (linkPlace.site.get s) caps
      left ∧ u.backend.link = left.backend ∧ u.backend.bridge.capabilities = .ok caps := by
  obtain ⟨r, left, hresolve, -⟩ :=
    Context.resolve_ends vm t ⟨env, config⟩ (linkPlace.site.get s) trivial
  have hzoom : (context vm t ⟨env, config⟩).resolveCapabilities.run s =
      (.ok r, linkPlace.site.set left s) := by
    have halone : ((⟨env, config⟩ : Context ε).operations vm t).resolveCapabilities.run
        (linkPlace.site.get s) = (.ok r, left) := hresolve
    refine (Call.run_zoom lawful_linkPlace _ s).trans ?_
    rw [halone]
  cases r with
  | error e =>
    have hstart := Bridge.run_start_refused bridgePlace ⟨pointer, config⟩
      (context vm t ⟨env, config⟩) hempty hzoom
    cases (Routine.run_bind_ok hstart _).symm.trans started
  | ok caps =>
    have hstart := Bridge.run_start_ok bridgePlace ⟨pointer, config⟩
      (context vm t ⟨env, config⟩) lawful_bridgePlace hempty hzoom hempty
    cases (Routine.run_bind_ok hstart _).symm.trans started
    exact ⟨caps, left, hresolve, rfl, rfl⟩

/-- A bridge that was started with a charset and no failure brings bytes through the machine and
back in that charset, on every attached thread and for a context with any settings: if no function
of the machine fails, the bytes come back recoded. -/
theorem roundTrip_recodes {t₀ : ThreadId} {pointer : VmPointer} {env₀ : ε} {config : BridgeConfig}
    (faithful : ∀ env, (vm.functions env).Faithful R C config.stringClass env)
    {s u : Site (NotedProcess μ)} (hempty : s.backend.bridge = {})
    (hsound : R.callable s.backend.link.machine.1 env₀)
    (hcurrent : R.environment s.backend.link.machine.1 t₀ = some env₀)
    (started : (Process.start (vm.recorded Prod.mk) t₀ pointer env₀ config).run s =
      (.ok (.ok ()), u))
    (calm : ¬ Failed vm R t₀ u.backend.link) :
    ∃ cs, C.named config.charset = some cs ∧
      ∀ (t : ThreadId) (c : Context ε) (bytes : List UInt8) (w : World (NotedProcess μ)),
        w.backend.bridge = u.backend.bridge →
        R.Endures u.backend.link.machine.1 w.backend.link.machine.1 →
        R.environment w.backend.link.machine.1 t = some c.env →
        R.callable w.backend.link.machine.1 c.env → bytes.length ≤ Context.maxArrayLen →
        ∃ r v, (Process.roundTrip (vm.recorded Prod.mk) t c bytes).run w = (.ok r, v) ∧
          ((∀ note ∈ v.backend.link.machine.2, vm.fails R t note = false) →
            ∃ buffer, r = .ok (some buffer) ∧ Recoded C cs bytes buffer.content) := by
  obtain ⟨caps, left, hresolve, hlink, hcaps⟩ := Process.start_resolves hempty started
  rw [hlink] at calm ⊢
  obtain ⟨hclass, hcharset⟩ := resolve_pinned (faithful env₀) hsound hcurrent hresolve calm
  obtain ⟨cs, hnamed, hresolved⟩ :=
    resolve_succeeds ((faithful env₀).recorded Prod.mk) hsound hresolve hclass hcharset
  refine ⟨cs, hnamed, fun t c bytes w hbridge hendures hattached hcallable fits => ?_⟩
  have hidle : Idle R.noted (c.footing t config.stringClass cs caps) []
      w.backend.link.machine := by
    refine ⟨hcallable, hattached, ?_, nofun⟩
    exact
      { toClass := Reading.pinned_beside.mpr
          (hendures.pinned (Reading.pinned_beside.mp hresolved.toClass))
        toCharset := Reading.pinned_beside.mpr
          (hendures.pinned (Reading.pinned_beside.mp hresolved.toCharset))
        constructor := hendures.method hresolved.constructor
        getBytes := hendures.method hresolved.getBytes }
  have hcaps' : w.backend.bridge.capabilities = .ok caps := by rw [hbridge, hcaps]
  obtain ⟨r, v, hrun, ⟨-, failed⟩ | hr⟩ := Process.roundTrip_orFailed (faithful c.env)
    hcaps' fits w ⟨hidle, w.backend.link, rfl⟩
  · obtain ⟨note, hnoted, hfails⟩ := failed.1
    refine ⟨r, v, hrun, fun hnone => ?_⟩
    rw [hnone note hnoted] at hfails
    cases hfails
  · refine ⟨r, v, hrun, fun _ => ⟨_, hr, ?_⟩⟩
    rw [ByteBuffer.content_ofBytes]
    exact recoded_encode_decode C cs bytes

section Example

open Machine

/-- A process on a machine with two threads, before its bridge is started. -/
def twoThreads : Site (NotedProcess Machine) :=
  ⟨{ link := ⟨((Machine.attach {} (.worker 0)).attach (.worker 1), []), []⟩ }, []⟩

/-- One thread starts the bridge with ISO-8859-1. Another uses it with a context that is set to
UTF-8, for bytes that are not well-formed there. -/
theorem roundTrip_recodes_latin1 : ∃ u v buffer,
    (Process.start (boundedInvocation.recorded Prod.mk) (.worker 0) address (.worker 0)
      { charset := "ISO-8859-1" }).run twoThreads = (.ok (.ok ()), u) ∧
    (Process.roundTrip (boundedInvocation.recorded Prod.mk) (.worker 1) ⟨.worker 1, {}⟩
      [0x61, 0x80, 0xff]).run ⟨u, .zero⟩ = (.ok (.ok (some buffer)), v) ∧
    buffer.content = [0x61, 0x80, 0xff] := by
  obtain ⟨u, started, attached, callable, calm, v, r, hrun, calm'⟩ :
      ∃ u : Site (NotedProcess Machine),
        (Process.start (boundedInvocation.recorded Prod.mk) (.worker 0) address (.worker 0)
          { charset := "ISO-8859-1" }).run twoThreads = (.ok (.ok ()), u) ∧
        reading.environment u.backend.link.machine.1 (.worker 1) = some (.worker 1) ∧
        reading.callable u.backend.link.machine.1 (.worker 1) ∧
        (u.backend.link.machine.2.all
          (!boundedInvocation.fails reading (.worker 0) ·)) = true ∧
        ∃ v r, (Process.roundTrip (boundedInvocation.recorded Prod.mk) (.worker 1) ⟨.worker 1, {}⟩
          [0x61, 0x80, 0xff]).run ⟨u, .zero⟩ = (.ok r, v) ∧
          (v.backend.link.machine.2.all
            (!boundedInvocation.fails reading (.worker 1) ·)) = true := by
    refine ⟨_, rfl, rfl, ⟨rfl, rfl, ordered_of_entries ?_⟩, by rfl, _, _, rfl, by rfl⟩
    decide
  have hcallable : reading.callable twoThreads.backend.link.machine.1 (.worker 0) :=
    ⟨rfl, rfl, ordered_of_entries nofun⟩
  have hcalm : ¬ Failed boundedInvocation reading (.worker 0) u.backend.link := by
    rintro ⟨note, hnoted, hfails⟩
    simpa [hfails] using List.all_eq_true.mp calm note hnoted
  obtain ⟨cs, hnamed, hrecodes⟩ := roundTrip_recodes (boundedNatives_faithful _) rfl hcallable rfl
    started hcalm
  cases hnamed
  obtain ⟨r', v', hrun', hrecoded⟩ := hrecodes (.worker 1) ⟨.worker 1, {}⟩ [0x61, 0x80, 0xff]
    ⟨u, .zero⟩ rfl ⟨id, id⟩ attached callable (by decide)
  cases hrun.symm.trans hrun'
  obtain ⟨buffer, rfl, hcontent⟩ := hrecoded (by simpa using calm')
  exact ⟨u, v, buffer, started, hrun, hcontent.latin1 rfl rfl⟩

end Example

end ManagedBridge.Jvm
