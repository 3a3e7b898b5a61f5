import ManagedBridge.Proofs.Equivalence
import ManagedBridge.Proofs.Severity

/-!
# Strings for C code

C code marks the end of a string by a zero byte, and the bridge counts lengths. A string that goes
out to C is a block with its bytes and one zero behind them, whatever bytes it has; a string that
comes in ends in front of its first zero. Where the two meet in UTF-8, what came in without a zero
goes out without one, and is read again as a whole.
-/

namespace ManagedBridge

namespace Text.Utf8

/-- A repair brings in no bytes but those of the replacement character. -/
theorem Repairs.mem {bytes fixed : List UInt8} (h : Repairs bytes fixed) {b : UInt8}
    (hb : b ∈ fixed) : b ∈ bytes ∨ b ∈ ([0xef, 0xbf, 0xbd] : List UInt8) := by
  induction h with
  | nil => cases hb
  | keep _ _ ih =>
    rcases List.mem_append.mp hb with hb | hb
    · exact .inl (List.mem_append_left _ hb)
    · exact (ih hb).imp_left (List.mem_append_right _)
  | replace _ _ ih =>
    rcases List.mem_append.mp hb with hb | hb
    · exact .inr hb
    · exact (ih hb).imp_left (List.mem_append_right _)

theorem zero_notMem_repair {bytes : List UInt8} (h : 0 ∉ bytes) :
    0 ∉ encode (decodeLossy bytes) := by
  intro hzero
  rcases (repairs_iff.mpr rfl : Repairs bytes _).mem hzero with hmem | hmem
  · exact h hmem
  · simp at hmem

end Text.Utf8

/-- A string that is there gives a buffer, or an error. -/
theorem Marshal.isSome_of_toNative {σ κ ς β : Type} {ctx : CallContext σ κ ς β} {caps : κ}
    {string : ς} {buffer? : Option ByteBuffer} {w v : World σ}
    (h : (toNative ctx caps (some string)).run w = (.ok (.ok buffer?), v)) :
    buffer?.isSome = true := by
  obtain ⟨fetched, w₁, -, h⟩ := Routine.of_run_bind_ok h
  cases fetched with
  | error e => cases h
  | ok array =>
    obtain ⟨copied, w₂, -, h⟩ := Routine.of_run_bind_ok h
    obtain ⟨_, w₃, -, h⟩ := Routine.of_run_bind_ok h
    cases copied with
    | error e => cases h
    | ok buffer =>
      cases h
      rfl

theorem Bridge.isSome_of_nativeFromManaged {σ ρ κ ς β : Type} {place : Place σ (Bridge ρ κ)}
    {ctx : CallContext σ κ ς β} {string : ς} {buffer? : Option ByteBuffer} {w v : World σ}
    (h : (nativeFromManaged place ctx (some string)).run w = (.ok (.ok buffer?), v)) :
    buffer?.isSome = true := by
  obtain ⟨bridge, w₁, -, h⟩ := Routine.of_run_bind_ok h
  cases hcaps : bridge.capabilities with
  | error e =>
    rw [hcaps] at h
    cases h
  | ok caps =>
    rw [hcaps] at h
    exact Marshal.isSome_of_toNative h

namespace Jvm

open Text

/-- What a reader of C strings comes to in a block. It goes from byte to byte up to the first zero;
where there is none, it would go on past the end. -/
def scan : List UInt8 → Option (List UInt8)
  | [] => none
  | b :: rest => if b = 0 then some [] else (scan rest).map (b :: ·)

/-- In front of a zero byte a reader stays inside the block. -/
theorem scan_append_zero (bytes rest : List UInt8) :
    scan (bytes ++ 0 :: rest) = some (cStringView bytes) := by
  induction bytes with
  | nil => rfl
  | cons b bytes ih =>
    by_cases hzero : b = 0
    · simp [scan, cStringView, hzero]
    · simp [scan, cStringView, hzero, ih]

/-- What is in front of the first zero is seen as it is. -/
theorem cStringView_append {bytes : List UInt8} (h : 0 ∉ bytes) (rest : List UInt8) :
    cStringView (bytes ++ rest) = bytes ++ cStringView rest := by
  refine List.takeWhile_append_of_pos fun b hb => ?_
  simpa using fun hzero : b = 0 => h (hzero ▸ hb)

theorem cStringView_append_zero {bytes : List UInt8} (h : 0 ∉ bytes) (rest : List UInt8) :
    cStringView (bytes ++ 0 :: rest) = bytes := by
  rw [cStringView_append h]
  simp [cStringView]

theorem cStringView_eq_self {bytes : List UInt8} (h : 0 ∉ bytes) : cStringView bytes = bytes := by
  simpa [cStringView] using cStringView_append h []

/-- The block of some bytes: the bytes and one zero behind them, at which a reader stops unless it
has met a zero before. -/
structure Terminated (bytes block : List UInt8) : Prop where
  exact : block = bytes ++ [0]
  seen : scan block = some (cStringView bytes)

theorem terminated_append_zero (bytes : List UInt8) : Terminated bytes (bytes ++ [0]) :=
  ⟨rfl, scan_append_zero bytes []⟩

namespace Heap

/-- What becomes of a slot that is released: it is null, the block that it led to is no longer in
use, and nothing else has changed. A second release does nothing. -/
structure Released (heap : Heap) (slot : Pointer) (left : Heap) : Prop where
  done : CInterface.releaseString heap (some slot) = some (some none, left)
  freed : ∀ address, left address = if slot = some address then none else heap address
  again : CInterface.releaseString left (some none) = some (some none, left)

theorem released_null (heap : Heap) : Released heap none heap :=
  ⟨rfl, fun _ => by simp, rfl⟩

theorem released_block {heap : Heap} {address : Nat} {block : List UInt8}
    (inUse : heap address = some block) : Released heap (some address) (heap.set address none) where
  done := by simp [CInterface.releaseString, free, inUse]
  freed other := by simp [set, eq_comm]
  again := rfl

/-- A slot can be released if it is null or leads to a block that is in use. -/
theorem exists_released (heap : Heap) (slot : Pointer)
    (inUse : ∀ address, slot = some address → (heap address).isSome = true) :
    ∃ left, Released heap slot left := by
  cases slot with
  | none => exact ⟨heap, released_null heap⟩
  | some address =>
    obtain ⟨block, hblock⟩ := Option.isSome_iff_exists.mp (inUse address rfl)
    exact ⟨_, released_block hblock⟩

/-- What C code has of an answer that was handed over: a pointer that leads to it, beside the blocks
that were there before. Releasing it leaves the memory as it was. -/
structure Handed (heap : Heap) (answer : Option (List UInt8)) (pointer : Pointer) (after : Heap) :
    Prop where
  leads : after.block? pointer = answer
  null_iff : pointer = none ↔ answer = none
  released : Released after pointer heap

theorem handed {heap : Heap} {address : Nat} (unused : heap address = none)
    (answer : Option (List UInt8)) :
    Handed heap answer (heap.hand address answer).1 (heap.hand address answer).2 := by
  cases answer with
  | none => exact ⟨rfl, by simp [hand], released_null heap⟩
  | some block =>
    have hreleased : Released (heap.set address (some block)) (some address) _ :=
      released_block (set_self heap address (some block))
    rw [set_set_none unused] at hreleased
    exact ⟨set_self heap address (some block), by simp [hand], hreleased⟩

end Heap

/-- An answer of the C interface: null, which is excused, or as it is to be. -/
def OrNull {α : Type} (excused : Prop) (Q : α → Prop) (answer : Option α) : Prop :=
  answer = none ∧ excused ∨ ∃ a, answer = some a ∧ Q a

/-- There is memory for what an array can hold. -/
theorem copied_of_le {bytes : List UInt8} (h : bytes.length ≤ Context.maxArrayLen) :
    copied bytes = .ok (.ofBytes bytes) :=
  if_pos (ByteBuffer.fits_of_lt (Nat.lt_of_le_of_lt h (by decide)))

namespace CInterface

open Process

variable {μ ε : Type} {vm : InvocationInterface μ ε} {t : ThreadId} {env : ε} {rt : Runtime}
  {w v : World (Process μ)}

/-- An environment is used with the settings that the bridge was started with. -/
theorem run_bind_callerContext {α : Type} (hruntime : w.backend.bridge.runtime = .ok rt) (env : ε)
    (f : Option (Context ε) → Act (Process μ) α) :
    ((callerContext (some env)).inWorld >>= f).run w = (f (some ⟨env, rt.config⟩)).run w := by
  refine Routine.run_bind_ok ?_ f
  simp [callerContext, Call.run_inWorld, Routine.run_bind, bridgePlace, hruntime]

/-- A string that is got is what the conversion gives, or null if it gives an error. -/
theorem run_getString (hruntime : w.backend.bridge.runtime = .ok rt) {handle : Handle}
    {r : Except BridgeError (Option ByteBuffer)}
    (h : (nativeFromManaged vm t ⟨env, rt.config⟩ (some handle)).run w = (.ok r, v)) :
    ∃ log, (getString vm t (some env) (some handle)).run w =
      (.ok (r.toOption.join.map ByteBuffer.block), { v with log }) := by
  cases r with
  | error e => exact ⟨_, (run_bind_callerContext hruntime env _).trans (Routine.run_bind_ok h _)⟩
  | ok buffer? =>
    exact ⟨v.log, (run_bind_callerContext hruntime env _).trans (Routine.run_bind_ok h _)⟩

/-- A block is read up to its first zero, and null is the answer if the conversion gives an
error. -/
theorem run_newString (hruntime : w.backend.bridge.runtime = .ok rt) {block : List UInt8}
    {r : Except BridgeError Ref}
    (h : (managedFromNative vm t ⟨env, rt.config⟩ (some (cStringView block))).run w = (.ok r, v)) :
    ∃ log, (newString vm t (some env) (some block)).run w =
      (.ok r.toOption.join, { v with log }) := by
  cases r with
  | error e => exact ⟨_, (run_bind_callerContext hruntime env _).trans (Routine.run_bind_ok h _)⟩
  | ok string =>
    exact ⟨v.log, (run_bind_callerContext hruntime env _).trans (Routine.run_bind_ok h _)⟩

/-- Without an environment a caller gets null, whether the bridge is started or not. -/
theorem getString_noEnv_returns (vm : InvocationInterface μ ε) (t : ThreadId) (string : Ref) :
    (getString vm t none string).Returns (fun _ => True) fun answer _ => answer = none := by
  have hrefused : (callerContext (none : Option ε)).Returns (fun _ => True)
      fun c? (_ : Process μ) => c? = none := by
    have hread : (Call.read bridgePlace).Returns (fun _ : Process μ => True) fun _ _ => True :=
      Call.returns_read bridgePlace
    refine hread.bind fun bridge => ?_
    rcases bridge.runtime with e | rt <;> exact refused_returns fun _ _ _ => rfl
  rcases string with _ | handle
  · exact .pure fun _ _ => rfl
  · refine hrefused.monadLift.bind fun c? => ?_
    rintro w rfl
    exact ⟨none, w, rfl, rfl⟩

/-- A conversion fails that is made for a caller with an environment. -/
def ConversionFails (vm : InvocationInterface μ ε) (t : ThreadId) (config : BridgeConfig)
    (env? : Option ε) (string : Ref) (w : World (Process μ)) : Prop :=
  ∃ env e v, env? = some env ∧
    (nativeFromManaged vm t ⟨env, config⟩ string).run w = (.ok (.error e), v)

/-- Getting a string returns. Null is the answer to null and to a conversion that fails, and to
nothing else. -/
theorem getString_null_iff (hruntime : w.backend.bridge.runtime = .ok rt) (env? : Option ε)
    (string : Ref) :
    ∃ answer v, (getString vm t env? string).run w = (.ok answer, v) ∧
      (answer = none ↔
        string = none ∨ env? = none ∨ ConversionFails vm t rt.config env? string w) := by
  rcases string with _ | handle
  · exact ⟨none, w, rfl, by simp⟩
  rcases env? with _ | env
  · obtain ⟨answer, v, hrun, rfl⟩ := getString_noEnv_returns vm t (some handle) w trivial
    exact ⟨none, v, hrun, by simp⟩
  obtain ⟨r, v, hconverted, -⟩ := (context_reliable vm t ⟨env, rt.config⟩
    w.backend).nativeFromManaged bridgePlace 0 (some (some handle)) w (.refl w.backend)
  obtain ⟨log, hrun⟩ := run_getString hruntime hconverted
  refine ⟨_, _, hrun, ?_⟩
  cases r with
  | error e =>
    have hfails : ConversionFails vm t rt.config (some env) (some handle) w :=
      ⟨env, e, v, rfl, hconverted⟩
    simp [hfails, Except.toOption]
  | ok buffer? =>
    have hsucceeds : ¬ ConversionFails vm t rt.config (some env) (some handle) w := by
      rintro ⟨_, e, v', ⟨⟩, hfailed⟩
      cases hconverted.symm.trans hfailed
    obtain ⟨buffer, rfl⟩ := Option.isSome_iff_exists.mp
      (Bridge.isSome_of_nativeFromManaged hconverted)
    simp [hsucceeds, Except.toOption]

end CInterface

section Serving

open Process CInterface

variable {μ ε χ : Type} {vm : InvocationInterface μ ε} {R : Reading μ ε χ} {C : Charsets χ}
  {t : ThreadId} {env : ε} {rt : Runtime} {cs : χ} {caps : Capabilities} {known : Known}
  {w : World (NotedProcess μ)}

/-- The bridge is started, and strings are known on a thread with an environment. -/
structure Serving (R : Reading μ ε χ) (t : ThreadId) (env : ε) (rt : Runtime) (cs : χ)
    (caps : Capabilities) (known : Known) (p : NotedProcess μ) : Prop where
  idle : Idle R.noted ⟨t, env, rt.config.stringClass, cs, caps⟩ known p.link.machine
  runtime : p.bridge.runtime = .ok rt
  capabilities : p.bridge.capabilities = .ok caps

/-- A string that is known goes out as the block of its bytes. -/
theorem Serving.getString (h : Serving R t env rt cs caps known w.backend)
    (faithful : (vm.functions env).Faithful R C rt.config.stringClass env)
    {handle : Handle} {units : List UInt16} (hmem : (some handle, units) ∈ known) :
    ∃ answer v, (CInterface.getString (vm.recorded Prod.mk) t (some env) (some handle)).run w =
        (.ok answer, v) ∧
      OrNull (Failed vm R t v.backend.link) (Terminated (C.encode cs units)) answer := by
  obtain ⟨r, v, hconverted, hr⟩ :=
    nativeFromManaged_orFailed (c := ⟨env, rt.config⟩) faithful h.capabilities hmem w
      ⟨h.idle, w.backend.link, rfl⟩
  obtain ⟨log, hrun⟩ := run_getString h.runtime hconverted
  refine ⟨_, _, hrun, ?_⟩
  rcases hr with ⟨⟨e, rfl⟩, hfailed⟩ | ⟨rfl, hlen, -⟩
  · exact .inl ⟨rfl, hfailed.1⟩
  · rw [copied_of_le hlen]
    exact .inr ⟨_, rfl, terminated_append_zero _⟩

/-- There is no array for bytes that are too many. -/
theorem managedFromNative_tooLong (vm : InvocationInterface μ ε) (t : ThreadId) (c : Context ε)
    {caps : Capabilities} {bytes : List UInt8} (long : Context.maxArrayLen < bytes.length) :
    (managedFromNative vm t c (some bytes)).Returns (fun p => p.bridge.capabilities = .ok caps)
      fun r _ => ∃ e, r = .error e := by
  have hrefused : ((context vm t c).newByteArray bytes.length).Returns
      (fun p => (bridgePlace.get p).capabilities = .ok caps) fun r _ => r = .error .outOfMemory :=
    fun s _ => newByteArray_tooLong vm t c long s trivial
  refine (Bridge.managedFromNative_refused (fun _ => id) hrefused).bind fun r => ?_
  rintro w rfl
  exact ⟨_, w, rfl, _, rfl⟩

/-- A C string becomes the string that its bytes are decoded to, without the zero at its end. -/
theorem Serving.newString (h : Serving R t env rt cs caps known w.backend)
    (faithful : (vm.functions env).Faithful R C rt.config.stringClass env)
    {content : List UInt8} (hcontent : 0 ∉ content) (rest : List UInt8) :
    ∃ string v, (CInterface.newString (vm.recorded Prod.mk) t (some env)
        (some (content ++ 0 :: rest))).run w = (.ok string, v) ∧
      OrNull (Failed vm R t v.backend.link ∨ Context.maxArrayLen < content.length)
        (fun handle => Serving R t env rt cs caps ((some handle, C.decode cs content) :: known)
          v.backend) string := by
  by_cases hlen : content.length ≤ Context.maxArrayLen
  case neg =>
    obtain ⟨r, v, hconverted, e, rfl⟩ := managedFromNative_tooLong (vm.recorded Prod.mk) t
      ⟨env, rt.config⟩ (Nat.lt_of_not_le hlen) w h.capabilities
    rw [← cStringView_append_zero hcontent rest] at hconverted
    obtain ⟨log, hrun⟩ := run_newString h.runtime hconverted
    exact ⟨_, _, hrun, .inl ⟨rfl, .inr (Nat.lt_of_not_le hlen)⟩⟩
  case pos =>
    obtain ⟨r, v, hconverted, hr⟩ :=
      managedFromNative_orFailed (c := ⟨env, rt.config⟩) faithful h.capabilities hlen w
        ⟨h.idle, w.backend.link, rfl⟩
    rw [← cStringView_append_zero hcontent rest] at hconverted
    obtain ⟨log, hrun⟩ := run_newString h.runtime hconverted
    refine ⟨_, _, hrun, ?_⟩
    rcases hr with ⟨⟨e, rfl⟩, hfailed⟩ | ⟨string, rfl, hlink⟩
    · exact .inl ⟨rfl, .inl hfailed.1⟩
    · obtain ⟨hsome, -⟩ := hlink.1.strings _ _ (List.mem_cons_self ..)
      obtain ⟨handle, rfl⟩ := Option.isSome_iff_exists.mp hsome
      have hbridge := hlink.bridge_eq
      exact .inr ⟨handle, rfl, hlink.1, hbridge ▸ h.runtime, hbridge ▸ h.capabilities⟩

/-- What C code reads of an answer, and what has become of bytes that came in. Well-formed bytes are
read as they were, and of others what is invalid is replaced; none are cut off. -/
structure ReadAgain (content block : List UInt8) : Prop where
  terminated : Terminated (Utf8.encode (Utf8.decodeLossy content)) block
  seen : ∃ fixed, scan block = some fixed ∧ Utf8.Repairs content fixed
  same : scan block = some content ↔ Utf8.WellFormed content

theorem readAgain {content block : List UInt8} (hcontent : 0 ∉ content)
    (h : Terminated (Utf8.encode (Utf8.decodeLossy content)) block) : ReadAgain content block := by
  have hseen : scan block = some (Utf8.encode (Utf8.decodeLossy content)) := by
    rw [h.seen, cStringView_eq_self (Utf8.zero_notMem_repair hcontent)]
  refine ⟨h, ⟨_, hseen, Utf8.repairs_iff.mpr rfl⟩, ?_⟩
  rw [hseen, Option.some.injEq, Utf8.encode_decodeLossy_eq_iff]

/-- What the C interface of a bridge does with strings, on a thread with an environment, if the
bridge was started with UTF-8. -/
structure CStrings (vm : InvocationInterface μ ε) (R : Reading μ ε χ) (config : BridgeConfig)
    (t : ThreadId) (env : ε) (w : World (NotedProcess μ)) : Prop where
  /-- A string goes out as the block of its bytes. -/
  copied : ∀ handle units,
    R.referent w.backend.link.machine.1 env (some handle) = some (.text units) →
    ∃ answer v, (CInterface.getString (vm.recorded Prod.mk) t (some env) (some handle)).run w =
        (.ok answer, v) ∧
      OrNull (Failed vm R t v.backend.link) (Terminated (Charset.utf8.encode units)) answer
  /-- Null means that nothing was asked for, or that the conversion has failed. -/
  null_iff : ∀ env? string,
    ∃ answer v, (CInterface.getString (vm.recorded Prod.mk) t env? string).run w =
        (.ok answer, v) ∧
      (answer = none ↔ string = none ∨ env? = none ∨
        ConversionFails (vm.recorded Prod.mk) t config env? string w)
  /-- A C string becomes the string that its bytes are decoded to, up to its end, and is read again
  when that string goes out. -/
  built : ∀ content rest, 0 ∉ content →
    ∃ string v, (CInterface.newString (vm.recorded Prod.mk) t (some env)
        (some (content ++ 0 :: rest))).run w = (.ok string, v) ∧
      OrNull (Failed vm R t v.backend.link ∨ Context.maxArrayLen < content.length)
        (fun handle =>
          R.referent v.backend.link.machine.1 env (some handle) =
            some (.text (Charset.utf8.decode content)) ∧
          ∃ answer u, (CInterface.getString (vm.recorded Prod.mk) t (some env) (some handle)).run v
              = (.ok answer, u) ∧
            OrNull (Failed vm R t u.backend.link) (ReadAgain content) answer)
        string

/-- A bridge that was started with UTF-8 and no failure carries strings to C code and back, on every
attached thread. What C code is handed is a block that it can read to its end, and that it can
release once or again. -/
theorem cStrings_carried {t₀ : ThreadId} {pointer : VmPointer} {env₀ : ε} {config : BridgeConfig}
    (faithful : ∀ env, (vm.functions env).Faithful R C config.stringClass env)
    (utf8 : ∀ cs, C.named config.charset = some cs →
      C.encode cs = Charset.utf8.encode ∧ C.decode cs = Charset.utf8.decode)
    {s u : Site (NotedProcess μ)} (hempty : s.backend.bridge = {})
    (hsound : R.callable s.backend.link.machine.1 env₀)
    (hcurrent : R.environment s.backend.link.machine.1 t₀ = some env₀)
    (started : (Process.start (vm.recorded Prod.mk) t₀ pointer env₀ config).run s =
      (.ok (.ok ()), u))
    (calm : ¬ Failed vm R t₀ u.backend.link) :
    (∀ (t : ThreadId) (env : ε) (w : World (NotedProcess μ)),
      w.backend.bridge = u.backend.bridge →
      R.Endures u.backend.link.machine.1 w.backend.link.machine.1 →
      R.environment w.backend.link.machine.1 t = some env →
      R.callable w.backend.link.machine.1 env → CStrings vm R config t env w) ∧
    ∀ (heap : Heap),
      (∀ answer address, heap address = none →
        heap.Handed answer (heap.hand address answer).1 (heap.hand address answer).2) ∧
      ∀ slot, (∀ address, slot = some address → (heap address).isSome = true) →
        ∃ left, heap.Released slot left := by
  obtain ⟨cs, caps, hnamed, hresolved, hregistered, hcaps⟩ :=
    Process.start_provides (faithful env₀) hempty hsound hcurrent started calm
  obtain ⟨hencode, hdecode⟩ := utf8 cs hnamed
  refine ⟨fun t env w hbridge hendures hattached hcallable => ?_, fun heap =>
    ⟨fun answer _ unused => Heap.handed unused answer, heap.exists_released⟩⟩
  have hserving (known : Known) (hknown : ∀ string units, (string, units) ∈ known →
      string.isSome = true ∧ R.referent w.backend.link.machine.1 env string =
        some (.text units)) :
      Serving R t env ⟨pointer, config⟩ cs caps known w.backend :=
    ⟨⟨hcallable, hattached, hresolved.endures hendures.beside, hknown⟩,
      by rw [hbridge]; exact hregistered, by rw [hbridge]; exact hcaps⟩
  refine ⟨fun handle units hunits => ?_, ?_, fun content rest hcontent => ?_⟩
  · have hknown := hserving [(some handle, units)] (by simpa using hunits)
    rw [← hencode]
    exact hknown.getString (faithful env) (List.mem_singleton_self _)
  · exact fun env? string => getString_null_iff (hserving [] nofun).runtime env? string
  · obtain ⟨string, v, hrun, hstring⟩ := (hserving [] nofun).newString (faithful env) hcontent rest
    refine ⟨string, v, hrun, hstring.imp_right ?_⟩
    rintro ⟨handle, rfl, hbuilt⟩
    obtain ⟨-, htext⟩ := hbuilt.idle.strings _ _ (List.mem_cons_self ..)
    obtain ⟨answer, u', hgot, hanswer⟩ := hbuilt.getString (faithful env) (List.mem_cons_self ..)
    refine ⟨handle, rfl, hdecode ▸ htext, answer, u', hgot, hanswer.imp_right ?_⟩
    rintro ⟨block, rfl, hblock⟩
    refine ⟨block, rfl, readAgain hcontent ?_⟩
    rw [← Charset.encode_decode_utf8, ← hencode, ← hdecode]
    exact hblock

end Serving

section Example

open Machine

/-- One thread starts the bridge. Another builds a string of a block with an invalid byte, and with
a byte behind its end, and reads it again. -/
theorem cStrings_carried_invalid : ∃ u v w handle block,
    (Process.start (boundedInvocation.recorded Prod.mk) (.worker 0) address (.worker 0) {}).run
      twoThreads = (.ok (.ok ()), u) ∧
    (CInterface.newString (boundedInvocation.recorded Prod.mk) (.worker 1) (some (.worker 1))
      (some [0x61, 0x80, 0, 0x62])).run ⟨u, .zero⟩ = (.ok (some handle), v) ∧
    (CInterface.getString (boundedInvocation.recorded Prod.mk) (.worker 1) (some (.worker 1))
      (some handle)).run v = (.ok (some block), w) ∧
    scan block = some [0x61, 0xef, 0xbf, 0xbd] := by
  obtain ⟨u, started, attached, callable, calm, v, string, hrun, calmBuilt, calmRead⟩ :
      ∃ u : Site (NotedProcess Machine),
        (Process.start (boundedInvocation.recorded Prod.mk) (.worker 0) address (.worker 0)
          {}).run twoThreads = (.ok (.ok ()), u) ∧
        reading.environment u.backend.link.machine.1 (.worker 1) = some (.worker 1) ∧
        reading.callable u.backend.link.machine.1 (.worker 1) ∧
        u.backend.link.machine.2.all (!boundedInvocation.fails reading (.worker 0) ·) = true ∧
        ∃ v string, (CInterface.newString (boundedInvocation.recorded Prod.mk) (.worker 1)
            (some (.worker 1)) (some [0x61, 0x80, 0, 0x62])).run ⟨u, .zero⟩ = (.ok string, v) ∧
          v.backend.link.machine.2.all (!boundedInvocation.fails reading (.worker 1) ·) = true ∧
          ((CInterface.getString (boundedInvocation.recorded Prod.mk) (.worker 1)
            (some (.worker 1)) string).run v).2.backend.link.machine.2.all
              (!boundedInvocation.fails reading (.worker 1) ·) = true := by
    refine ⟨_, rfl, rfl, ⟨rfl, rfl, ordered_of_entries ?_⟩, by rfl, _, _, rfl, by rfl, by rfl⟩
    decide
  have hcallable : reading.callable twoThreads.backend.link.machine.1 (.worker 0) :=
    ⟨rfl, rfl, ordered_of_entries nofun⟩
  obtain ⟨hcarried, -⟩ := cStrings_carried (boundedNatives_faithful _)
    (fun cs hnamed => by cases hnamed; exact ⟨rfl, rfl⟩) rfl hcallable rfl started
    (not_failed_of_all calm)
  obtain ⟨string', v', hrun', hbuilt⟩ := (hcarried (.worker 1) (.worker 1) ⟨u, .zero⟩ rfl .refl
    attached callable).built [0x61, 0x80] [0x62] (by decide)
  cases hrun.symm.trans hrun'
  rcases hbuilt with ⟨-, hfailed | hlong⟩ | ⟨handle, rfl, -, answer, w, hread, hanswer⟩
  · exact absurd hfailed (not_failed_of_all calmBuilt)
  · exact absurd hlong (by decide)
  rw [hread] at calmRead
  rcases hanswer with ⟨-, hfailed⟩ | ⟨block, rfl, hblock⟩
  · exact absurd hfailed (not_failed_of_all calmRead)
  obtain ⟨fixed, hseen, hrepairs⟩ := hblock.seen
  have hfixed : fixed = [0x61, 0xef, 0xbf, 0xbd] := by
    rw [Utf8.repairs_iff.mp hrepairs]
    decide +kernel
  exact ⟨u, v, w, handle, block, started, hrun, hread, hfixed ▸ hseen⟩

end Example

end Jvm

end ManagedBridge
