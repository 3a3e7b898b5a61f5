import ManagedBridge.Proofs.Calls
import ManagedBridge.Proofs.Installation
import ManagedBridge.Proofs.Transfer

/-!
# Round trips through an in-process runtime

On an attached thread without a pending exception, and with no fault armed, the context of an
in-process runtime transfers faithfully: a text goes out as its UTF-8 bytes, and bytes come in as
what they are decoded to with replacement. Bytes that go in and out again are repaired, and a text
that goes out and in again is the same text.
-/

namespace ManagedBridge

open Text.Utf8

namespace InProcess

/-- The thread can use a context, no exception is pending on it, and no fault is armed that a
conversion would meet. -/
structure Idle (t : ThreadId) (l : Ledger) (n : Nat) (s : State) : Prop extends
    Usable t l n s where
  calm : ∀ record, s.runtime.threads.get? t = some record → record.pending = none
  allocates : s.runtime.failNextAllocation = false
  constructs : s.runtime.throwOnConstruct = false

/-- The thread is idle, and the arrays that were made are `made`. -/
def IdleWith (t : ThreadId) (l : Ledger) (n : Nat) (made : List (ZeroFilled UInt8)) (s : State) :
    Prop :=
  Idle t l n s ∧ s.arrays = made

/-- One array more than `n` is out, and `array` has `bytes` in it. -/
def HeldBytes (t : ThreadId) (l : Ledger) (n : Nat) (array : ArrayId) (bytes : List UInt8)
    (s : State) : Prop :=
  ∃ made content, IdleWith t l (n + 1) made s ∧ made[array]? = some content ∧
    content.toList = bytes

section Calls

variable {α : Type} {t : ThreadId} {l : Ledger} {n m : Nat} {made made' : List (ZeroFilled UInt8)}
  {call : Call State α} {a : α}

/-- A call leaves an idle thread idle, if it raises nothing and keeps the owner; with `change` it
may count the arrays that are out. -/
theorem idle_of_called (change : ThreadRecord → ThreadRecord)
    (owner : ∀ record, (change record).external = record.external)
    (calm : ∀ record, (change record).pending = record.pending)
    (out : ∀ record, record.liveArrays = n → (change record).liveArrays = m)
    (h : ∀ start record, start.poisoned = false → start.throwOnConstruct = false →
      record.pending = none → record.liveArrays = n →
      call.Returns (Called start t record false made)
        fun b s => b = a ∧ Called start t (change record) false made' s) :
    call.Returns (IdleWith t l n made) fun b s => b = a ∧ IdleWith t l m made' s := by
  rintro s ⟨hs, rfl⟩
  obtain ⟨record, hrecord, hn⟩ := hs.attached
  have hcalm := hs.calm record hrecord
  have hstart := Called.refl hrecord
  rw [hs.allocates] at hstart
  obtain ⟨b, v, hrun, hb, ⟨calls, hv⟩, hmade⟩ :=
    h _ record hs.unlocked hs.constructs hcalm hn s hstart
  have hchanged : v.backend.runtime.threads.get? t = some (change record) := by
    rw [hv, Runtime.get?_called]
  refine ⟨b, v, hrun, hb, ⟨⟨?_, ?_, change record, hchanged, out record hn⟩, ?_, ?_, ?_⟩, hmade⟩
  · rw [hv]
    exact (Runtime.ledger_keepRecord_of_standing hrecord (owner record)).trans hs.ledger
  · rw [hv]
    exact hs.unlocked
  · intro kept hkept
    obtain rfl : change record = kept := Option.some.inj (hchanged.symm.trans hkept)
    exact (calm record).trans hcalm
  · rw [hv]
    rfl
  · rw [hv]
    exact hs.constructs

theorem idle_of_unchanged
    (h : ∀ start record, start.poisoned = false → start.throwOnConstruct = false →
      record.pending = none → call.Returns (Called start t record false made)
        fun b s => b = a ∧ Called start t record false made' s) :
    call.Returns (IdleWith t l n made) fun b s => b = a ∧ IdleWith t l n made' s :=
  idle_of_called id (fun _ => rfl) (fun _ => rfl) (fun _ => id)
    fun start record hopen hconstructs hcalm _ => h start record hopen hconstructs hcalm

theorem idle_of_handedOut
    (h : ∀ start record, start.poisoned = false → record.pending = none →
      call.Returns (Called start t record false made)
        fun b s => b = a ∧ Called start t record.handOut false made' s) :
    call.Returns (IdleWith t l n made) fun b s => b = a ∧ IdleWith t l (n + 1) made' s :=
  idle_of_called ThreadRecord.handOut (fun _ => rfl) (fun _ => rfl) (fun _ => congrArg (· + 1))
    fun start record hopen _ hcalm _ => h start record hopen hcalm

end Calls

/-- The context of an idle thread gives texts as UTF-8 and takes bytes with replacement. -/
theorem context_transfers (t : ThreadId) (l : Ledger) (n : Nat) (caps : Capabilities) :
    (context t).Transfers caps encode decodeLossy (Idle t l n) (HeldBytes t l n) where
  stringBytes string := by
    intro s hs
    obtain ⟨_, v, hrun, rfl, hv⟩ := idle_of_handedOut
      (fun start record hopen hcalm => called_stringBytes hopen hcalm caps string) s ⟨hs, rfl⟩
    exact ⟨_, v, hrun, _, rfl, _, _, hv, List.getElem?_concat_length, ZeroFilled.toList_ofList _⟩
  newByteArray len := by
    intro s hs
    obtain ⟨_, v, hrun, rfl, hv⟩ := idle_of_handedOut
      (fun start record hopen hcalm => called_newByteArray hopen hcalm len) s ⟨hs, rfl⟩
    exact ⟨_, v, hrun, _, rfl, _, _, hv, List.getElem?_concat_length, ZeroFilled.toList_zeros _⟩
  byteArrayLen array bytes := by
    rintro s ⟨made, content, hs, hget, rfl⟩
    obtain ⟨_, v, hrun, rfl, hv⟩ := idle_of_unchanged
      (fun start record hopen _ hcalm => called_byteArrayLen hopen hcalm hget) s hs
    rw [ZeroFilled.length_toList]
    exact ⟨_, v, hrun, rfl, made, content, hv, hget, rfl⟩
  readByteArray array bytes := by
    rintro s ⟨made, content, hs, hget, rfl⟩
    obtain ⟨_, v, hrun, rfl, hv⟩ := idle_of_unchanged
      (fun start record hopen _ hcalm => called_readByteArray hopen hcalm hget) s hs
    rw [ZeroFilled.length_toList]
    exact ⟨_, v, hrun, rfl, made, content, hv, hget, rfl⟩
  writeByteArray array old bytes same := by
    rintro s ⟨made, content, hs, hget, rfl⟩
    have hlength : content.length = bytes.length := by simpa using same.symm
    obtain ⟨_, v, hrun, rfl, hv⟩ := idle_of_unchanged
      (fun start record hopen _ hcalm => called_writeByteArray hopen hcalm hget hlength) s hs
    refine ⟨_, v, hrun, rfl, _, content.write 0 bytes, hv, ?_, ?_⟩
    · exact List.getElem?_set_self (List.getElem?_eq_some_iff.1 hget).1
    · simp [ZeroFilled.toList_write, overwrite, hlength]
  newString array bytes := by
    rintro s ⟨made, content, hs, hget, rfl⟩
    obtain ⟨_, v, hrun, rfl, hv⟩ := idle_of_unchanged
      (fun start record hopen hconstructs hcalm =>
        called_newString hopen hcalm hconstructs hget caps) s hs
    exact ⟨_, v, hrun, rfl, made, content, hv, hget, rfl⟩
  releaseBytes array bytes := by
    rintro s ⟨made, content, hs, -, -⟩
    have hrelease : ((context t).releaseBytes array).Returns (IdleWith t l (n + 1) made)
        fun u s => u = () ∧ IdleWith t l n made s := by
      refine idle_of_called ({ · with liveArrays := n }) (fun _ => rfl) (fun _ => rfl)
        (fun _ _ => rfl) fun start record hopen _ _ hout => Context.called_onRecord hopen ?_
      rw [ThreadRecord.releaseArray, hout]
      rfl
    exact (hrelease.mono fun _ _ hv => hv.2.1) s hs

end InProcess

open InProcess

namespace Installation

section Undisturbed

variable {ρ ι α : Type} {b : ι} {r : ρ} {t : ThreadId}

/-- The bridge is initialized, the thread is attached to the runtime without a pending exception,
and no fault is armed that a conversion would meet. -/
structure Ready (b : ι) (r : ρ) (t : ThreadId) (s : Installation ρ ι) : Prop where
  initialized : (s.bridges b).isInitialized = true
  unlocked : (s.ledger r).poisoned = false
  attached : (s.ledger r).standing t ≠ .detached
  calm : ∀ record, (s.runtimes r).runtime.threads.get? t = some record → record.pending = none
  allocates : (s.runtimes r).runtime.failNextAllocation = false
  constructs : (s.runtimes r).runtime.throwOnConstruct = false

/-- From `w` the act returns `a`, leaves ledgers and bridges as they are, and leaves the thread
ready for the next. -/
def Answers (b : ι) (r : ρ) (t : ThreadId) (w : World (Installation ρ ι))
    (act : Act (Installation ρ ι) α) (a : α) : Prop :=
  ∃ v, act.run w = (.ok a, v) ∧ Ready b r t v.backend ∧ v.backend.ledger = w.backend.ledger ∧
    v.backend.bridges = w.backend.bridges

theorem Ready.answers_pure {w : World (Installation ρ ι)} (h : Ready b r t w.backend) (a : α) :
    Answers b r t w (pure a) a :=
  ⟨w, rfl, h, rfl, rfl⟩

theorem Answers.bind {γ : Type} {w : World (Installation ρ ι)} {act : Act (Installation ρ ι) α}
    {a : α} {c : γ} {next : α → Act (Installation ρ ι) γ} (h : Answers b r t w act a)
    (hnext : ∀ v, Ready b r t v.backend → Answers b r t v (next a) c) :
    Answers b r t w (act >>= next) c := by
  obtain ⟨v, hrun, hready, hledger, hbridges⟩ := h
  obtain ⟨u, hrun', hready', hledger', hbridges'⟩ := hnext v hready
  refine ⟨u, ?_, hready', hledger'.trans hledger, hbridges'.trans hbridges⟩
  rw [Routine.run_bind_ok hrun, hrun']

variable [DecidableEq ρ]

/-- The runtime `r` is as idle for `t` as it is in `whole`, and nothing else has changed. -/
def Undisturbed (whole : Installation ρ ι) (r : ρ) (t : ThreadId) (n : Nat)
    (s : Installation ρ ι) : Prop :=
  Idle t (whole.ledger r) n (s.runtimes r) ∧ ∃ part, s = (runtimeAt r).set part whole

theorem Ready.undisturbed {whole : Installation ρ ι} (h : Ready b r t whole) :
    ∃ n, Undisturbed whole r t n whole := by
  obtain ⟨n, husable, hwhole⟩ := Usable.of_standing h.unlocked h.attached
  exact ⟨n, ⟨husable, h.calm, h.allocates, h.constructs⟩, hwhole⟩

theorem Undisturbed.usable {whole s : Installation ρ ι} {n : Nat}
    (h : Undisturbed whole r t n s) : Usable whole r t n s :=
  ⟨h.1.toUsable, h.2⟩

theorem Undisturbed.ready {whole s : Installation ρ ι} {n : Nat} (hwhole : Ready b r t whole)
    (h : Undisturbed whole r t n s) : Ready b r t s where
  initialized := by rw [h.usable.bridges_eq]; exact hwhole.initialized
  unlocked := by rw [h.usable.ledger_eq]; exact hwhole.unlocked
  attached := by rw [h.usable.ledger_eq]; exact hwhole.attached
  calm := h.1.calm
  allocates := h.1.allocates
  constructs := h.1.constructs

theorem Ready.answers {w : World (Installation ρ ι)} {n : Nat} {act : Act (Installation ρ ι) α}
    {a : α} (hready : Ready b r t w.backend) (hw : Undisturbed w.backend r t n w.backend)
    (h : act.Returns (Undisturbed w.backend r t n)
      fun c s => c = a ∧ Undisturbed w.backend r t n s) : Answers b r t w act a := by
  obtain ⟨_, v, hrun, rfl, hv⟩ := h w hw
  exact ⟨v, hrun, hv.ready hready, hv.usable.ledger_eq, hv.usable.bridges_eq⟩

theorem context_transfers (whole : Installation ρ ι) (n : Nat) (caps : Capabilities) :
    (context (r, t)).Transfers caps encode decodeLossy (Undisturbed whole r t n)
      fun array bytes s => HeldBytes t (whole.ledger r) n array bytes (s.runtimes r) ∧
        ∃ part, s = (runtimeAt r).set part whole :=
  (InProcess.context_transfers t (whole.ledger r) n caps).zoom (lawful_runtimeAt r) whole

end Undisturbed

section Conversions

variable {ρ ι : Type} [DecidableEq ρ] [DecidableEq ι] {b : ι} {r : ρ} {t : ThreadId}
  {w : World (Installation ρ ι)}

/-- A bridge that is initialized keeps its capabilities while a runtime is used, and with these the
context of the thread transfers faithfully. -/
theorem Ready.transfers {whole : Installation ρ ι} (h : Ready b r t whole) :
    ∃ n caps, Undisturbed whole r t n whole ∧
      (∀ s, Undisturbed whole r t n s → ((bridgeAt b).get s).capabilities = .ok caps) ∧
      (context (ι := ι) (r, t)).Transfers caps encode decodeLossy (Undisturbed whole r t n)
        fun array bytes s => HeldBytes t (whole.ledger r) n array bytes (s.runtimes r) ∧
          ∃ part, s = (runtimeAt r).set part whole := by
  obtain ⟨n, hwhole⟩ := h.undisturbed
  obtain ⟨caps, hcaps⟩ := Bridge.exists_capabilities h.initialized
  refine ⟨n, caps, hwhole, fun s hs => ?_, context_transfers whole n caps⟩
  show (s.bridges b).capabilities = .ok caps
  rw [hs.usable.bridges_eq, hcaps]

theorem Ready.managedFromNative [Memory] (h : Ready b r t w.backend) (bytes : List UInt8) :
    Answers b r t w (use (r, t) (.managedFromNative b (some bytes)))
      (.ok (some (decodeLossy bytes))) := by
  obtain ⟨n, caps, hw, hcaps, htransfers⟩ := h.transfers
  exact h.answers hw (htransfers.managedFromNative hcaps bytes)

theorem Ready.nativeFromManaged [Memory] (h : Ready b r t w.backend) (string : String) :
    Answers b r t w (use (r, t) (.nativeFromManaged b (some string)))
      (if ByteBuffer.fits (encode string).length then .ok (some (.ofBytes (encode string)))
        else .error (.allocation "to_native" (encode string).length)) := by
  obtain ⟨n, caps, hw, hcaps, htransfers⟩ := h.transfers
  rw [← map_copied]
  exact h.answers hw (htransfers.nativeFromManaged hcaps string)

theorem Ready.stringFromManaged [Memory] (h : Ready b r t w.backend) (string : String) :
    Answers b r t w (use (r, t) (.stringFromManaged b (some string)))
      (if ByteBuffer.fits (encode string).length then .ok (some string)
        else .error (.allocation "to_native" (encode string).length)) := by
  obtain ⟨n, caps, hw, hcaps, htransfers⟩ := h.transfers
  have htext := map_copied (fun b => some b.textLossy) (encode string)
  rw [ByteBuffer.textLossy_ofBytes_encode] at htext
  rw [← htext]
  exact h.answers hw (htransfers.stringFromManaged hcaps string)

/-- Bytes brought into the runtime and copied out again. -/
def roundTrip [Memory] (b : ι) (ref : ρ × ThreadId) (bytes : List UInt8) :
    Act (Installation ρ ι) (Except BridgeError (Option ByteBuffer)) := do
  match ← use ref (.managedFromNative b (some bytes)) with
  | .error e => return .error e
  | .ok string? => use ref (.nativeFromManaged b string?)

theorem Ready.roundTrip [Memory] (h : Ready b r t w.backend) (bytes : List UInt8) :
    Answers b r t w (roundTrip b (r, t) bytes)
      (if ByteBuffer.fits (encode (decodeLossy bytes)).length then
        .ok (some (.ofBytes (encode (decodeLossy bytes))))
      else .error (.allocation "to_native" (encode (decodeLossy bytes)).length)) :=
  (h.managedFromNative bytes).bind fun _ hv => hv.nativeFromManaged (decodeLossy bytes)

/-- What `bytes` come back as, if there is memory for it: `fixed`, which is their repair. -/
structure BytesReturn [Memory] (b : ι) (r : ρ) (t : ThreadId) (w : World (Installation ρ ι))
    (bytes fixed : List UInt8) : Prop where
  repair : ∀ other, Repairs bytes other ↔ other = fixed
  lossy : fixed = encode (decodeLossy bytes)
  same : fixed = bytes ↔ WellFormed bytes
  answer : Answers b r t w (Installation.roundTrip b (r, t) bytes)
    (if ByteBuffer.fits fixed.length then .ok (some (.ofBytes fixed))
      else .error (.allocation "to_native" fixed.length))
  again : Answers b r t w
    (Installation.roundTrip b (r, t) bytes >>= fun _ => Installation.roundTrip b (r, t) fixed)
    (if ByteBuffer.fits fixed.length then .ok (some (.ofBytes fixed))
      else .error (.allocation "to_native" fixed.length))

/-- What a text is outside, if there is memory for it: its UTF-8 bytes, of which the same text is
built. -/
structure TextReturns [Memory] (b : ι) (r : ρ) (t : ThreadId) (w : World (Installation ρ ι))
    (string : String) : Prop where
  bytes : Answers b r t w (use (r, t) (.nativeFromManaged b (some string)))
    (if ByteBuffer.fits (encode string).length then .ok (some (.ofBytes (encode string)))
      else .error (.allocation "to_native" (encode string).length))
  text : Answers b r t w (use (r, t) (.stringFromManaged b (some string)))
    (if ByteBuffer.fits (encode string).length then .ok (some string)
      else .error (.allocation "to_native" (encode string).length))
  back : Answers b r t w (use (r, t) (.managedFromNative b (some (encode string))))
    (.ok (some string))

/-- What is absent stays absent, and what is empty is there, if there is memory for its
terminator. -/
structure AbsentIsNotEmpty [Memory] (b : ι) (r : ρ) (t : ThreadId) (w : World (Installation ρ ι)) :
    Prop where
  noBytes : Answers b r t w (use (r, t) (.managedFromNative b none)) (.ok none)
  noString : Answers b r t w (use (r, t) (.nativeFromManaged b none)) (.ok none)
  noText : Answers b r t w (use (r, t) (.stringFromManaged b none)) (.ok none)
  emptyBytes : Answers b r t w (use (r, t) (.managedFromNative b (some []))) (.ok (some ""))
  emptyString : Answers b r t w (use (r, t) (.nativeFromManaged b (some "")))
    (if ByteBuffer.fits 0 then .ok (some (.ofBytes [])) else .error (.allocation "to_native" 0))

theorem Ready.bytesReturn [Memory] (h : Ready b r t w.backend) (bytes : List UInt8) :
    BytesReturn b r t w bytes (encode (decodeLossy bytes)) where
  repair _ := repairs_iff
  lossy := rfl
  same := encode_decodeLossy_eq_iff
  answer := h.roundTrip bytes
  again := by
    refine (h.roundTrip bytes).bind fun v hv => ?_
    simpa using hv.roundTrip (encode (decodeLossy bytes))

/-- Whatever memory there is: every sequence of bytes comes back repaired, and stays as it is from
then on; every text goes out as its UTF-8 bytes and comes back as it was. The only thing that can
fail is that the memory for a copy is refused. -/
theorem roundTrip_repairs [Memory] (h : Ready b r t w.backend) :
    (∀ bytes, ∃ fixed, BytesReturn b r t w bytes fixed) ∧ (∀ string, TextReturns b r t w string) ∧
      AbsentIsNotEmpty b r t w := by
  refine ⟨fun bytes => ⟨_, h.bytesReturn bytes⟩, fun string => ?_, ?_⟩
  · have back := h.managedFromNative (encode string)
    rw [decodeLossy_encode] at back
    exact ⟨h.nativeFromManaged string, h.stringFromManaged string, back⟩
  · exact ⟨h.answers_pure _, h.answers_pure _, h.answers_pure _, h.managedFromNative [],
      h.nativeFromManaged ""⟩

end Conversions

/-- Bytes with a zero byte, an encoded surrogate, a sequence that breaks off, an overlong one and
one beyond the last code point come back with U+FFFD for each of their eight invalid parts. -/
theorem roundTrip_repairs_broken :
    ∃ w : World (Installation Unit Unit),
      BytesReturn () () (.named "main") w
        [0x61, 0x00, 0xed, 0xa0, 0x80, 0xf0, 0x9f, 0x98, 0xc0, 0x80, 0xf4, 0x90, 0xc3, 0xa9]
        ([0x61, 0x00] ++ (List.replicate 8 [0xef, 0xbf, 0xbd]).flatten ++ [0xc3, 0xa9]) := by
  let record : ThreadRecord := {}
  let w : World (Installation Unit Unit) :=
    ⟨⟨⟨fun _ => { runtime := { threads := ⟨[(.named "main", record)]⟩ } },
      fun _ => ⟨⟨some ()⟩, ⟨some stringCapabilities⟩⟩⟩, []⟩, .zero⟩
  have ready : Ready () () (.named "main") w.backend := by
    refine ⟨rfl, rfl, by decide, fun kept hkept => ?_, rfl, rfl⟩
    obtain rfl : record = kept := Option.some.inj hkept
    rfl
  obtain ⟨fixed, returned⟩ := (roundTrip_repairs ready).1
    [0x61, 0x00, 0xed, 0xa0, 0x80, 0xf0, 0x9f, 0x98, 0xc0, 0x80, 0xf4, 0x90, 0xc3, 0xa9]
  have hfixed := returned.lossy
  simp only [encode, decodeLossy_toList] at hfixed
  refine ⟨w, ?_⟩
  rwa [hfixed] at returned

end Installation

end ManagedBridge
