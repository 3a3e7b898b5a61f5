import ManagedBridge.Proofs.Granting
import ManagedBridge.Proofs.Presence

/-!
# Scripts over a virtual machine

A virtual machine that decodes UTF-8 with replacement serves scripts: over a bridge that is started
with it every script comes to what is told of it, unless a function of the machine fails, or an
array would be longer than arrays can be.
-/

namespace ManagedBridge.Jvm

open Text

variable {μ ε χ ω α : Type}

/-- Does what `f` does, past the notes. -/
def unnoted (f : StateM μ α) : StateM (μ × ω) α := fun s => ((f s.1).1, ((f s.1).2, s.2))

theorem Reading.Adds.unnoted {R : Reading μ ε χ} {env : ε} {f : StateM μ α}
    {post : μ → α → μ → Prop} (h : R.Adds env f post) :
    (R.beside ω).Adds env (unnoted f) fun m a m' => post m.1 a m'.1 :=
  fun m hm => ⟨(h m.1 hm).1.beside, (h m.1 hm).2⟩

/-- What a script works with on a thread: the runtime that the bridge was started with, the charset
that was resolved and the capabilities. -/
structure Setting (χ : Type) where
  thread : ThreadId
  runtime : Runtime
  charset : χ
  caps : Capabilities

/-- What conversions rest on in an environment. -/
abbrev Setting.footing (x : Setting χ) (env : ε) : Footing ε χ :=
  ⟨x.thread, env, x.runtime.config.stringClass, x.charset, x.caps⟩

/-- Texts as the machine has them. -/
def written (known : List (Ref × String)) : Known := known.map (.map id Utf16.encode)

/-- A machine does what the scripts of a thread need: its functions do what they are for, exceptions
can be raised past the bridge, and what it knows as UTF-8 is decoded with replacement. -/
structure Dependable (vm : InvocationInterface μ ε) (R : Reading μ ε χ) (C : Charsets χ)
    (Sound : μ → Prop) (raise : ε → String → StateM μ Unit) (t : ThreadId)
    (stringClass : String) : Prop where
  natives : ∀ env, (vm.functions env).Faithful R C stringClass env
  reports : ∀ env, (vm.functions env).Reports R env
  invocation : vm.Faithful R Sound t
  raise : ∀ env message, R.Adds env (raise env message) fun _ _ m' => R.pending m' env = true
  encode : ∀ cs, C.named "UTF-8" = some cs → C.encode cs = Charset.utf8.encode
  decode : ∀ cs, C.named "UTF-8" = some cs → C.decode cs = Charset.utf8.decode

/-- How a thread stands with a machine. An attachment for a scope is one for which this side
answers. -/
inductive StandsAs (R : Reading μ ε χ) (Sound : μ → Prop) (x : Setting χ) :
    Option (Context ε × Bool) → Bool → List (Ref × String) → Link μ → Prop
  | away {pending : Bool} {known : List (Ref × String)} {l : Link μ} (sound : Sound l.machine)
    (detached : R.environment l.machine x.thread = none)
    (resolved : Resolved R x.runtime.config.stringClass x.charset x.caps l.machine)
    (unguarded : x.thread ∉ l.guarded) : StandsAs R Sound x none pending known l
  | present {env : ε} {created : Bool} {known : List (Ref × String)} {l : Link μ}
    (idle : Idle R (x.footing env) (written known) l.machine)
    (guarded : created = true → ∃ others, l.guarded = x.thread :: others ∧ x.thread ∉ others) :
    StandsAs R Sound x (some (⟨env, x.runtime.config⟩, created)) (R.pending l.machine env) known l

section Standing

variable {R : Reading μ ε χ} {Sound : μ → Prop} {x : Setting χ} {l : Link μ}
  {position : Option (Context ε × Bool)} {c : Context ε} {created pending : Bool}
  {known new : List (Ref × String)}

theorem StandsAs.environment (h : StandsAs R Sound x position pending known l) :
    (R.environment l.machine x.thread).isSome = position.isSome := by
  cases h with
  | away _ detached => rw [detached]; rfl
  | present idle => rw [idle.current]; rfl

theorem StandsAs.forget (h : StandsAs R Sound x position pending (new ++ known) l) :
    StandsAs R Sound x position pending known l := by
  cases h with
  | away sound detached resolved unguarded => exact .away sound detached resolved unguarded
  | present idle guarded =>
    refine .present ⟨idle.callable, idle.current, idle.resolved, ?_⟩ guarded
    intro string units hmem
    refine idle.strings string units ?_
    rw [written, List.map_append]
    exact List.mem_append_right _ hmem

/-- Where nothing is lost the thread stands as it did, but an exception may have come or gone. -/
theorem StandsAs.kept {s u : Site (Link μ)}
    (h : StandsAs R Sound x (some (c, created)) pending known s.backend)
    (hkept : Kept R c.env Reading.nothing s u) :
    StandsAs R Sound x (some (c, created)) (R.pending u.backend.machine c.env) known u.backend := by
  cases h with
  | present idle guarded =>
    refine .present (idle.keeps hkept.machine fun _ _ => False.elim) fun hcreated => ?_
    rw [hkept.guarded]
    exact guarded hcreated

theorem StandsAs.pending_eq (h : StandsAs R Sound x (some (c, created)) pending known l) :
    R.pending l.machine c.env = pending := by
  cases h
  rfl

theorem StandsAs.callable (h : StandsAs R Sound x (some (c, created)) pending known l) :
    R.callable l.machine c.env := by
  cases h with
  | present idle => exact idle.callable

theorem Kept.refl {env : ε} {s : Site (Link μ)} (h : R.callable s.backend.machine env) :
    Kept R env Reading.nothing s s :=
  ⟨⟨h, rfl, fun href _ => href, fun hpinned _ => hpinned, id⟩, rfl⟩

end Standing

section Calls

variable {vm : InvocationInterface μ ε} {R : Reading μ ε χ} {C : Charsets χ} {Sound : μ → Prop}
  {x : Setting χ}

/-- An attached thread is given its context, and one that is detached none. -/
theorem stands_currentContext (invocation : vm.Faithful R Sound x.thread)
    (position : Option (Context ε × Bool)) (pending : Bool) (known : List (Ref × String)) :
    (x.runtime.operations vm x.thread).currentContext.Returns
      (StandsAs R Sound x position pending known)
      fun c? l => c? = position.map Prod.fst ∧ StandsAs R Sound x position pending known l := by
  intro s hs
  cases hs with
  | away sound detached resolved unguarded =>
    obtain ⟨hcode, hnone, hsound, hendures⟩ := invocation.getEnvDetached _ sound detached
    obtain ⟨e, hrun⟩ := getEnv_run_detached hcode
    exact ⟨_, _, Routine.run_bind_ok hrun _, rfl,
      .away hsound hnone (resolved.endures hendures) unguarded⟩
  | @present env created known l idle guarded =>
    obtain ⟨hout, hkeeps, hpending⟩ := invocation.getEnv _ env idle.callable idle.current
    refine ⟨_, _, Routine.run_bind_ok (getEnv_run_attached hout) _, rfl, ?_⟩
    rw [← hpending]
    exact .present (l := (Link.after (vm.getEnv x.thread) s).backend)
      (idle.keeps hkeeps fun _ _ => False.elim) guarded

/-- A thread that was attached for a scope is detached. -/
theorem stands_detachCurrentThread (invocation : vm.Faithful R Sound x.thread) (c : Context ε)
    (pending : Bool) (known : List (Ref × String)) :
    (x.runtime.operations vm x.thread).detachCurrentThread.Returns
      (StandsAs R Sound x (some (c, true)) pending known)
        fun _ => StandsAs R Sound x none false [] := by
  intro s hs
  cases hs with
  | @present env _ _ _ idle guarded =>
    obtain ⟨others, hguarded, hnew⟩ := guarded rfl
    obtain ⟨hnone, hsound, hendures⟩ :=
      invocation.detachCurrentThread _ env idle.callable idle.current
    refine ⟨(), _, release_run s, ?_⟩
    rw [hguarded, if_pos (List.mem_cons_self ..), List.erase_cons_head]
    exact .away hsound hnone (idle.resolved.endures hendures) hnew

/-- An exception that is raised is pending. -/
theorem stands_raise {raise : StateM μ Unit} (c : Context ε) (created pending : Bool)
    (known : List (Ref × String)) (hraise : R.Adds c.env raise fun _ _ m' =>
      R.pending m' c.env = true) :
    (Link.call raise).Returns (StandsAs R Sound x (some (c, created)) pending known)
      fun _ => StandsAs R Sound x (some (c, created)) true known := by
  intro s hs
  obtain ⟨hkeeps, hpending⟩ := hraise _ hs.callable
  refine ⟨(), Link.after raise s, rfl, ?_⟩
  rw [← hpending]
  exact hs.kept (u := Link.after raise s) ⟨hkeeps, rfl⟩

/-- A pending exception is found and cleared, however its report goes. -/
theorem stands_drains (natives : ∀ env, (vm.functions env).Faithful R C
      x.runtime.config.stringClass env)
    (reports : ∀ env, (vm.functions env).Reports R env) (c : Context ε) (created : Bool)
    (known : List (Ref × String)) :
    (c.operations vm x.thread).Drains
      (fun pending => StandsAs R Sound x (some (c, created)) pending known)
      fun l => ∃ pending, StandsAs R Sound x (some (c, created)) pending known l where
  exceptionPending pending := by
    intro s hs
    obtain ⟨found, u, hrun, hfound, hkept, hpending⟩ := pending_kept (natives c.env) pending s
      ⟨Kept.refl hs.callable, hs.pending_eq⟩
    exact ⟨found, u, hrun, hfound, hpending ▸ hs.kept hkept⟩
  describeException := by
    intro s hs
    obtain ⟨_, u, hrun, hkept⟩ := describe_kept (natives c.env) (reports c.env)
      c.config.describeExceptions s (Kept.refl hs.callable)
    exact ⟨(), u, hrun, _, hs.kept hkept⟩
  clearException := by
    rintro s ⟨pending, hs⟩
    obtain ⟨_, u, hrun, hkept, hclear⟩ := clear_kept (natives c.env) (reports c.env) s
      (Kept.refl hs.callable)
    exact ⟨(), u, hrun, hclear ▸ hs.kept hkept⟩

end Calls

section Noted

variable {vm : InvocationInterface μ ε} {R : Reading μ ε χ} {C : Charsets χ} {Sound : μ → Prop}
  {x : Setting χ}

/-- A machine with notes is as sound as the machine. -/
abbrev soundNoted (Sound : μ → Prop) (m : μ × List (Note μ)) : Prop := Sound m.1

/-- A detached thread is attached, unless the machine fails to attach it. -/
theorem stands_attachCurrentThread (invocation : vm.Faithful R Sound x.thread)
    (pending : Bool) (known : List (Ref × String)) :
    (x.runtime.operations (vm.recorded Prod.mk) x.thread).attachCurrentThread.Returns
      (StandsAs R.noted (soundNoted Sound) x none pending known)
      (OrFailed (Failed vm R x.thread) fun r l => ∃ c, r = .ok c ∧
        StandsAs R.noted (soundNoted Sound) x (some (c, true)) false [] l) := by
  intro s hs
  cases hs with
  | away sound detached resolved unguarded =>
    have invocation' := invocation.recorded (Prod.mk : μ → NativeCall → Note μ)
    obtain ⟨hcode, hnone, hsound, hendures⟩ := invocation'.getEnvDetached _ sound detached
    have hattach := attach_run hcode
    by_cases hout : (vm.attachCurrentThread x.thread (vm.getEnv x.thread s.backend.machine.1).2).1.1
        = 0
    · obtain ⟨env, henv, hcurrent, hcallable, hpending, hendures'⟩ :=
        invocation'.attachCurrentThread _ hsound hnone hout
      have hguarded : (Link.attachGuarded (vm.recorded Prod.mk) x.thread).run.run
          (Link.after ((vm.recorded Prod.mk).getEnv x.thread) s) = _ :=
        attachGuarded_run unguarded (Prod.ext hout henv)
      have hattached : Succeeds (Link.attach (vm.recorded Prod.mk) x.thread) s env _ :=
        hattach.trans hguarded
      refine ⟨_, _, hattached.ofChecked.run_bind _, .inr ⟨_, rfl, ?_⟩⟩
      rw [← hpending]
      refine StandsAs.present (l := ⟨_, x.thread :: s.backend.guarded⟩) ⟨hcallable, hcurrent,
        (resolved.endures hendures).endures hendures', ?_⟩ fun _ => ⟨_, rfl, unguarded⟩
      exact fun _ _ hmem => nomatch hmem
    · obtain ⟨e, hrefused⟩ : ∃ e, (Link.attachGuarded (vm.recorded Prod.mk) x.thread).run.run
          (Link.after ((vm.recorded Prod.mk).getEnv x.thread) s) = (.ok (.error e), _) :=
        attachGuarded_run_refused hout
      have hmapped := run_ofChecked_error (hattach.trans hrefused)
      refine ⟨_, _, Routine.run_bind_ok hmapped _, .inl ⟨⟨_, rfl⟩, ?_⟩⟩
      refine ⟨(_, .attachCurrentThread x.thread), ?_, decide_eq_true hout⟩
      exact List.mem_append_left _ (List.mem_append_right _ (.head _))

/-- What has failed stays failed when a thread is released. -/
theorem failed_release (t : ThreadId) :
    (Link.release (vm.recorded Prod.mk) t).Returns (Failed vm R t) fun _ => Failed vm R t := by
  rintro s ⟨note, hnoted, hfails⟩
  refine ⟨(), _, release_run s, note, ?_, hfails⟩
  dsimp only
  split
  · exact List.mem_append_left _ hnoted
  · exact hnoted

/-- No exception is pending, and this side answers for an attachment that was made for a scope. -/
def AtEase (R : Reading μ ε χ) (t : ThreadId) (env : ε) (created : Bool) (l : Link μ) : Prop :=
  R.pending l.machine env = false ∧
    (created = true → ∃ others, l.guarded = t :: others ∧ t ∉ others)

theorem atEase_lasts (t : ThreadId) (env : ε) (created : Bool) :
    Context.Lasts R env (AtEase R t env created) := by
  rintro lost s u ⟨hquiet, hguarded⟩ hkept hpending
  refine ⟨hpending.elim id (·.trans hquiet), fun hcreated => ?_⟩
  rw [hkept.guarded]
  exact hguarded hcreated

variable {raise : ε → String → StateM μ Unit}

/-- In UTF-8 texts are carried across as they are in an in-process runtime. -/
theorem operations_carries_texts
    (h : Dependable vm R C Sound raise x.thread x.runtime.config.stringClass)
    (named : C.named "UTF-8" = some x.charset) (env : ε) (created : Bool) :
    ((⟨env, x.runtime.config⟩ : Context ε).operations (vm.recorded Prod.mk) x.thread).Carries
      x.caps Utf8.encode Utf8.decodeLossy (· ≤ Context.maxArrayLen) (Failed vm R x.thread)
      (fun known l => Idle R.noted (x.footing env) (written known) l.machine ∧
        AtEase R.noted x.thread env created l)
      fun known array bytes l =>
        Holds R.noted (x.footing env) (written known) array bytes l.machine ∧
          AtEase R.noted x.thread env created l := by
  refine (Context.operations_carries_while _ (h.natives env)
    (atEase_lasts x.thread env created)).rewrite ?_ ?_
  · intro text
    rw [h.encode _ named, Charset.encode_utf8]
  · intro bytes
    rw [h.decode _ named, Charset.decode_utf8]

end Noted

namespace Process

/-- The bridge of a process, as a thread has it. -/
def backend (vm : InvocationInterface μ ε) (t : ThreadId) (raise : ε → String → StateM μ Unit)
    (attached : μ → Bool) : Backend (Process μ) Runtime Capabilities Ref Handle (Context ε) where
  place := bridgePlace
  runtime := runtime vm t
  context := context vm t
  raise c message := (Link.call (raise c.env message)).zoom linkPlace
  attached p := attached p.link.machine

/-- The bridge of a process over a machine that is noted down. Exceptions are raised past the
notes. -/
abbrev notedBackend (vm : InvocationInterface μ ε) (R : Reading μ ε χ)
    (raise : ε → String → StateM μ Unit) (t : ThreadId) :
    Backend (NotedProcess μ) Runtime Capabilities Ref Handle (Context ε) :=
  backend (vm.recorded Prod.mk) t (fun env message => unnoted (raise env message))
    fun m => (R.environment m.1 t).isSome

/-- The bridge is started with the runtime and the capabilities of the setting. -/
def Started (x : Setting χ) (p : Process μ) : Prop :=
  p.bridge.runtime = .ok x.runtime ∧ p.bridge.capabilities = .ok x.caps

/-- The bridge is started, and the thread stands with the machine as said. -/
def Placed (R : Reading μ ε χ) (Sound : μ → Prop) (x : Setting χ)
    (position : Option (Context ε × Bool)) (pending : Bool) (known : List (Ref × String))
    (p : Process μ) : Prop :=
  StandsAs R Sound x position pending known (linkPlace.get p) ∧ Started x p

variable {vm : InvocationInterface μ ε} {R : Reading μ ε χ} {C : Charsets χ} {Sound : μ → Prop}
  {raise : ε → String → StateM μ Unit} {x : Setting χ}

section Places

variable {position position' : Option (Context ε × Bool)} {pending pending' : Bool}
  {known known' : List (Ref × String)} {call : Call (Link μ) α}

/-- What a call does to how the thread stands with the machine it does in the process. -/
theorem placed_zoom {Q : α → Prop}
    (h : call.Returns (StandsAs R Sound x position pending known)
      fun a l => Q a ∧ StandsAs R Sound x position' pending' known' l) :
    (call.zoom linkPlace).Returns (Placed R Sound x position pending known)
      fun a p => Q a ∧ Placed R Sound x position' pending' known' p :=
  (h.zoom_aside lawful_linkPlace (Started x) fun _ _ => id).mono
    fun _ _ hp => ⟨hp.1.1, hp.1.2, hp.2⟩

theorem placed_after (h : call.Returns (StandsAs R Sound x position pending known)
      fun _ => StandsAs R Sound x position' pending' known') :
    (call.zoom linkPlace).Returns (Placed R Sound x position pending known)
      fun _ => Placed R Sound x position' pending' known' :=
  h.zoom_aside lawful_linkPlace (Started x) fun _ _ => id

end Places

theorem Placed.carries
    (h : Dependable vm R C Sound raise x.thread x.runtime.config.stringClass)
    (named : C.named "UTF-8" = some x.charset) {c : Context ε} {created : Bool}
    {known : List (Ref × String)} {p : NotedProcess μ}
    (hp : Placed R.noted (soundNoted Sound) x (some (c, created)) false known p) :
    (notedBackend vm R raise x.thread).CarriesFrom c x.caps (· ≤ Context.maxArrayLen)
      (fun p => Failed vm R x.thread p.link)
      (Placed R.noted (soundNoted Sound) x (some (c, created)) false) known p := by
  obtain ⟨hstands, hbridge⟩ := hp
  generalize hpending : false = pending at hstands
  cases hstands with
  | @present env _ _ _ idle guarded =>
    have hcarries :=
      (operations_carries_texts h named env created).zoom Process.lawful_linkPlace p
    refine ⟨_, _, _, hcarries, ⟨⟨idle, hpending.symm, guarded⟩, p.link, rfl⟩, ?_,
      fun _ hfailed => hfailed.1⟩
    rintro known' _ ⟨⟨hidle, hquiet, hguarded⟩, link, rfl⟩
    refine ⟨?_, hbridge⟩
    rw [← hpending, ← hquiet]
    exact .present hidle hguarded

/-- No array is longer than arrays can be. -/
theorem newByteArray_tooLong (vm : InvocationInterface μ ε) (t : ThreadId) (c : Context ε)
    {len : Nat} (long : Context.maxArrayLen < len) :
    ((context vm t c).newByteArray len).Returns (fun _ => True)
      fun r _ => r = .error .outOfMemory := by
  have hrefused : (Context.newByteArray (vm.functions c.env) len).run.Returns (fun _ => True)
      fun r _ => r = .error .outOfMemory := by
    rw [Context.newByteArray, if_neg (Nat.not_le_of_lt long)]
    exact .pure fun _ _ => rfl
  exact hrefused.zoom_part lawful_linkPlace

/-- A machine that is dependable serves scripts, unless one of its functions fails. -/
theorem backend_serves
    (h : Dependable vm R C Sound raise x.thread x.runtime.config.stringClass)
    (named : C.named "UTF-8" = some x.charset) :
    (notedBackend vm R raise x.thread).Serves Context.maxArrayLen x.runtime x.caps True
      (· ≤ Context.maxArrayLen) (fun p => Failed vm R x.thread p.link)
      (Placed R.noted (soundNoted Sound) x) where
  attached hp := hp.1.environment
  forget hp := ⟨hp.1.forget, hp.2⟩
  initialized hp := hp.2
  currentContext position pending known :=
    placed_zoom (stands_currentContext (h.invocation.recorded _) position pending known)
  attachCurrentThread := by
    refine ((stands_attachCurrentThread h.invocation false []).zoom_aside lawful_linkPlace
      (Started x) fun _ _ => id).mono ?_
    rintro r p ⟨⟨⟨e, rfl⟩, hfailed⟩ | ⟨c, rfl, hp⟩, hbridge⟩
    · exact .inl ⟨⟨e, rfl⟩, hfailed⟩
    · exact .inr ⟨c, rfl, hp, hbridge⟩
  detachCurrentThread c pending known :=
    placed_after (stands_detachCurrentThread (h.invocation.recorded _) c pending known)
  detachFailed := (failed_release x.thread).zoom_part lawful_linkPlace
  raise c created known message :=
    placed_after (stands_raise c created false known (h.raise c.env message).unnoted)
  drains c created known :=
    ⟨_, (stands_drains (fun env => (h.natives env).recorded _)
      (fun env => (h.reports env).recorded _) c created known).zoom_aside lawful_linkPlace
        (Started x) fun _ _ => id⟩
  carries := Placed.carries h named
  fits len hlen := ⟨hlen, ByteBuffer.fits_of_lt (Nat.lt_of_le_of_lt hlen (by decide))⟩
  bound _ _ := id
  long _ c created known len hlen s _ := newByteArray_tooLong _ _ c hlen s trivial
  detachAlways _ := by
    have hrelease : (Link.release (vm.recorded Prod.mk) x.thread).Returns (fun _ => True)
        fun _ _ => True := Link.release_total _ _
    exact hrelease.zoom_part lawful_linkPlace

end Process

end ManagedBridge.Jvm
