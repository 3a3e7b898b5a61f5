import ManagedBridge.Proofs.Installation
import ManagedBridge.Proofs.Isolation
import ManagedBridge.Proofs.Parts

/-!
# A runtime and a bridge in common

Threads that share an in-process runtime enter and leave scopes on it, convert with the bridge that
they share, and raise and drain exceptions. Each of these operations goes, for the thread, as it
would if no other thread worked with the runtime; what the runtime and the bridge count grows in the
same way, and what the other threads see stays as it is.
-/

namespace ManagedBridge

open InProcess

/-- What an operation of a program gives. -/
inductive Result
  | entered (scope : Except BridgeError Attachment)
  | left
  | copied (buffer? : Except BridgeError (Option ByteBuffer))
  | built (string? : Except BridgeError (Option String))
  | thrown
  | drained (found : Bool)
  /-- A body was run in a scope, or was not. -/
  | ran (ended : Except BridgeError Unit)

/-- What threads have in common: a runtime with its arrays, and a bridge over it. What each of them
has been given is kept as well, the first result first. -/
structure Commons where
  host : State
  bridge : Bridge Unit Capabilities
  results : ThreadId → List Result := fun _ => []

namespace Commons

open Routine (Mirrors Returning)

variable {α : Type}

def hostPlace : Place Commons State := ⟨host, fun x s => { s with host := x }⟩

def bridgePlace : Place Commons (Bridge Unit Capabilities) :=
  ⟨bridge, fun b s => { s with bridge := b }⟩

theorem lawful_hostPlace : hostPlace.Lawful := ⟨fun _ _ => rfl, fun _ => rfl, fun _ _ _ => rfl⟩

def context (t : ThreadId) : CallContext Commons Capabilities String ArrayId :=
  (InProcess.context t).zoom hostPlace

/-- The runtime as a thread sees it. -/
def runtime (t : ThreadId) : ManagedRuntime Commons ThreadId :=
  (InProcess.managedRuntime t).zoom hostPlace

/-- The thread puts down what it has been given. -/
def keep (t : ThreadId) (result : Result) : Act Commons Unit :=
  (Call.step fun s =>
    ((), { s with results := Function.update s.results t (s.results t ++ [result]) })).inWorld

/-- To the thread, the second is as the first. -/
structure Alike (t : ThreadId) (held : Held) (s s' : Commons) : Prop where
  host : InProcess.Alike t held s.host s'.host
  bridge : s'.bridge = s.bridge
  results : s'.results t = s.results t

/-- What another thread sees is left alone. -/
structure Kept (t : ThreadId) (held held' : Held) (s s' : Commons) : Prop where
  host : InProcess.Kept t held held' s.host s'.host
  bridge : s'.bridge = s.bridge
  results : ∀ u, u ≠ t → s'.results u = s.results u

/-- The counts have grown by the events. -/
def Counted (events : List BridgeEvent) (c c' : Counter) : Prop :=
  ∀ event, c'.get event = c.get event + UInt64.ofNat (events.count event)

/-- The thread comes to worlds that are alike again. -/
structure Moved (t : ThreadId) (held : Held) (w w' : World Commons) (held' : Held)
    (v v' : World Commons) : Prop where
  alike : Alike t held' v.backend v'.backend
  marked : ∃ marks, Marked marks w.backend.host.runtime v.backend.host.runtime ∧
    Marked marks w'.backend.host.runtime v'.backend.host.runtime
  counted : ∃ events, Counted events w.events v.events ∧ Counted events w'.events v'.events
  kept : Kept t held held' w'.backend v'.backend

/-- A thread's own view, alone and among others. -/
def mirror (t : ThreadId) : Mirror Held (World Commons) where
  Alike held w w' := Alike t held w.backend w'.backend
  Move := Moved t

variable {t : ThreadId} {held held' : Held} {w : World Commons} {s s' : Commons}

theorem counted_nil (c : Counter) : Counted [] c c := fun event => by simp

theorem counted_increment (c : Counter) (event : BridgeEvent) :
    Counted [event] c (c.increment event) := by
  intro other
  rw [Counter.get_increment, List.count_singleton]
  by_cases h : event = other
  · subst h
    simp
  · simp [h]

theorem Counted.append {front back : List BridgeEvent} {c c' c'' : Counter}
    (h : Counted front c c') (h' : Counted back c' c'') : Counted (front ++ back) c c'' := by
  intro event
  rw [h' event, h event, List.count_append, UInt64.ofNat_add, UInt64.add_assoc]

/-- A call on the runtime goes for both as it does on the runtime alone. -/
theorem mirrors_call {Ends : Held → Site State → Except Panic α → Except Panic α → Prop}
    {call call' : Call State α}
    (h : Mirrors (InProcess.mirror t) Ends held ⟨w.backend.host, w.log⟩ call call') :
    Mirrors (mirror t) (fun held' v => Ends held' ⟨v.backend.host, v.log⟩) held w
      (liftM (call.zoom hostPlace) : Act Commons α) (liftM (call'.zoom hostPlace)) := by
  have lawful : (Place.uncounted.inside hostPlace.site).Lawful :=
    Place.lawful_uncounted.inside lawful_hostPlace.site
  have zoomed (c : Call State α) : (liftM (c.zoom hostPlace) : Act Commons α) =
      Routine.zoom (Place.uncounted.inside hostPlace.site) c := Routine.zoom_zoom _ _ c
  rw [zoomed, zoomed]
  refine Mirrors.zoom lawful (fun _ _ _ hs => hs.host) ?_ h
  intro held x x' held' y y' hx hmoved
  exact
    { alike := ⟨hmoved.alike, hx.bridge, hx.results⟩
      marked := hmoved.marked
      counted := ⟨[], counted_nil _, counted_nil _⟩
      kept := ⟨hmoved.kept, rfl, fun _ _ => rfl⟩ }

/-- What changes the log and the counts only. -/
theorem Alike.moved_idle {w' : World Commons} (h : Alike t held w.backend w'.backend)
    {events : List BridgeEvent} {c c' : Counter} {log log' : List LogLine}
    (hc : Counted events w.events c) (hc' : Counted events w'.events c') :
    Moved t held w w' held ⟨⟨w.backend, log⟩, c⟩ ⟨⟨w'.backend, log'⟩, c'⟩ where
  alike := h
  marked := ⟨[], .nil ⟨rfl, rfl, rfl, rfl⟩, .nil ⟨rfl, rfl, rfl, rfl⟩⟩
  counted := ⟨events, hc, hc'⟩
  kept := ⟨⟨rfl, fun _ _ => rfl, fun _ _ h _ => h, fun i _ hheld => .inl ⟨i, hheld⟩⟩, rfl,
    fun _ _ => rfl⟩

/-- What both do at the end of an operation that has succeeded. -/
theorem mirrors_finish {P : Held → Commons → α → α → Prop} {event : BridgeEvent} {line : LogLine}
    {a : α} (h : P held w.backend a a) :
    Mirrors (mirror t) (Returning fun held' v => P held' v.backend) held w
      (do Act.count event; Act.note line; return a)
      (do Act.count event; Act.note line; return a) := by
  intro w' hw
  refine ⟨held, hw.moved_idle (counted_increment _ _) (counted_increment _ _), ?_⟩
  intro v' hv
  exact ⟨held, hv.moved_idle (counted_nil _) (counted_nil _), _, _, rfl, rfl, h⟩

theorem mirrors_note {P : Held → Commons → Unit → Unit → Prop} {line : LogLine}
    (h : P held w.backend () ()) :
    Mirrors (mirror t) (Returning fun held' v => P held' v.backend) held w
      (Act.note line) (Act.note line) :=
  fun _ hw => ⟨held, hw.moved_idle (counted_nil _) (counted_nil _), _, _, rfl, rfl, h⟩

/-- Both find the same bridge. -/
theorem mirrors_readBridge {Ends : Held → World Commons → Except Panic α → Except Panic α → Prop}
    {next next' : Bridge Unit Capabilities → Act Commons α}
    (h : Mirrors (mirror t) Ends held w (next w.backend.bridge) (next' w.backend.bridge)) :
    Mirrors (mirror t) Ends held w
      ((liftM (Call.read bridgePlace) : Act Commons _) >>= next)
      ((liftM (Call.read bridgePlace) : Act Commons _) >>= next') := by
  intro w' hw
  refine ⟨held, hw.moved_idle (counted_nil _) (counted_nil _), ?_⟩
  show Mirrors _ _ _ w (next w.backend.bridge) (next' w'.backend.bridge)
  rw [hw.bridge]
  exact h

theorem mirrors_keep {P : Held → State → Unit → Unit → Prop} {result : Result}
    (h : P held w.backend.host () ()) :
    Mirrors (mirror t) (Returning fun held' v => P held' v.backend.host) held w
      (keep t result) (keep t result) := by
  intro w' hw
  refine ⟨held, ?_, _, _, rfl, rfl, h⟩
  exact
    { alike :=
        { host := hw.host
          bridge := hw.bridge
          results := by
            show Function.update _ _ _ _ = Function.update _ _ _ _
            rw [Function.update_self, Function.update_self]
            exact congrArg (· ++ [result]) hw.results }
      marked := ⟨[], .nil ⟨rfl, rfl, rfl, rfl⟩, .nil ⟨rfl, rfl, rfl, rfl⟩⟩
      counted := ⟨[], counted_nil _, counted_nil _⟩
      kept := ⟨⟨rfl, fun _ _ => rfl, fun _ _ h _ => h, fun i _ hheld => .inl ⟨i, hheld⟩⟩, rfl,
        fun _ hu => Function.update_of_ne hu ..⟩ }

/-- Both give the same, and the arrays that are held stay so. -/
abbrev Same (t : ThreadId) (held : Held) : Held → World Commons → α → α → Prop :=
  fun held' v => InProcess.Same t held held' v.backend.host

theorem mirrors_copyOut {i j : ArrayId} (hready : Ready t (some (i, j)) w.backend.host) :
    Mirrors (mirror t) (Returning (Same t (some (i, j)))) (some (i, j)) w
      (liftM (Marshal.copyOut (context t) i) : Act Commons _)
      (liftM (Marshal.copyOut (context t) j)) := by
  rw [context, Marshal.copyOut_zoom, Marshal.copyOut_zoom]
  exact mirrors_call (InProcess.mirrors_copyOut hready)

theorem mirrors_construct {i j : ArrayId} (caps : Capabilities) (bytes : List UInt8)
    (hready : Ready t (some (i, j)) w.backend.host) :
    Mirrors (mirror t) (Returning (Same t (some (i, j)))) (some (i, j)) w
      (liftM (Marshal.construct (context t) caps i bytes) : Act Commons _)
      (liftM (Marshal.construct (context t) caps j bytes)) := by
  rw [context, Marshal.construct_zoom, Marshal.construct_zoom]
  exact mirrors_call (InProcess.mirrors_construct caps bytes hready)

/-- The array that is obtained is held until it is released. -/
theorem mirrors_toNative (caps : Capabilities) (string? : Option String)
    (hready : Ready t none w.backend.host) :
    Mirrors (mirror t) (Returning (Same t none)) none w
      (Marshal.toNative (context t) caps string?) (Marshal.toNative (context t) caps string?) := by
  cases string? with
  | none => exact .pure ⟨rfl, rfl, hready⟩
  | some string =>
    refine (mirrors_call (InProcess.mirrors_stringBytes caps string hready)).bind_returning ?_
    rintro held v a b hhanded
    obtain ⟨e, rfl, rfl, rfl, hv⟩ | ⟨i, j, rfl, rfl, rfl, hv⟩ := hhanded.split
    · exact .pure ⟨rfl, rfl, hv⟩
    · refine (mirrors_copyOut hv).bind_returning ?_
      rintro _ u copied _ ⟨rfl, rfl, hu⟩
      refine (mirrors_call (Context.mirrors_releaseBytes hu rfl)).bind_returning ?_
      rintro _ x - - ⟨rfl, -, hx⟩
      cases copied with
      | error => exact .pure ⟨rfl, rfl, hx⟩
      | ok buffer =>
        exact mirrors_finish (P := fun held s => InProcess.Same t none held s.host) ⟨rfl, rfl, hx⟩

theorem mirrors_toManaged (caps : Capabilities) (bytes? : Option (List UInt8))
    (hready : Ready t none w.backend.host) :
    Mirrors (mirror t) (Returning (Same t none)) none w
      (Marshal.toManaged (context t) caps bytes?) (Marshal.toManaged (context t) caps bytes?) := by
  cases bytes? with
  | none => exact .pure ⟨rfl, rfl, hready⟩
  | some bytes =>
    refine (mirrors_call (InProcess.mirrors_newByteArray bytes.length hready)).bind_returning ?_
    rintro held v a b hhanded
    obtain ⟨e, rfl, rfl, rfl, hv⟩ | ⟨i, j, rfl, rfl, rfl, hv⟩ := hhanded.split
    · exact .pure ⟨rfl, rfl, hv⟩
    · refine (mirrors_construct caps bytes hv).bind_returning ?_
      rintro _ u built _ ⟨rfl, rfl, hu⟩
      refine (mirrors_call (Context.mirrors_releaseBytes hu rfl)).bind_returning ?_
      rintro _ x - - ⟨rfl, -, hx⟩
      cases built with
      | error => exact .pure ⟨rfl, rfl, hx⟩
      | ok string =>
        exact mirrors_finish (P := fun held s => InProcess.Same t none held s.host) ⟨rfl, rfl, hx⟩

theorem mirrors_nativeFromManaged (string? : Option String)
    (hready : Ready t none w.backend.host) :
    Mirrors (mirror t) (Returning (Same t none)) none w
      (Bridge.nativeFromManaged bridgePlace (context t) string?)
      (Bridge.nativeFromManaged bridgePlace (context t) string?) := by
  cases string? with
  | none => exact .pure ⟨rfl, rfl, hready⟩
  | some string =>
    refine mirrors_readBridge ?_
    cases w.backend.bridge.capabilities with
    | error => exact .pure ⟨rfl, rfl, hready⟩
    | ok caps => exact mirrors_toNative caps _ hready

theorem mirrors_managedFromNative (bytes? : Option (List UInt8))
    (hready : Ready t none w.backend.host) :
    Mirrors (mirror t) (Returning (Same t none)) none w
      (Bridge.managedFromNative bridgePlace (context t) bytes?)
      (Bridge.managedFromNative bridgePlace (context t) bytes?) := by
  cases bytes? with
  | none => exact .pure ⟨rfl, rfl, hready⟩
  | some bytes =>
    refine mirrors_readBridge ?_
    cases w.backend.bridge.capabilities with
    | error => exact .pure ⟨rfl, rfl, hready⟩
    | ok caps => exact mirrors_toManaged caps _ hready

theorem mirrors_stringFromManaged (string? : Option String)
    (hready : Ready t none w.backend.host) :
    Mirrors (mirror t) (Returning (Same t none)) none w
      (Bridge.stringFromManaged bridgePlace (context t) string?)
      (Bridge.stringFromManaged bridgePlace (context t) string?) := by
  refine (mirrors_nativeFromManaged string? hready).bind_returning ?_
  rintro _ v buffer? _ ⟨rfl, rfl, hv⟩
  cases buffer? <;> exact .pure ⟨rfl, rfl, hv⟩

theorem mirrors_drain (hready : Ready t none w.backend.host) :
    Mirrors (mirror t) (Returning (Same t none)) none w
      (drain (context t)) (drain (context t)) := by
  refine (mirrors_call (InProcess.mirrors_exceptionPending hready)).bind_returning ?_
  rintro _ v pending _ ⟨rfl, rfl, hv⟩
  cases pending with
  | false => exact .pure ⟨rfl, rfl, hv⟩
  | true =>
    refine (mirrors_call (Context.mirrors_describeException hv)).bind_returning ?_
    rintro _ u - - ⟨rfl, -, hu⟩
    refine (mirrors_call (InProcess.mirrors_clearException hu)).bind_returning ?_
    rintro _ x - - ⟨rfl, -, hx⟩
    exact mirrors_finish (P := fun held s => InProcess.Same t none held s.host) ⟨rfl, rfl, hx⟩

/-- Uses a context. -/
def use (t : ThreadId) : ContextUse Unit α → Act Commons α
  | .toNative caps string? => Marshal.toNative (context t) caps string?
  | .toManaged caps bytes? => Marshal.toManaged (context t) caps bytes?
  | .nativeFromManaged () string? => Bridge.nativeFromManaged bridgePlace (context t) string?
  | .managedFromNative () bytes? => Bridge.managedFromNative bridgePlace (context t) bytes?
  | .stringFromManaged () string? => Bridge.stringFromManaged bridgePlace (context t) string?
  | .throwException message =>
    ((Context.throwException t message).zoom hostPlace : Call Commons Unit).inWorld
  | .drain => ManagedBridge.drain (context t)

theorem mirrors_use (what : ContextUse Unit α) (hready : Ready t none w.backend.host) :
    Mirrors (mirror t) (Returning (Same t none)) none w (use t what) (use t what) := by
  cases what with
  | toNative caps string? => exact mirrors_toNative caps string? hready
  | toManaged caps bytes? => exact mirrors_toManaged caps bytes? hready
  | nativeFromManaged b string? => exact mirrors_nativeFromManaged string? hready
  | managedFromNative b bytes? => exact mirrors_managedFromNative bytes? hready
  | stringFromManaged b string? => exact mirrors_stringFromManaged string? hready
  | throwException message => exact mirrors_call (InProcess.mirrors_throwException message hready)
  | drain => exact mirrors_drain hready

/-- Both end in the same way, with a result or with a panic, and no array is held. -/
abbrev EndsAlike : Held → World Commons → Except Panic α → Except Panic α → Prop :=
  fun held _ x y => held = none ∧ x = y

theorem EndsAlike.panic {β : Type} {panic panic' : Panic} {v : World Commons}
    (h : EndsAlike held v (.error panic : Except Panic α) (.error panic')) :
    EndsAlike held v (.error panic : Except Panic β) (.error panic') :=
  ⟨h.1, congrArg Except.error (Except.error.inj h.2)⟩

theorem mirrors_enter :
    Mirrors (mirror t) (Returning fun held _ a b => held = none ∧ a = b) none w
      (Attachment.enter (runtime t)) (Attachment.enter (runtime t)) := by
  refine (mirrors_call mirrors_currentContext).bind_returning ?_
  rintro _ v current? _ ⟨rfl, rfl⟩
  cases current? with
  | some context => exact mirrors_finish (P := fun held _ a b => held = none ∧ a = b) ⟨rfl, rfl⟩
  | none =>
    refine (mirrors_call mirrors_attachCurrentThread).bind_returning ?_
    rintro _ u attached _ ⟨rfl, rfl⟩
    cases attached with
    | ok context => exact mirrors_finish (P := fun held _ a b => held = none ∧ a = b) ⟨rfl, rfl⟩
    | error source =>
      refine (mirrors_note (P := fun held _ _ _ => held = none) rfl).bind_returning ?_
      rintro _ x - - rfl
      exact .pure ⟨rfl, rfl⟩

/-- A scope may be left with a panic, which is the same for both. -/
theorem mirrors_exit (scope : Attachment) :
    Mirrors (mirror t) EndsAlike none w
      (Attachment.exit (runtime t) scope) (Attachment.exit (runtime t) scope) := by
  unfold Attachment.exit
  split
  · refine (mirrors_call mirrors_detachCurrentThread).bind ?_ fun _ _ _ _ h => h
    rintro _ v _ _ ⟨rfl, -⟩
    intro w' hw
    refine ⟨none, hw.moved_idle (counted_increment _ _) (counted_increment _ _), ?_⟩
    intro v' hv
    exact ⟨none, hv.moved_idle (counted_nil _) (counted_nil _), rfl, rfl⟩
  · exact ⟨rfl, rfl⟩

theorem mirrors_andFinally {body : Act Commons α} {last : Act Commons Unit}
    (hbody : Mirrors (mirror t) EndsAlike none w body body)
    (hlast : ∀ ended v, body.run w = (ended, v) →
      Mirrors (mirror t) EndsAlike none v last last) :
    Mirrors (mirror t) EndsAlike none w (body.andFinally last) (body.andFinally last) := by
  refine hbody.with_run.handle ?_ ?_
  · rintro _ v a _ ⟨⟨rfl, heq⟩, hrun⟩
    cases heq
    exact (hlast _ v hrun).handle (fun _ _ _ _ h => ⟨h.1, rfl⟩) fun _ _ _ _ h => h.panic
  · rintro _ v panic _ ⟨⟨rfl, heq⟩, hrun⟩
    cases heq
    cases panic with
    | raised message =>
      exact (hlast _ v hrun).handle (fun _ _ _ _ h => ⟨h.1, rfl⟩) fun _ _ _ _ h => ⟨h.1, rfl⟩
    | abort => exact ⟨rfl, rfl⟩

theorem mirrors_within {body : ThreadId → Act Commons α}
    (inside : ∀ context scope v,
      (Attachment.enter (runtime t)).run w = (.ok (.ok (context, scope)), v) →
      Mirrors (mirror t) EndsAlike none v (body context) (body context)) :
    Mirrors (mirror t) EndsAlike none w
      (Attachment.within (runtime t) body) (Attachment.within (runtime t) body) := by
  refine mirrors_enter.with_run.bind ?_ ?_
  · rintro _ v entered _ ⟨⟨_, _, ⟨⟩, ⟨⟩, rfl, rfl⟩, hrun⟩
    cases entered with
    | error => exact ⟨rfl, rfl⟩
    | ok entered =>
      obtain ⟨context, scope⟩ := entered
      refine (mirrors_andFinally (inside context scope v hrun) fun _ _ _ => mirrors_exit scope).bind
        ?_ fun _ _ _ _ h => h.panic
      rintro _ u a _ ⟨rfl, heq⟩
      cases heq
      exact ⟨rfl, rfl⟩
  · rintro _ _ _ _ ⟨⟨_, _, ⟨⟩, -⟩, -⟩

end Commons

end ManagedBridge
