import Mathlib.Algebra.BigOperators.Group.Finset.Piecewise
import ManagedBridge.Proofs.Commons

/-!
# Threads side by side

Threads share an in-process runtime and a bridge, and each runs a program of its own, which goes on
as it is answered. The steps of all come in any order. Still each thread is given what it would be
given alone, and stands with the runtime as it would alone; and what the runtime and the bridge
count is the sum of what they would count for each.
-/

namespace ManagedBridge.Commons

open InProcess
open Routine (Mirrors Returning)

variable {α β : Type} {t u : ThreadId} {w : World Commons}

/-- What the operation gives is kept. -/
def keeping (t : ThreadId) (result : α → Result) (act : Act Commons α) : Act Commons α := do
  let a ← act
  keep t (result a)
  return a

/-- The result of a use of a context. -/
def resultOf : ContextUse Unit α → α → Result
  | .toNative .., buffer? => .copied buffer?
  | .toManaged .., string? => .built string?
  | .nativeFromManaged .., buffer? => .copied buffer?
  | .managedFromNative .., string? => .built string?
  | .stringFromManaged .., string? => .built string?
  | .throwException _, _ => .thrown
  | .drain, found => .drained found

/-- What a thread does, which uses contexts only while it is attached if it goes through alone,
from the world `w`. It may panic at any point, and may catch a panic. -/
inductive Careful (t : ThreadId) : World Commons → {α : Type} → Act Commons α → Prop
  | pure {w : World Commons} {α : Type} (a : α) : Careful t w (pure a)
  | bind {w : World Commons} {α β : Type} {first : Act Commons α} {next : α → Act Commons β}
    (start : Careful t w first)
    (rest : ∀ a v, first.run w = (.ok a, v) → Careful t v (next a)) : Careful t w (first >>= next)
  | raise {w : World Commons} {α : Type} (message : String) :
    Careful t w (throw (.raised message) : Act Commons α)
  | caught {w : World Commons} {α : Type} {body : Act Commons α} (inside : Careful t w body) :
    Careful t w body.caught
  | andFinally {w : World Commons} {α : Type} {body : Act Commons α} {last : Act Commons Unit}
    (inside : Careful t w body) (after : ∀ ended v, body.run w = (ended, v) → Careful t v last) :
    Careful t w (body.andFinally last)
  | use {w : World Commons} {α : Type} (attached : (w.backend.host.runtime.threads.get? t).isSome)
    (what : ContextUse Unit α) : Careful t w (keeping t (resultOf what) (use t what))
  | enter {w : World Commons} : Careful t w
    (keeping t (fun entered => .entered (entered.map (·.2))) (Attachment.enter (runtime t)))
  | attach {w : World Commons} : Careful t w
    (keeping t (fun entered => .entered (entered.map (·.2.2)))
      (Bridge.attach bridgePlace fun _ => runtime t))
  | exit {w : World Commons} (scope : Attachment) :
    Careful t w (keeping t (fun _ => .left) (Attachment.exit (runtime t) scope))
  | within {w : World Commons} {α : Type} {body : ThreadId → Act Commons α}
    (inside : ∀ context scope v,
      (Attachment.enter (runtime t)).run w = (.ok (.ok (context, scope)), v) →
      Careful t v (body context)) :
    Careful t w (keeping t (fun ended => .ran (ended.map fun _ => ()))
      (Attachment.within (runtime t) body))
  | withAttachment {w : World Commons} {α : Type} {body : ThreadId → Act Commons α}
    (inside : ∀ context scope v,
      (Attachment.enter (runtime t)).run w = (.ok (.ok (context, scope)), v) →
      Careful t v (body context)) :
    Careful t w (keeping t (fun ended => .ran (ended.map fun _ => ()))
      (Bridge.withAttachment bridgePlace (fun _ => runtime t) body))

theorem mirrors_keeping {act : Act Commons α} {result : α → Result}
    (h : Mirrors (mirror t) EndsAlike none w act act) :
    Mirrors (mirror t) EndsAlike none w (keeping t result act) (keeping t result act) := by
  refine h.bind ?_ fun _ _ _ _ h => h
  rintro _ v a _ ⟨rfl, heq⟩
  cases heq
  refine (mirrors_keep (P := fun held _ _ _ => held = none) rfl).bind_returning ?_
  rintro _ u - - rfl
  exact ⟨rfl, rfl⟩

theorem mirrors_caught {body : Act Commons α} (h : Mirrors (mirror t) EndsAlike none w body body) :
    Mirrors (mirror t) EndsAlike none w body.caught body.caught := by
  refine h.handle ?_ ?_
  · rintro _ v a _ ⟨rfl, heq⟩
    cases heq
    exact ⟨rfl, rfl⟩
  · rintro _ v panic _ ⟨rfl, heq⟩
    cases heq
    cases panic <;> exact ⟨rfl, rfl⟩

theorem mirrors_attach :
    Mirrors (mirror t) EndsAlike none w (Bridge.attach bridgePlace fun _ => runtime t)
      (Bridge.attach bridgePlace fun _ => runtime t) := by
  refine mirrors_readBridge ?_
  cases w.backend.bridge.runtime with
  | error => exact ⟨rfl, rfl⟩
  | ok =>
    refine mirrors_enter.bind ?_ ?_
    · rintro _ v entered _ ⟨_, _, ⟨⟩, ⟨⟩, rfl, rfl⟩
      cases entered <;> exact ⟨rfl, rfl⟩
    · rintro _ _ _ _ ⟨_, _, ⟨⟩, -⟩

/-- A careful program does for the thread, among others, what it does alone. -/
theorem Careful.mirrors {act : Act Commons α} (h : Careful t w act) :
    Mirrors (mirror t) EndsAlike none w act act := by
  induction h with
  | pure a => exact ⟨rfl, rfl⟩
  | bind start rest ihStart ihRest =>
    refine ihStart.with_run.bind ?_ fun _ _ _ _ h => h.1.panic
    rintro _ v a _ ⟨⟨rfl, heq⟩, hrun⟩
    cases heq
    exact ihRest a v hrun
  | raise message => exact ⟨rfl, rfl⟩
  | caught inside ih => exact mirrors_caught ih
  | andFinally inside after ihInside ihAfter => exact mirrors_andFinally ihInside ihAfter
  | @use w _ attached what =>
    have hready : Ready t none w.backend.host :=
      (Option.isSome_iff_exists.mp attached).imp fun _ hrecord => ⟨hrecord, nofun⟩
    refine mirrors_keeping ((mirrors_use what hready).mono ?_)
    rintro _ v _ _ ⟨a, _, rfl, rfl, rfl, rfl, -⟩
    exact ⟨rfl, rfl⟩
  | enter =>
    refine mirrors_keeping (mirrors_enter.mono ?_)
    rintro _ v _ _ ⟨a, _, rfl, rfl, rfl, rfl⟩
    exact ⟨rfl, rfl⟩
  | attach => exact mirrors_keeping mirrors_attach
  | exit scope => exact mirrors_keeping (mirrors_exit scope)
  | within inside ih => exact mirrors_keeping (mirrors_within ih)
  | @withAttachment w _ _ inside ih =>
    refine mirrors_keeping (mirrors_readBridge ?_)
    cases w.backend.bridge.runtime with
    | error => exact ⟨rfl, rfl⟩
    | ok => exact mirrors_within ih

/-- What of a list is the thread's own. -/
def shareOf (t : ThreadId) (l : List (ThreadId × α)) : List α := (l.filter (·.1 = t)).map (·.2)

theorem shareOf_append (front back : List (ThreadId × α)) :
    shareOf t (front ++ back) = shareOf t front ++ shareOf t back := by
  rw [shareOf, List.filter_append, List.map_append]
  rfl

theorem shareOf_cons_self (x : ThreadId × α) (l : List (ThreadId × α)) :
    shareOf x.1 (x :: l) = x.2 :: shareOf x.1 l := by
  rw [shareOf, List.filter_cons_of_pos (by simp), List.map_cons]
  rfl

theorem shareOf_cons_of_ne {x : ThreadId × α} (h : x.1 ≠ t) (l : List (ThreadId × α)) :
    shareOf t (x :: l) = shareOf t l := by
  rw [shareOf, List.filter_cons_of_neg (by simpa using h)]
  rfl

theorem shareOf_own (l : List α) : shareOf t (l.map (t, ·)) = l := by
  induction l with
  | nil => rfl
  | cons a l ih => rw [List.map_cons, shareOf_cons_self (t, a), ih]

theorem shareOf_other (h : u ≠ t) (l : List α) : shareOf u (l.map (t, ·)) = [] := by
  induction l with
  | nil => rfl
  | cons a l ih => rw [List.map_cons, shareOf_cons_of_ne (Ne.symm h), ih]

/-- What occurs in a list occurs in the shares of its threads. -/
theorem count_shares [DecidableEq α] {names : Finset ThreadId} {l : List (ThreadId × α)}
    (hnames : ∀ x ∈ l, x.1 ∈ names) (a : α) :
    (l.map (·.2)).count a = ∑ t ∈ names, (shareOf t l).count a := by
  induction l with
  | nil => simp [shareOf]
  | cons x l ih =>
    have hx : x.1 ∈ names := hnames x List.mem_cons_self
    have hcons (t : ThreadId) : (shareOf t (x :: l)).count a =
        (shareOf t l).count a + if x.1 = t then (if x.2 = a then 1 else 0) else 0 := by
      by_cases ht : x.1 = t
      · subst ht
        simp [shareOf_cons_self, List.count_cons]
      · simp [shareOf_cons_of_ne ht, ht]
    rw [List.map_cons, List.count_cons, ih fun y hy => hnames y (List.mem_cons_of_mem x hy)]
    simp only [hcons, Finset.sum_add_distrib, Finset.sum_ite_eq, hx, if_true, beq_iff_eq]

/-- The worlds to which threads named in `names` have come alone, and the world to which they have
come side by side, all from `start`. -/
structure Tied (names : Finset ThreadId) (start : World Commons) (held : ThreadId → Held)
    (solos : ThreadId → World Commons) (w : World Commons) : Prop where
  alike : ∀ t, Alike t (held t) (solos t).backend w.backend
  /-- No two threads hold the same array. -/
  apart : ∀ t u, u ≠ t → ∀ i i' j, held u = some (i, j) → held t ≠ some (i', j)
  marked : ∃ marks : List (ThreadId × Mark), (∀ x ∈ marks, x.1 ∈ names) ∧
    Marked (marks.map (·.2)) start.backend.host.runtime w.backend.host.runtime ∧
    ∀ t, Marked (shareOf t marks) start.backend.host.runtime (solos t).backend.host.runtime
  counted : ∃ events : List (ThreadId × BridgeEvent), (∀ x ∈ events, x.1 ∈ names) ∧
    Counted (events.map (·.2)) start.events w.events ∧
    ∀ t, Counted (shareOf t events) start.events (solos t).events

/-- What `Tied` says of lists of what was counted is kept while one thread moves. -/
theorem exists_shares {G : List α → World Commons → World Commons → Prop}
    (append : ∀ {front back w w' w''}, G front w w' → G back w' w'' →
      G (front ++ back) w w'')
    {names : Finset ThreadId} {start v v' : World Commons} {solos : ThreadId → World Commons}
    (h : ∃ l : List (ThreadId × α), (∀ x ∈ l, x.1 ∈ names) ∧ G (l.map (·.2)) start w ∧
      ∀ t, G (shareOf t l) start (solos t))
    (ht : t ∈ names) (hmove : ∃ l, G l (solos t) v ∧ G l w v') :
    ∃ l : List (ThreadId × α), (∀ x ∈ l, x.1 ∈ names) ∧ G (l.map (·.2)) start v' ∧
      ∀ u, G (shareOf u l) start (Function.update solos t v u) := by
  obtain ⟨l, hnames, hshared, hsolos⟩ := h
  obtain ⟨own, hsolo, hside⟩ := hmove
  refine ⟨l ++ own.map (t, ·), fun x hx => ?_, ?_, fun u => ?_⟩
  · rcases List.mem_append.mp hx with hx | hx
    · exact hnames x hx
    · obtain ⟨a, -, rfl⟩ := List.mem_map.mp hx
      exact ht
  · rw [List.map_append, List.map_map]
    have hown : own.map ((·.2) ∘ (t, ·)) = own := List.map_id own
    rw [hown]
    exact append hshared hside
  · rw [shareOf_append]
    by_cases hu : u = t
    · subst hu
      rw [shareOf_own, Function.update_self]
      exact append (hsolos u) hsolo
    · rw [shareOf_other hu, List.append_nil, Function.update_of_ne hu]
      exact hsolos u

/-- An array that the thread comes to hold is no other thread's. -/
theorem Tied.apart_moved {names : Finset ThreadId} {start : World Commons}
    {held : ThreadId → Held} {solos : ThreadId → World Commons}
    (h : Tied names start held solos w) {new : Held} {s' : State}
    (hkept : InProcess.Kept t (held t) new w.backend.host s') (hu : u ≠ t) {i i' j : ArrayId}
    (hheld : held u = some (i, j)) : new ≠ some (i', j) := by
  intro hnew
  rcases hkept.fresh i' j hnew with ⟨k, hold⟩ | hlength
  · exact h.apart t u hu i k j hheld hold
  · obtain ⟨content, -, hcontent⟩ := (h.alike u).host.array i j hheld
    have := (List.getElem?_eq_some_iff.mp hcontent).1
    omega

/-- The threads stay tied while one of them moves. -/
theorem Tied.move {names : Finset ThreadId} {start v v' : World Commons}
    {held : ThreadId → Held} {solos : ThreadId → World Commons} {new : Held}
    (h : Tied names start held solos w) (ht : t ∈ names)
    (hmoved : Moved t (held t) (solos t) w new v v') :
    Tied names start (Function.update held t new) (Function.update solos t v) v' where
  alike u := by
    by_cases hu : u = t
    · subst hu
      rw [Function.update_self, Function.update_self]
      exact hmoved.alike
    · rw [Function.update_of_ne hu, Function.update_of_ne hu]
      have hsee := h.alike u
      exact ⟨hsee.host.stand hu hmoved.kept.host fun i i' j => h.apart t u hu i i' j,
        hmoved.kept.bridge.trans hsee.bridge, (hmoved.kept.results u hu).trans hsee.results⟩
  apart x y hne i i' j := by
    by_cases hx : x = t
    · subst hx
      rw [Function.update_self, Function.update_of_ne hne]
      exact fun hheld => h.apart_moved hmoved.kept.host hne hheld
    · rw [Function.update_of_ne hx]
      by_cases hy : y = t
      · subst hy
        rw [Function.update_self]
        exact fun hnew hheld => h.apart_moved hmoved.kept.host hx hheld hnew
      · rw [Function.update_of_ne hy]
        exact h.apart x y hne i i' j
  marked := exists_shares (G := fun l w w' =>
    Marked l w.backend.host.runtime w'.backend.host.runtime) Marked.append h.marked ht
    hmoved.marked
  counted := exists_shares (G := fun l w w' => Counted l w.events w'.events) Counted.append
    h.counted ht hmoved.counted

variable {p : Pool ThreadId (World Commons) α} {schedule : List ThreadId}

/-- The figure has grown by the sum of what it grows by when the threads run alone. -/
def SumsUp (figure : World Commons → Nat) (p : Pool ThreadId (World Commons) α)
    (schedule : List ThreadId) : Prop :=
  ∃ grown : ThreadId → Nat,
    (∀ t, figure (p.alone schedule t).shared = figure p.shared + grown t) ∧
    figure (p.run schedule).shared = figure p.shared + ∑ t ∈ schedule.toFinset, grown t

/-- To every thread the schedule is as if it ran alone, and the counts of the runs add up. -/
structure Separate (p : Pool ThreadId (World Commons) α) (schedule : List ThreadId) : Prop where
  /-- Each thread has ended, with what it ends with alone, or has not. -/
  ended : ∀ t, (p.run schedule).ended? t = (p.alone schedule t).ended? t
  results : ∀ t, (p.run schedule).shared.backend.results t =
    (p.alone schedule t).shared.backend.results t
  /-- Whether it is attached, the exception that is pending on it, and how many arrays it has. -/
  record : ∀ t, (p.run schedule).shared.backend.host.runtime.threads.get? t =
    (p.alone schedule t).shared.backend.host.runtime.threads.get? t
  attachCalls : SumsUp (·.backend.host.runtime.attachCalls) p schedule
  detachCalls : SumsUp (·.backend.host.runtime.detachCalls) p schedule
  runtimeCalls : SumsUp (·.backend.host.runtime.runtimeCalls) p schedule
  events : ∀ event, ∃ grown : ThreadId → Nat,
    (∀ t, (p.alone schedule t).shared.events.get event =
      p.shared.events.get event + UInt64.ofNat (grown t)) ∧
    (p.run schedule).shared.events.get event =
      p.shared.events.get event + UInt64.ofNat (∑ t ∈ schedule.toFinset, grown t)
  /-- What was reported is put together from what each thread reports alone, in its order. -/
  described : ∃ reports : List (ThreadId × String),
    (p.run schedule).shared.backend.host.runtime.described =
      p.shared.backend.host.runtime.described ++ reports.map (·.2) ∧
    ∀ t, (p.alone schedule t).shared.backend.host.runtime.described =
      p.shared.backend.host.runtime.described ++ shareOf t reports

theorem tied_start {names : Finset ThreadId}
    (unlocked : w.backend.host.runtime.poisoned = false)
    (unarmed : w.backend.host.runtime.failNextAllocation = false) :
    Tied names w (fun _ => none) (fun _ => w) w where
  alike _ := ⟨⟨unlocked, unarmed, rfl, rfl, nofun⟩, rfl, rfl⟩
  apart _ _ _ _ _ _ := nofun
  marked := ⟨[], nofun, .nil ⟨rfl, rfl, rfl, rfl⟩, fun _ => .nil ⟨rfl, rfl, rfl, rfl⟩⟩
  counted := ⟨[], nofun, counted_nil _, fun _ => counted_nil _⟩

/-- Careful programs stay tied to what they do alone. -/
theorem exists_tied (unlocked : p.shared.backend.host.runtime.poisoned = false)
    (unarmed : p.shared.backend.host.runtime.failNextAllocation = false)
    (careful : ∀ t, Careful t p.shared (p.routines t)) (schedule : List ThreadId) :
    ∃ held, Pool.Reflected mirror EndsAlike (Tied schedule.toFinset p.shared) held
      (p.alone schedule) (p.run schedule) := by
  have hstart : Pool.Reflected mirror EndsAlike (Tied schedule.toFinset p.shared) (fun _ => none)
      (fun _ => p) p := ⟨fun t => (careful t).mirrors, tied_start unlocked unarmed⟩
  refine Pool.reflected_run hstart (fun _ _ _ t h => h.alike t) schedule ?_
  intro t ht held solos w phase v v' htied hmoved
  exact htied.move (List.mem_toFinset.mpr ht) hmoved

/-- A figure that grows with the marks of a kind sums up. -/
theorem sumsUp_of_marks {marks : List (ThreadId × Mark)} {figure : World Commons → Nat}
    {mark : Mark} (hnames : ∀ x ∈ marks, x.1 ∈ schedule.toFinset)
    (hrun : figure (p.run schedule).shared = figure p.shared + (marks.map (·.2)).count mark)
    (halone : ∀ t, figure (p.alone schedule t).shared =
      figure p.shared + (shareOf t marks).count mark) : SumsUp figure p schedule :=
  ⟨fun t => (shareOf t marks).count mark, halone, by rw [hrun, count_shares hnames]⟩

/-- The reports among the marks. -/
def reportsOf (marks : List (ThreadId × Mark)) : List (ThreadId × String) :=
  marks.filterMap fun x => x.2.report?.map (x.1, ·)

theorem map_reportsOf (marks : List (ThreadId × Mark)) :
    (reportsOf marks).map (·.2) = (marks.map (·.2)).filterMap Mark.report? := by
  induction marks with
  | nil => rfl
  | cons x marks ih =>
    obtain ⟨u, mark⟩ := x
    cases mark with
    | report message => exact congrArg (message :: ·) ih
    | attachCall | detachCall | runtimeCall => exact ih

theorem shareOf_reportsOf (t : ThreadId) (marks : List (ThreadId × Mark)) :
    shareOf t (reportsOf marks) = (shareOf t marks).filterMap Mark.report? := by
  induction marks with
  | nil => rfl
  | cons x marks ih =>
    obtain ⟨u, mark⟩ := x
    by_cases hu : u = t
    · subst hu
      rw [shareOf_cons_self (u, mark)]
      cases mark with
      | report message =>
        exact (shareOf_cons_self (u, message) (reportsOf marks)).trans (congrArg (message :: ·) ih)
      | attachCall | detachCall | runtimeCall => exact ih
    · rw [shareOf_cons_of_ne hu]
      cases mark with
      | report message =>
        exact (shareOf_cons_of_ne (x := (u, message)) hu (reportsOf marks)).trans ih
      | attachCall | detachCall | runtimeCall => exact ih

/-- Any number of threads run programs of their own over one runtime and one bridge, with contexts
used only while attached. In every order of their steps, and at every point, each has been given,
and stands with the runtime, as if it ran alone, and what is counted is the sum of what the threads
count alone. -/
theorem separate_of_careful (unlocked : p.shared.backend.host.runtime.poisoned = false)
    (unarmed : p.shared.backend.host.runtime.failNextAllocation = false)
    (careful : ∀ t, Careful t p.shared (p.routines t)) (schedule : List ThreadId) :
    Separate p schedule := by
  obtain ⟨held, hreflected⟩ := exists_tied unlocked unarmed careful schedule
  have htied := hreflected.invariant
  obtain ⟨marks, hmarkNames, hmarked, hmarkedAlone⟩ := htied.marked
  obtain ⟨events, heventNames, hcounted, hcountedAlone⟩ := htied.counted
  exact
    { ended t := ((hreflected.mirrors t).ended?_eq fun _ _ _ _ h => h.2).symm
      results t := (htied.alike t).results
      record t := (htied.alike t).host.record
      attachCalls := sumsUp_of_marks hmarkNames hmarked.attachCalls
        fun t => (hmarkedAlone t).attachCalls
      detachCalls := sumsUp_of_marks hmarkNames hmarked.detachCalls
        fun t => (hmarkedAlone t).detachCalls
      runtimeCalls := sumsUp_of_marks hmarkNames hmarked.runtimeCalls
        fun t => (hmarkedAlone t).runtimeCalls
      events event := by
        refine ⟨fun t => (shareOf t events).count event, fun t => hcountedAlone t event, ?_⟩
        rw [hcounted event, count_shares heventNames]
      described := by
        refine ⟨reportsOf marks, ?_, fun t => ?_⟩
        · rw [hmarked.described, map_reportsOf]
        · rw [(hmarkedAlone t).described, shareOf_reportsOf] }

/-- An exception is raised in a scope, and drained there. -/
def throwAndDrain (t : ThreadId) : Act Commons (Except BridgeError Unit) :=
  keeping t (fun ended => .ran (ended.map fun _ => ()))
    (Bridge.withAttachment bridgePlace (fun _ => runtime t) fun t => do
      keeping t (resultOf (.throwException "thrown")) (use t (.throwException "thrown"))
      let _ ← keeping t (resultOf .drain) (use t .drain))

/-- A string is built in a scope. -/
def buildString (t : ThreadId) (bytes : List UInt8) : Act Commons (Except BridgeError Unit) :=
  keeping t (fun ended => .ran (ended.map fun _ => ()))
    (Attachment.within (runtime t) fun t => do
      let _ ← keeping t (resultOf (.managedFromNative () (some bytes)))
        (use t (.managedFromNative () (some bytes))))

/-- One thread raises and drains an exception while another builds a string. -/
def throwingAndBuilding : Pool ThreadId (World Commons) (Except BridgeError Unit) where
  shared := ⟨⟨⟨{}, ⟨⟨some ()⟩, ⟨some stringCapabilities⟩⟩, fun _ => []⟩, []⟩, .zero⟩
  routines
    | .worker 0 => throwAndDrain (.worker 0)
    | .worker 1 => buildString (.worker 1) [104]
    | _ => pure (.ok ())

theorem separate_of_careful_two :
    ∃ schedule, Separate throwingAndBuilding schedule ∧
      (∀ n < 2, ((throwingAndBuilding.run schedule).ended? (.worker n)).isSome) ∧
      (throwingAndBuilding.run schedule).shared.backend.host.runtime.described = ["thrown"] := by
  have careful (t : ThreadId) :
      Careful t throwingAndBuilding.shared (throwingAndBuilding.routines t) := by
    match t with
    | .worker 0 =>
      refine .withAttachment fun context scope v h => ?_
      cases h
      refine .bind (.use rfl (.throwException "thrown")) fun _ v h => ?_
      cases h
      exact .bind (.use rfl .drain) fun _ _ _ => .pure ()
    | .worker 1 =>
      refine .within fun context scope v h => ?_
      cases h
      exact .bind (.use rfl (.managedFromNative () (some [104]))) fun _ _ _ => .pure ()
    | .worker (_ + 2) | .named _ => exact .pure _
  exact ⟨(List.replicate 60 [.worker 0, .worker 1]).flatten,
    separate_of_careful rfl rfl careful _, by decide +kernel, by decide +kernel⟩

end ManagedBridge.Commons
