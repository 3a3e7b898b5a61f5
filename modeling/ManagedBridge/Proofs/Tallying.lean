import ManagedBridge.Proofs.Interleaving

/-!
# Counts that threads share

Threads count events and reset the counts, each by single accesses to the cells, in any order. A
reset is no single access: other threads can come in between its stores. Still every count is what
has been added to its cell since the last store of zero there, as far as a word can hold it. A
build without metrics lists the same events and counts nothing.
-/

namespace ManagedBridge

open Commons

variable {σ : Type}

/-- One access to the cell of an event. -/
inductive Stroke
  | add (event : BridgeEvent)
  | clear (event : BridgeEvent)
  deriving DecidableEq

namespace Stroke

/-- The event whose cell it is. -/
def event : Stroke → BridgeEvent
  | add event => event
  | clear event => event

/-- The counts after the access. -/
def apply (c : Counter) : Stroke → Counter
  | add event => c.increment event
  | clear event => c.resetOne event

def act (stroke : Stroke) : Act σ Unit := Act.tally fun c => apply c stroke

/-- The other cells stay as they are. -/
theorem get_apply_of_ne (c : Counter) {stroke : Stroke} {e : BridgeEvent} (h : e ≠ stroke.event) :
    (apply c stroke).get e = c.get e := by
  cases stroke with
  | add other =>
    have hother : other ≠ e := Ne.symm h
    simp [apply, hother]
  | clear other =>
    have hother : other ≠ e := Ne.symm h
    simp [apply, hother]

/-- How often an event was added after the last time that its cell was cleared. -/
def addedSince (event : BridgeEvent) (history : List Stroke) : Nat :=
  (history.reverse.takeWhile (· ≠ clear event)).count (add event)

theorem addedSince_add (event other : BridgeEvent) (history : List Stroke) :
    addedSince event (history ++ [add other]) =
      addedSince event history + if other = event then 1 else 0 := by
  simp [addedSince, List.count_cons]

theorem addedSince_clear (event other : BridgeEvent) (history : List Stroke) :
    addedSince event (history ++ [clear other]) =
      if other = event then 0 else addedSince event history := by
  by_cases h : other = event
  · simp [addedSince, h]
  · simp [addedSince, h]

/-- A count is what was added since the last clearing, as far as a word holds it: the last access is
what adds to it or starts it anew. -/
theorem get_foldl_apply (event : BridgeEvent) (history : List Stroke) :
    (history.foldl apply .zero).get event = UInt64.ofNat (addedSince event history) := by
  induction history using List.reverseRecOn with
  | nil => simp [addedSince]
  | append_singleton history stroke ih =>
    rw [List.foldl_append, List.foldl_cons, List.foldl_nil]
    cases stroke with
    | add other =>
      rw [apply, Counter.get_increment, ih, addedSince_add]
      split
      · rw [UInt64.ofNat_add]
        rfl
      · rfl
    | clear other =>
      rw [apply, Counter.get_resetOne, ih, addedSince_clear]
      split <;> rfl

end Stroke

/-- What a thread does with the counts. -/
inductive Tally
  | increment (event : BridgeEvent)
  | resetAll

namespace Tally

def act : Tally → Act σ Unit
  | increment event => Act.count event
  | resetAll => Act.resetEvents

/-- What it does to a meter, if nobody comes in between. -/
def perform (m : Meter) : Tally → Meter
  | increment event => m.increment event
  | resetAll => m.resetAll

/-- The accesses that it consists of. -/
def strokes : Tally → List Stroke
  | increment event => [.add event]
  | resetAll => BridgeEvent.all.map .clear

theorem act_eq (tally : Tally) : (tally.act : Act σ Unit) = tally.strokes.forM Stroke.act := by
  cases tally with
  | increment event => rfl
  | resetAll => rfl

/-- A program of a thread goes by the accesses of its parts. -/
theorem forM_act (program : List Tally) :
    (program.forM act : Act σ Unit) = (program.flatMap strokes).forM Stroke.act := by
  induction program with
  | nil => rfl
  | cons tally program ih =>
    simp only [List.forM_eq_forM] at ih ⊢
    rw [List.forM_cons, List.flatMap_cons, List.forM_append, ih, act_eq, List.forM_eq_forM]

theorem foldl_perform_silent (program : List Tally) : program.foldl perform .silent = .silent := by
  induction program with
  | nil => rfl
  | cons tally program ih =>
    cases tally with
    | increment event => exact ih
    | resetAll => exact ih

end Tally

/-- The accesses that threads make by a schedule, each with its thread. The thread whose turn it is
makes the next of those that it has to make. -/
def interleave (todo : ThreadId → List Stroke) : List ThreadId → List (ThreadId × Stroke)
  | [] => []
  | t :: schedule =>
    match todo t with
    | [] => interleave todo schedule
    | stroke :: rest => (t, stroke) :: interleave (Function.update todo t rest) schedule

/-- At each of its turns a thread makes the next of its own accesses. -/
theorem shareOf_interleave (todo : ThreadId → List Stroke) (schedule : List ThreadId)
    (t : ThreadId) : shareOf t (interleave todo schedule) = (todo t).take (schedule.count t) := by
  induction schedule generalizing todo with
  | nil => simp [interleave, shareOf]
  | cons u schedule ih =>
    cases hu : todo u with
    | nil =>
      simp only [interleave, hu]
      rw [ih todo]
      by_cases ht : u = t
      · subst ht
        simp [hu]
      · rw [List.count_cons_of_ne ht]
    | cons stroke rest =>
      simp only [interleave, hu]
      by_cases ht : u = t
      · subst ht
        rw [shareOf_cons_self (u, stroke), ih, Function.update_self, List.count_cons_self, hu,
          List.take_succ_cons]
      · rw [shareOf_cons_of_ne (x := (u, stroke)) ht, ih, Function.update_of_ne (Ne.symm ht),
          List.count_cons_of_ne ht]

/-- A thread makes no accesses but its own. -/
theorem mem_of_mem_interleave {todo : ThreadId → List Stroke} {schedule : List ThreadId}
    {x : ThreadId × Stroke} (h : x ∈ interleave todo schedule) : x.2 ∈ todo x.1 := by
  have hshare : x.2 ∈ shareOf x.1 (interleave todo schedule) :=
    List.mem_map_of_mem (List.mem_filter.mpr ⟨h, by simp⟩)
  rw [shareOf_interleave] at hshare
  exact List.mem_of_mem_take hshare

/-- Threads that make accesses to the counts. -/
def strokePool (todo : ThreadId → List Stroke) (w : World σ) : Pool ThreadId (World σ) Unit :=
  ⟨w, fun t => (todo t).forM Stroke.act⟩

/-- A thread that has nothing left to do changes nothing. -/
theorem advance_strokePool_nil {todo : ThreadId → List Stroke} {t : ThreadId} (h : todo t = [])
    (w : World σ) : (strokePool todo w).advance t = strokePool todo w := by
  simp only [Pool.advance, strokePool, h]
  rfl

/-- A thread makes one access at a time. -/
theorem advance_strokePool_cons {todo : ThreadId → List Stroke} {t : ThreadId} {stroke : Stroke}
    {rest : List Stroke} (h : todo t = stroke :: rest) (w : World σ) :
    (strokePool todo w).advance t =
      strokePool (Function.update todo t rest)
        { w with events := Stroke.apply w.events stroke } := by
  have hnext : (fun u => (Function.update todo t rest u).forM (Stroke.act (σ := σ))) =
      Function.update (fun u => (todo u).forM Stroke.act) t (rest.forM Stroke.act) := by
    funext u
    by_cases hu : u = t
    · subst hu
      rw [Function.update_self, Function.update_self]
    · rw [Function.update_of_ne hu, Function.update_of_ne hu]
  simp only [Pool.advance, strokePool, h, hnext]
  rfl

/-- What the threads leave is what their accesses, in the order in which they were made, lead to. -/
theorem run_strokePool (schedule : List ThreadId) (todo : ThreadId → List Stroke) (w : World σ) :
    ((strokePool todo w).run schedule).shared.events =
      ((interleave todo schedule).map (·.2)).foldl Stroke.apply w.events := by
  induction schedule generalizing todo w with
  | nil => rfl
  | cons t schedule ih =>
    rw [Pool.run]
    cases h : todo t with
    | nil =>
      rw [advance_strokePool_nil h, ih]
      simp only [interleave, h]
    | cons stroke rest =>
      rw [advance_strokePool_cons h, ih]
      simp only [interleave, h, List.map_cons, List.foldl_cons]

section Shared

variable (programs : ThreadId → List Tally) (s : Site σ) (schedule : List ThreadId)

/-- The accesses that threads make by the schedule when each goes through its program. -/
def accesses : List (ThreadId × Stroke) :=
  interleave (fun t => (programs t).flatMap Tally.strokes) schedule

/-- The counts that the threads leave, if these begin at zero. -/
def countsAfter : Counter :=
  ((⟨⟨s, .zero⟩, fun t => (programs t).forM Tally.act⟩ : Pool ThreadId (World σ) Unit).run
    schedule).shared.events

theorem countsAfter_eq :
    countsAfter programs s schedule =
      ((accesses programs schedule).map (·.2)).foldl Stroke.apply .zero := by
  simp only [countsAfter, Tally.forM_act]
  exact run_strokePool schedule _ ⟨s, .zero⟩

/-- What the counts are that threads leave, at whatever point of the schedule one looks. -/
structure Tallied : Prop where
  /-- A thread has made one access at each of its turns, as long as there were any. -/
  shares : ∀ t, shareOf t (accesses programs schedule) =
    ((programs t).flatMap Tally.strokes).take (schedule.count t)
  counts : ∀ e, ((countsAfter programs s schedule).get e).toNat =
    Stroke.addedSince e ((accesses programs schedule).map (·.2)) % 2 ^ 64
  /-- An access to the cell of one event leaves the counts of the others. -/
  apart : ∀ t stroke,
    accesses programs (schedule ++ [t]) = accesses programs schedule ++ [(t, stroke)] →
    ∀ e ≠ stroke.event,
      (countsAfter programs s (schedule ++ [t])).get e = (countsAfter programs s schedule).get e
  listed : (countsAfter programs s schedule).toList.map (·.1) = BridgeEvent.all
  /-- Each event stands in the list once, with its count. -/
  once : ∀ e, (countsAfter programs s schedule).toList.filter (·.1 = e) =
    [(e, (countsAfter programs s schedule).get e)]
  /-- Without metrics the same events are listed after any program, all with zero. -/
  silent : ∀ program : List Tally, (program.foldl Tally.perform (.new false)).toList =
    (countsAfter programs s schedule).toList.map fun entry => (entry.1, 0)

/-- However the steps of threads that count and reset fall, each count is the number of additions
that came after the last store of zero in its cell, modulo the size of a word. -/
theorem counts_tallied : Tallied programs s schedule where
  shares := shareOf_interleave _ schedule
  counts e := by
    rw [countsAfter_eq, Stroke.get_foldl_apply]
    exact UInt64.toNat_ofNat'
  apart t stroke hnext e he := by
    rw [countsAfter_eq, countsAfter_eq, hnext, List.map_append, List.foldl_append]
    exact Stroke.get_apply_of_ne _ he
  listed := rfl
  once e := by cases e <;> rfl
  silent program := by
    have hsilent : program.foldl Tally.perform (.new false) = .silent :=
      Tally.foldl_perform_silent program
    rw [hsilent]
    rfl

/-- What some threads have to do if each is to increment one event `n` times. -/
def increments (threads : Finset ThreadId) (event : BridgeEvent) (n : Nat) (t : ThreadId) :
    List Tally :=
  if t ∈ threads then List.replicate n (.increment event) else []

theorem strokes_increments (threads : Finset ThreadId) (event : BridgeEvent) (n : Nat)
    (t : ThreadId) : (increments threads event n t).flatMap Tally.strokes =
      if t ∈ threads then List.replicate n (.add event) else [] := by
  rw [increments]
  split
  · rw [List.flatMap_replicate]
    simp [Tally.strokes]
  · rfl

/-- The accesses of threads that increment one event are all of one kind, and there are as many as
the threads have to make, once each thread has had its turns. -/
theorem interleave_increments (threads : Finset ThreadId) (event : BridgeEvent) (n : Nat)
    (enough : ∀ t ∈ threads, n ≤ schedule.count t) :
    (accesses (increments threads event n) schedule).map (·.2) =
      List.replicate (threads.card * n) (.add event) := by
  have hown : ∀ x ∈ accesses (increments threads event n) schedule,
      x.1 ∈ threads ∧ x.2 = .add event := by
    intro x hx
    have hmem := mem_of_mem_interleave hx
    rw [strokes_increments] at hmem
    split at hmem
    case isTrue ht => exact ⟨ht, List.eq_of_mem_replicate hmem⟩
    case isFalse => cases hmem
  have hsame : ∀ stroke ∈ (accesses (increments threads event n) schedule).map (·.2),
      stroke = .add event := by
    intro stroke hstroke
    obtain ⟨x, hx, rfl⟩ := List.mem_map.mp hstroke
    exact (hown x hx).2
  have hshare (t : ThreadId) (ht : t ∈ threads) :
      (shareOf t (accesses (increments threads event n) schedule)).count (.add event) = n := by
    rw [accesses, shareOf_interleave, strokes_increments, if_pos ht, List.take_replicate,
      List.count_replicate_self, Nat.min_eq_right (enough t ht)]
  refine List.eq_replicate_iff.mpr ⟨?_, hsame⟩
  rw [← List.count_eq_length.mpr fun stroke h => (hsame stroke h).symm,
    count_shares fun x hx => (hown x hx).1]
  exact Finset.sum_const_nat hshare

theorem Meter.counting_incrementMany (c : Counter) (event : BridgeEvent) (n : Nat) :
    (counting c).incrementMany event n =
      counting ((List.replicate n (.add event)).foldl Stroke.apply c) := by
  induction n with
  | zero => rfl
  | succ n ih =>
    rw [List.replicate_succ', List.foldl_append, incrementMany, Nat.repeat]
    exact congrArg (·.increment event) ih

/-- Threads that each increment an event `n` times leave what as many increments in a row leave,
whatever the order. -/
theorem increments_acrossThreads (threads : Finset ThreadId) (event : BridgeEvent) (n : Nat)
    (enough : ∀ t ∈ threads, n ≤ schedule.count t) :
    Meter.counting (countsAfter (increments threads event n) s schedule) =
      (Meter.new true).incrementMany event (threads.card * n) := by
  rw [countsAfter_eq, interleave_increments schedule threads event n enough]
  exact (Meter.counting_incrementMany .zero event _).symm

/-- A reset that another thread comes into need not leave all counts at zero. -/
example :
    let programs | ThreadId.worker 0 => [Tally.resetAll] | _ => [Tally.increment .attach]
    let schedule := .worker 0 :: .worker 1 :: List.replicate 5 (.worker 0)
    (countsAfter programs ⟨(), []⟩ schedule).get .attach = 1 := by
  rfl

end Shared

end ManagedBridge
