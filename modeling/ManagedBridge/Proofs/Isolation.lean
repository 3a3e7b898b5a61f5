import ManagedBridge.Marshal
import ManagedBridge.Proofs.Ledger
import ManagedBridge.Proofs.Mirror

/-!
# What a thread sees of the in-process runtime

A thread sees its own record and the arrays that it holds. What it does on a runtime with which
others work as well is the same, for the thread, as on one that it has to itself, where its arrays
have other numbers. What the others see is left alone, and what the runtime counts grows in the same
way.
-/

namespace ManagedBridge.InProcess

/-- What is counted, or reported, in one step. -/
inductive Mark
  | attachCall
  | detachCall
  | runtimeCall
  | report (message : String)
  deriving DecidableEq, Repr

def Mark.report? : Mark → Option String
  | report message => some message
  | _ => none

/-- What the runtime has counted and reported has grown by the marks. -/
structure Marked (marks : List Mark) (r r' : Runtime) : Prop where
  attachCalls : r'.attachCalls = r.attachCalls + marks.count .attachCall
  detachCalls : r'.detachCalls = r.detachCalls + marks.count .detachCall
  runtimeCalls : r'.runtimeCalls = r.runtimeCalls + marks.count .runtimeCall
  described : r'.described = r.described ++ marks.filterMap Mark.report?

/-- The switches of a runtime, and whether its table of threads is locked for good. -/
structure Settings where
  poisoned : Bool
  rejectAttach : Bool
  failResolution : Bool
  failNextAllocation : Bool
  throwOnConstruct : Bool
  deriving DecidableEq, Repr

def Runtime.settings (r : Runtime) : Settings :=
  ⟨r.poisoned, r.rejectAttach, r.failResolution, r.failNextAllocation, r.throwOnConstruct⟩

/-- The two arrays that a thread holds, alone and among others, if it holds any. -/
abbrev Held := Option (ArrayId × ArrayId)

/-- To the thread, the second state is as the first. -/
structure Alike (t : ThreadId) (held : Held) (s s' : State) : Prop where
  unlocked : s.runtime.poisoned = false
  /-- No allocation is about to fail. -/
  unarmed : s.runtime.failNextAllocation = false
  settings : s'.runtime.settings = s.runtime.settings
  record : s'.runtime.threads.get? t = s.runtime.threads.get? t
  array : ∀ i j, held = some (i, j) → ∃ content, s.arrays[i]? = some content ∧
    s'.arrays[j]? = some content

/-- What another thread sees is left alone, but for arrays that the thread holds. -/
structure Kept (t : ThreadId) (held held' : Held) (s s' : State) : Prop where
  settings : s'.runtime.settings = s.runtime.settings
  others : ∀ u, u ≠ t → s'.runtime.threads.get? u = s.runtime.threads.get? u
  arrays : ∀ j content, s.arrays[j]? = some content → (∀ i, held ≠ some (i, j)) →
    s'.arrays[j]? = some content
  /-- An array that the thread comes to hold is new. -/
  fresh : ∀ i j, held' = some (i, j) → (∃ i', held = some (i', j)) ∨ s.arrays.length ≤ j

/-- The thread comes to states that are alike again. -/
structure Moved (t : ThreadId) (held : Held) (s s' : State) (held' : Held) (u u' : State) :
    Prop where
  alike : Alike t held' u u'
  marked : ∃ marks, Marked marks s.runtime u.runtime ∧ Marked marks s'.runtime u'.runtime
  kept : Kept t held held' s' u'

/-- A thread's own view of a runtime, alone and among others. -/
def mirror (t : ThreadId) : Mirror Held (Site State) where
  Alike held s s' := Alike t held s.backend s'.backend
  Move held s s' held' u u' := Moved t held s.backend s'.backend held' u.backend u'.backend

/-- The runtime has a record of the thread, with a live array for one that is held. -/
def Ready (t : ThreadId) (held : Held) (s : State) : Prop :=
  ∃ record, s.runtime.threads.get? t = some record ∧ (held.isSome → 0 < record.liveArrays)

/-- Both give the same, and the arrays that are held stay so. -/
abbrev Same {α : Type} (t : ThreadId) (held : Held) : Held → State → α → α → Prop :=
  fun held' s a b => held' = held ∧ a = b ∧ Ready t held s

/-- Each hands out an array, which is held from then on, or both are refused in the same way. -/
def Handed (t : ThreadId) (held : Held) (s : State) :
    Except RuntimeError ArrayId → Except RuntimeError ArrayId → Prop
  | .ok i, .ok j => held = some (i, j) ∧ Ready t held s
  | .error e, .error e' => e = e' ∧ held = none ∧ Ready t none s
  | _, _ => False

theorem Handed.split {t : ThreadId} {held : Held} {s : State} {a b : Except RuntimeError ArrayId}
    (h : Handed t held s a b) :
    (∃ e, a = .error e ∧ b = .error e ∧ held = none ∧ Ready t none s) ∨
      ∃ i j, a = .ok i ∧ b = .ok j ∧ held = some (i, j) ∧ Ready t (some (i, j)) s := by
  cases a with
  | error e =>
    cases b with
    | error e' =>
      obtain ⟨rfl, hheld, hready⟩ := h
      exact .inl ⟨e, rfl, rfl, hheld, hready⟩
    | ok j => exact h.elim
  | ok i =>
    cases b with
    | error e' => exact h.elim
    | ok j =>
      obtain ⟨rfl, hready⟩ := h
      exact .inr ⟨i, j, rfl, rfl, rfl, hready⟩

namespace Marked

variable {r : Runtime}

theorem nil {r' : Runtime} (h : r'.attachCalls = r.attachCalls ∧ r'.detachCalls = r.detachCalls ∧
    r'.runtimeCalls = r.runtimeCalls ∧ r'.described = r.described) : Marked [] r r' :=
  ⟨h.1, h.2.1, h.2.2.1, h.2.2.2.trans (List.append_nil _).symm⟩

theorem append {front back : List Mark} {r' r'' : Runtime} (h : Marked front r r')
    (h' : Marked back r' r'') : Marked (front ++ back) r r'' where
  attachCalls := by rw [h'.attachCalls, h.attachCalls, List.count_append, Nat.add_assoc]
  detachCalls := by rw [h'.detachCalls, h.detachCalls, List.count_append, Nat.add_assoc]
  runtimeCalls := by rw [h'.runtimeCalls, h.runtimeCalls, List.count_append, Nat.add_assoc]
  described := by rw [h'.described, h.described, List.filterMap_append, List.append_assoc]

end Marked

variable {t u : ThreadId} {held held' : Held} {s s' : State} {α : Type}

theorem Alike.unlocked' (h : Alike t held s s') : s'.runtime.poisoned = false :=
  (congrArg Settings.poisoned h.settings).trans h.unlocked

theorem Alike.unarmed' (h : Alike t held s s') : s'.runtime.failNextAllocation = false :=
  (congrArg Settings.failNextAllocation h.settings).trans h.unarmed

/-- What is alike to a thread stays so while another thread moves, if the two hold different
arrays. -/
theorem Alike.stand (h : Alike u held' s s') {v' : State} {new : Held} (hne : u ≠ t)
    (hkept : Kept t held new s' v') (apart : ∀ i i' j, held' = some (i, j) → held ≠ some (i', j)) :
    Alike u held' s v' where
  unlocked := h.unlocked
  unarmed := h.unarmed
  settings := hkept.settings.trans h.settings
  record := (hkept.others u hne).trans h.record
  array i j hheld := by
    obtain ⟨content, hi, hj⟩ := h.array i j hheld
    exact ⟨content, hi, hkept.arrays j content hj fun i' => apart i i' j hheld⟩

/-- A change of the runtime alone that keeps the settings and the records of other threads. -/
theorem Alike.moved (h : Alike t held s s') {f : Runtime → Runtime} {marks : List Mark}
    (marked : ∀ r, Marked marks r (f r))
    (settings : ∀ r, r.failNextAllocation = false → (f r).settings = r.settings)
    (others : ∀ r u, u ≠ t → (f r).threads.get? u = r.threads.get? u)
    (record : (f s'.runtime).threads.get? t = (f s.runtime).threads.get? t) :
    Moved t held s s' held (onRuntime f s) (onRuntime f s') where
  alike :=
    { unlocked := (congrArg Settings.poisoned (settings _ h.unarmed)).trans h.unlocked
      unarmed := (congrArg Settings.failNextAllocation (settings _ h.unarmed)).trans h.unarmed
      settings := (settings _ h.unarmed').trans (h.settings.trans (settings _ h.unarmed).symm)
      record
      array := h.array }
  marked := ⟨marks, marked _, marked _⟩
  kept :=
    { settings := settings _ h.unarmed'
      others := others _
      arrays _ _ hcontent _ := hcontent
      fresh i _ hheld := .inl ⟨i, hheld⟩ }

/-- The thread comes to hold an array that each of the two appends. -/
theorem Alike.moved_new (h : Alike t none s s') (array : ZeroFilled UInt8) :
    Moved t none s s' (some (s.arrays.length, s'.arrays.length))
      { s with arrays := s.arrays ++ [array] } { s' with arrays := s'.arrays ++ [array] } where
  alike :=
    { unlocked := h.unlocked
      unarmed := h.unarmed
      settings := h.settings
      record := h.record
      array i j hheld := by
        cases hheld
        exact ⟨array, List.getElem?_concat_length, List.getElem?_concat_length⟩ }
  marked := ⟨[], .nil ⟨rfl, rfl, rfl, rfl⟩, .nil ⟨rfl, rfl, rfl, rfl⟩⟩
  kept :=
    { settings := rfl
      others _ _ := rfl
      arrays j content hcontent _ :=
        (List.getElem?_append_left (List.getElem?_eq_some_iff.mp hcontent).1).trans hcontent
      fresh i j hheld := by
        cases hheld
        exact .inr (Nat.le_refl _) }

/-- The thread writes into the arrays that it holds. -/
theorem Alike.moved_set {i j : ArrayId} (h : Alike t (some (i, j)) s s')
    (array : ZeroFilled UInt8) :
    Moved t (some (i, j)) s s' (some (i, j))
      { s with arrays := s.arrays.set i array } { s' with arrays := s'.arrays.set j array } where
  alike :=
    { unlocked := h.unlocked
      unarmed := h.unarmed
      settings := h.settings
      record := h.record
      array i' j' hheld := by
        cases hheld
        obtain ⟨content, hi, hj⟩ := h.array i j rfl
        exact ⟨array, List.getElem?_set_self (List.getElem?_eq_some_iff.mp hi).1,
          List.getElem?_set_self (List.getElem?_eq_some_iff.mp hj).1⟩ }
  marked := ⟨[], .nil ⟨rfl, rfl, rfl, rfl⟩, .nil ⟨rfl, rfl, rfl, rfl⟩⟩
  kept :=
    { settings := rfl
      others _ _ := rfl
      arrays k content hcontent hapart := by
        have hne : j ≠ k := fun hjk => hapart i (by rw [hjk])
        exact (List.getElem?_set_ne hne).trans hcontent
      fresh _ _ hheld := by
        cases hheld
        exact .inl ⟨i, rfl⟩ }

/-- The thread lets go of what it holds. -/
theorem Moved.let_go {u u' : State} (h : Moved t none s s' held' u u') (held : Held) :
    Moved t held s s' held' u u' where
  alike := h.alike
  marked := h.marked
  kept :=
    { settings := h.kept.settings
      others := h.kept.others
      arrays j content hcontent _ := h.kept.arrays j content hcontent nofun
      fresh i j hheld := (h.kept.fresh i j hheld).elim nofun .inr }

namespace Context

open Routine (Mirrors Returning)

variable {site : Site State}

/-- Both return `a`, the arrays that are held stay so, and the first ends in the state `u`. -/
abbrev Gives (held : Held) (a : α) (u : State) : Held → Site State → α → α → Prop :=
  fun held' t b c => held' = held ∧ b = a ∧ c = a ∧ t.backend = u

theorem mirrors_step {β γ : Type} {f : State → β × State} {g : State → γ × State}
    {P : Held → Site State → β → γ → Prop}
    (h : ∀ s', Alike t held site.backend s' → ∃ held', Moved t held site.backend s' held'
      (f site.backend).2 (g s').2 ∧
      P held' { site with backend := (f site.backend).2 } (f site.backend).1 (g s').1) :
    Mirrors (mirror t) (Returning P) held site (Call.step f) (Call.step g) := by
  refine Mirrors.single fun s' hs => ?_
  obtain ⟨held', hmoved, hP⟩ := h s'.backend hs
  exact ⟨held', hmoved, _, _, rfl, rfl, hP⟩

/-- What is read goes for both if it depends on the settings only. -/
theorem mirrors_getRuntime {Ends : Held → Site State → Except Panic α → Except Panic α → Prop}
    {next next' : Runtime → Call State α}
    (reads : ∀ r, r.settings = site.backend.runtime.settings →
      next' r = next' site.backend.runtime)
    (h : Mirrors (mirror t) Ends held site (next site.backend.runtime)
      (next' site.backend.runtime)) :
    Mirrors (mirror t) Ends held site (getRuntime >>= next) (getRuntime >>= next') := by
  refine Mirrors.bind_returning (P := fun held' u r r' => held' = held ∧ u = site ∧
    r = site.backend.runtime ∧ r'.settings = site.backend.runtime.settings)
    (mirrors_step fun s' hs => ⟨held, ?_, rfl, rfl, rfl, hs.settings⟩) ?_
  · exact hs.moved (f := id) (fun _ => .nil ⟨rfl, rfl, rfl, rfl⟩) (fun _ _ => rfl)
      (fun _ _ _ => rfl) hs.record
  · rintro held' u r r' ⟨rfl, rfl, rfl, hr'⟩
    rw [reads r' hr']
    exact h

theorem mirrors_modifyRuntime {f : Runtime → Runtime} (marks : List Mark)
    (marked : ∀ r, Marked marks r (f r))
    (settings : ∀ r, r.failNextAllocation = false → (f r).settings = r.settings)
    (threads : ∀ r, (f r).threads = r.threads) :
    Mirrors (mirror t) (Returning (Gives held () (onRuntime f site.backend))) held site
      (modifyRuntime f) (modifyRuntime f) := by
  refine mirrors_step fun s' hs => ⟨held, hs.moved marked settings ?_ ?_, rfl, rfl, rfl, rfl⟩
  · intro r u _
    rw [threads]
  · rw [threads, threads]
    exact hs.record

/-- What is done with the table locked gives the same if it looks at the thread's record only. -/
theorem mirrors_onThreads
    {f : Table ThreadId ThreadRecord → Except String (α × Table ThreadId ThreadRecord)} {a : α}
    (change : Table ThreadId ThreadRecord → Table ThreadId ThreadRecord)
    (record? : Option ThreadRecord)
    (result : ∀ threads, threads.get? t = site.backend.runtime.threads.get? t →
      f threads = .ok (a, change threads))
    (others : ∀ threads u, u ≠ t → (change threads).get? u = threads.get? u)
    (record : ∀ threads, threads.get? t = site.backend.runtime.threads.get? t →
      (change threads).get? t = record?) :
    Mirrors (mirror t) (Returning (Gives held a (onRuntime (fun r =>
      { r with threads := change r.threads }) site.backend))) held site
      (onThreads f) (onThreads f) := by
  have hlock {r : Runtime} (hopen : r.poisoned = false)
      (hrecord : r.threads.get? t = site.backend.runtime.threads.get? t) :
      r.lockThreads f = (.ok a, { r with threads := change r.threads }) := by
    simp only [Runtime.lockThreads, hopen, result _ hrecord, if_false, Bool.false_eq_true]
  refine Mirrors.bind_returning (P := fun held' u x y => held' = held ∧ x = .ok a ∧ y = .ok a ∧
    u.backend = onRuntime (fun r => { r with threads := change r.threads }) site.backend)
    (mirrors_step fun s' hs => ⟨held, ?_⟩) ?_
  · simp only [hlock hs.unlocked rfl, hlock hs.unlocked' hs.record]
    refine ⟨hs.moved (f := fun r => { r with threads := change r.threads })
      (fun r => .nil ⟨rfl, rfl, rfl, rfl⟩) (fun r _ => rfl) (fun r => others r.threads) ?_,
      trivial, trivial, trivial, rfl⟩
    exact (record _ hs.record).trans (record _ rfl).symm
  · rintro held' u x y ⟨rfl, rfl, rfl, hu⟩
    exact .pure ⟨rfl, rfl, rfl, hu⟩

/-- A change of the record of an attached thread, which does not end in a panic. -/
theorem mirrors_onRecord {f : ThreadRecord → Except String (α × ThreadRecord)} {a : α}
    {old record : ThreadRecord} (hold : site.backend.runtime.threads.get? t = some old)
    (hf : f old = .ok (a, record)) :
    Mirrors (mirror t) (Returning (Gives held a (onRuntime (·.keepRecord t record) site.backend)))
      held site (onRecord t f) (onRecord t f) := by
  refine mirrors_onThreads (·.set t record) (some record) ?_ ?_ ?_
  · intro threads hrecord
    rw [hold] at hrecord
    simp only [hrecord, hf]
    rfl
  · intro threads u hu
    rw [Table.get?_set, if_neg (Ne.symm hu)]
  · intro threads _
    rw [Table.get?_set, if_pos rfl]

theorem mirrors_readRecord {f : ThreadRecord → α} {old : ThreadRecord}
    (hold : site.backend.runtime.threads.get? t = some old) :
    Mirrors (mirror t) (Returning (Gives held (f old)
      (onRuntime (·.keepRecord t old) site.backend))) held site (readRecord t f) (readRecord t f) :=
  mirrors_onRecord hold rfl

theorem get?_keepRecord {s : State} {record : ThreadRecord} :
    (onRuntime (·.keepRecord t record) s).runtime.threads.get? t = some record :=
  (Table.get?_set ..).trans (if_pos rfl)

/-- The record is looked at, and the thread goes on as it was. -/
theorem mirrors_look {f : ThreadRecord → α} (hready : Ready t held site.backend) :
    Mirrors (mirror t) (Returning fun held' u => Same t held held' u.backend) held site
      (readRecord t f) (readRecord t f) := by
  obtain ⟨old, hold, hlive⟩ := hready
  refine (mirrors_readRecord hold).mono ?_
  rintro held' u _ _ ⟨a, b, rfl, rfl, rfl, rfl, rfl, hu⟩
  exact ⟨_, _, rfl, rfl, rfl, rfl, old, hu ▸ get?_keepRecord, hlive⟩

/-- A change of the record that the live arrays survive. -/
theorem mirrors_change {f : ThreadRecord → ThreadRecord} (hready : Ready t held site.backend)
    (live : ∀ old, old.liveArrays ≤ (f old).liveArrays) :
    Mirrors (mirror t) (Returning fun held' u => Same t held held' u.backend) held site
      (modifyRecord t f) (modifyRecord t f) := by
  obtain ⟨old, hold, hlive⟩ := hready
  have hchange : Mirrors (mirror t) (Returning (Gives held ()
      (onRuntime (·.keepRecord t (f old)) site.backend))) held site (modifyRecord t f)
      (modifyRecord t f) := mirrors_onRecord hold rfl
  refine hchange.mono ?_
  rintro held' u _ _ ⟨a, b, rfl, rfl, rfl, rfl, rfl, hu⟩
  refine ⟨_, _, rfl, rfl, rfl, rfl, f old, hu ▸ get?_keepRecord, fun h => ?_⟩
  exact Nat.lt_of_lt_of_le (hlive h) (live old)

theorem mirrors_call (hready : Ready t held site.backend) :
    Mirrors (mirror t) (Returning fun held' u => Same t held held' u.backend) held site
      (call t) (call t) := by
  refine (mirrors_modifyRuntime (f := fun r => { r with runtimeCalls := r.runtimeCalls + 1 })
    [.runtimeCall] (fun r => ⟨rfl, rfl, rfl, (List.append_nil _).symm⟩) (fun _ _ => rfl)
    fun _ => rfl).bind_returning ?_
  · rintro held' u - - ⟨rfl, -, -, hu⟩
    have hready' : Ready t held' u.backend := by rw [hu]; exact hready
    refine (mirrors_look hready').bind_returning ?_
    rintro _ u a _ ⟨rfl, rfl, hready''⟩
    cases a <;> exact .pure ⟨rfl, rfl, hready''⟩

/-- An operation that starts with a call, and is refused where the call is. -/
theorem mirrors_call_then
    {P : Held → Site State → Except RuntimeError α → Except RuntimeError α → Prop}
    {next next' : Except RuntimeError Unit → Call State (Except RuntimeError α)}
    (hready : Ready t held site.backend) (stops : ∀ e, next (.error e) = pure (.error e))
    (stops' : ∀ e, next' (.error e) = pure (.error e))
    (hP : ∀ u e, Ready t held u.backend → P held u (.error e) (.error e))
    (goes : ∀ u, Ready t held u.backend →
      Mirrors (mirror t) (Returning P) held u (next (.ok ())) (next' (.ok ()))) :
    Mirrors (mirror t) (Returning P) held site (call t >>= next) (call t >>= next') := by
  refine (mirrors_call hready).bind_returning ?_
  rintro _ u a _ ⟨rfl, rfl, hready'⟩
  rcases a with e | ⟨⟩
  · rw [stops, stops']
    exact .pure (hP u e hready')
  · exact goes u hready'

/-- What is stored in the arrays that are held is the same. -/
theorem mirrors_content {i j : ArrayId} (hready : Ready t (some (i, j)) site.backend) :
    Mirrors (mirror t) (Returning fun held u => Same t (some (i, j)) held u.backend) (some (i, j))
      site (content i) (content j) := by
  refine mirrors_step fun s' hs => ⟨some (i, j), ?_, rfl, ?_, hready⟩
  · exact hs.moved (f := id) (fun _ => .nil ⟨rfl, rfl, rfl, rfl⟩) (fun _ _ => rfl)
      (fun _ _ _ => rfl) hs.record
  · obtain ⟨stored, hi, hj⟩ := hs.array i j rfl
    simp only [List.getD_eq_getElem?_getD, hi, hj]

/-- A new array is handed out, under whichever number. -/
theorem mirrors_allocate (array : ZeroFilled UInt8) (hready : Ready t none site.backend) :
    Mirrors (mirror t) (Returning fun held u => Handed t held u.backend) none site
      (allocate t array) (allocate t array) := by
  refine Mirrors.bind_returning (P := fun held u a b => held = none ∧ a = false ∧ b = false ∧
    Ready t none u.backend) (mirrors_step fun s' hs =>
      ⟨none, ?_, rfl, hs.unarmed, hs.unarmed', hready⟩) ?_
  · exact hs.moved (f := fun r => { r with failNextAllocation := false })
      (fun _ => .nil ⟨rfl, rfl, rfl, rfl⟩) (fun r hr => by simp [Runtime.settings, hr])
      (fun _ _ _ => rfl) hs.record
  rintro _ u _ _ ⟨rfl, rfl, rfl, old, hold, -⟩
  refine (mirrors_onRecord hold rfl).bind_returning ?_
  rintro _ v _ _ ⟨rfl, -, -, hv⟩
  have hrecord : v.backend.runtime.threads.get? t = some _ := hv ▸ get?_keepRecord
  refine mirrors_step fun s' hs => ⟨some (v.backend.arrays.length, s'.arrays.length), ?_, rfl,
    _, hrecord, fun _ => Nat.succ_pos _⟩
  exact hs.moved_new array

theorem releaseArray_of_pos {old : ThreadRecord} (h : 0 < old.liveArrays) :
    old.releaseArray = .ok { old with liveArrays := old.liveArrays - 1 } := by
  unfold ThreadRecord.releaseArray
  split
  · omega
  · next left hleft => rw [hleft, Nat.succ_sub_one]

/-- A thread releases an array with the one that it holds. -/
theorem mirrors_releaseBytes (hready : Ready t held site.backend) (hheld : held.isSome) :
    Mirrors (mirror t) (Returning fun held' u => Same t none held' u.backend) held site
      (releaseBytes t) (releaseBytes t) := by
  obtain ⟨old, hold, hlive⟩ := hready
  have hrelease : Mirrors (mirror t) (Returning fun held' u => Same t none held' u.backend) none
      site (releaseBytes t) (releaseBytes t) := by
    have hchange : old.releaseArray.map (fun record => ((), record)) =
        .ok ((), { old with liveArrays := old.liveArrays - 1 }) := by
      rw [releaseArray_of_pos (hlive hheld)]
      rfl
    refine (mirrors_onRecord hold hchange).mono ?_
    rintro held' u _ _ ⟨a, b, rfl, rfl, rfl, rfl, rfl, hu⟩
    exact ⟨_, _, rfl, rfl, rfl, rfl, _, hu ▸ get?_keepRecord, nofun⟩
  intro s' hs
  obtain ⟨held', hmoved, hnext⟩ := hrelease s' { hs with array := nofun }
  exact ⟨held', hmoved.let_go held, hnext⟩

/-- The exception that is reported is the thread's own. -/
theorem mirrors_describeException (hready : Ready t held site.backend) :
    Mirrors (mirror t) (Returning fun held' u => Same t held held' u.backend) held site
      (describeException t) (describeException t) := by
  refine (mirrors_look hready).bind_returning ?_
  rintro _ u pending _ ⟨rfl, rfl, hready'⟩
  cases pending with
  | none => exact .pure ⟨rfl, rfl, hready'⟩
  | some message =>
    refine (mirrors_modifyRuntime (f := fun r => { r with described := r.described ++ [message] })
      [.report message] (fun r => ⟨rfl, rfl, rfl, rfl⟩) (fun _ _ => rfl) fun _ => rfl).mono ?_
    rintro held' v _ _ ⟨a, b, rfl, rfl, rfl, rfl, rfl, hv⟩
    exact ⟨_, _, rfl, rfl, rfl, rfl, by rw [hv]; exact hready'⟩

end Context

open Routine (Mirrors Returning)
open Context

variable {site : Site State} {i j : ArrayId}

theorem mirrors_stringBytes (caps : Capabilities) (string : String)
    (hready : Ready t none site.backend) :
    Mirrors (mirror t) (Returning fun held u => Handed t held u.backend) none site
      ((context t).stringBytes caps string) ((context t).stringBytes caps string) :=
  mirrors_call_then hready (fun _ => rfl) (fun _ => rfl) (fun _ _ h => ⟨rfl, rfl, h⟩)
    fun _ h => mirrors_allocate _ h

theorem mirrors_newByteArray (len : Nat) (hready : Ready t none site.backend) :
    Mirrors (mirror t) (Returning fun held u => Handed t held u.backend) none site
      ((context t).newByteArray len) ((context t).newByteArray len) :=
  mirrors_call_then hready (fun _ => rfl) (fun _ => rfl) (fun _ _ h => ⟨rfl, rfl, h⟩)
    fun _ h => mirrors_allocate _ h

/-- What a context does with the array that is held, given by what it does with its content. -/
theorem mirrors_content_then {next next' : ZeroFilled UInt8 → Call State (Except RuntimeError α)}
    (hready : Ready t (some (i, j)) site.backend)
    (h : ∀ u stored, Ready t (some (i, j)) u.backend →
      Mirrors (mirror t) (Returning fun held v => Same t (some (i, j)) held v.backend) (some (i, j))
        u (next stored) (next' stored)) :
    Mirrors (mirror t) (Returning fun held u => Same t (some (i, j)) held u.backend) (some (i, j))
      site (content i >>= next) (content j >>= next') := by
  refine (mirrors_content hready).bind_returning ?_
  rintro _ u stored _ ⟨rfl, rfl, hready'⟩
  exact h u stored hready'

theorem mirrors_byteArrayLen (hready : Ready t (some (i, j)) site.backend) :
    Mirrors (mirror t) (Returning fun held u => Same t (some (i, j)) held u.backend) (some (i, j))
      site ((context t).byteArrayLen i) ((context t).byteArrayLen j) :=
  mirrors_call_then hready (fun _ => rfl) (fun _ => rfl) (fun _ _ h => ⟨rfl, rfl, h⟩)
    fun _ h => mirrors_content_then h fun _ _ h' => .pure ⟨rfl, rfl, h'⟩

theorem mirrors_readByteArray (len : Nat) (hready : Ready t (some (i, j)) site.backend) :
    Mirrors (mirror t) (Returning fun held u => Same t (some (i, j)) held u.backend) (some (i, j))
      site ((context t).readByteArray i len) ((context t).readByteArray j len) := by
  refine mirrors_call_then hready (fun _ => rfl) (fun _ => rfl) (fun _ _ h => ⟨rfl, rfl, h⟩)
    fun _ h => mirrors_content_then h fun _ stored h' => ?_
  split <;> exact .pure ⟨rfl, rfl, h'⟩

theorem mirrors_writeByteArray (bytes : List UInt8) (hready : Ready t (some (i, j)) site.backend) :
    Mirrors (mirror t) (Returning fun held u => Same t (some (i, j)) held u.backend) (some (i, j))
      site ((context t).writeByteArray i bytes) ((context t).writeByteArray j bytes) := by
  refine mirrors_call_then hready (fun _ => rfl) (fun _ => rfl) (fun _ _ h => ⟨rfl, rfl, h⟩)
    fun _ h => mirrors_content_then h fun u stored h' => ?_
  split
  · exact mirrors_step fun s' hs => ⟨some (i, j), hs.moved_set _, rfl, rfl, h'⟩
  · exact .pure ⟨rfl, rfl, h'⟩

theorem mirrors_throwException {held : Held} (message : String)
    (hready : Ready t held site.backend) :
    Mirrors (mirror t) (Returning fun held' u => Same t held held' u.backend) held site
      (throwException t message) (throwException t message) :=
  mirrors_change hready fun _ => Nat.le_refl _

theorem mirrors_newString (caps : Capabilities) (hready : Ready t (some (i, j)) site.backend) :
    Mirrors (mirror t) (Returning fun held u => Same t (some (i, j)) held u.backend) (some (i, j))
      site ((context t).newString caps i) ((context t).newString caps j) := by
  refine mirrors_call_then hready (fun _ => rfl) (fun _ => rfl) (fun _ _ h => ⟨rfl, rfl, h⟩)
    fun u h => mirrors_getRuntime (fun r hr => ?_) ?_
  · have hflag : r.throwOnConstruct = u.backend.runtime.throwOnConstruct :=
      congrArg Settings.throwOnConstruct hr
    simp only [hflag]
  · split
    · refine (mirrors_throwException _ h).bind_returning ?_
      rintro _ v - - ⟨rfl, -, h'⟩
      exact .pure ⟨rfl, rfl, h'⟩
    · exact mirrors_content_then h fun _ _ h' => .pure ⟨rfl, rfl, h'⟩

/-- Both copy out the same bytes. -/
theorem mirrors_copyOut (hready : Ready t (some (i, j)) site.backend) :
    Mirrors (mirror t) (Returning fun held u => Same t (some (i, j)) held u.backend) (some (i, j))
      site (Marshal.copyOut (context t) i) (Marshal.copyOut (context t) j) := by
  refine (mirrors_byteArrayLen hready).bind_returning ?_
  rintro _ u len _ ⟨rfl, rfl, hu⟩
  rcases len with e | len
  · exact .pure ⟨rfl, rfl, hu⟩
  · dsimp only
    split
    · refine (mirrors_readByteArray len hu).bind_returning ?_
      rintro _ v bytes _ ⟨rfl, rfl, hv⟩
      cases bytes <;> exact .pure ⟨rfl, rfl, hv⟩
    · exact .pure ⟨rfl, rfl, hu⟩

theorem mirrors_construct (caps : Capabilities) (bytes : List UInt8)
    (hready : Ready t (some (i, j)) site.backend) :
    Mirrors (mirror t) (Returning fun held u => Same t (some (i, j)) held u.backend) (some (i, j))
      site (Marshal.construct (context t) caps i bytes)
      (Marshal.construct (context t) caps j bytes) := by
  refine (mirrors_writeByteArray bytes hready).bind_returning ?_
  rintro _ u written _ ⟨rfl, rfl, hu⟩
  rcases written with e | ⟨⟩
  · exact .pure ⟨rfl, rfl, hu⟩
  · refine (mirrors_newString caps hu).bind_returning ?_
    rintro _ v string _ ⟨rfl, rfl, hv⟩
    cases string <;> exact .pure ⟨rfl, rfl, hv⟩

theorem mirrors_exceptionPending {held : Held} (hready : Ready t held site.backend) :
    Mirrors (mirror t) (Returning fun held' u => Same t held held' u.backend) held site
      (context t).exceptionPending (context t).exceptionPending :=
  mirrors_look hready

theorem mirrors_clearException {held : Held} (hready : Ready t held site.backend) :
    Mirrors (mirror t) (Returning fun held' u => Same t held held' u.backend) held site
      (context t).clearException (context t).clearException :=
  mirrors_change hready fun _ => Nat.le_refl _

/-- Both give the same, and no array is held. -/
abbrev Agree : Held → Site State → α → α → Prop := fun held _ a b => held = none ∧ a = b

theorem mirrors_currentContext :
    Mirrors (mirror t) (Returning Agree) none site (managedRuntime t).currentContext
      (managedRuntime t).currentContext := by
  refine (mirrors_onThreads (a := site.backend.runtime.threads.contains t) id
    (site.backend.runtime.threads.get? t) (fun threads h => ?_) (fun _ _ _ => rfl)
    fun _ h => h).bind_returning ?_
  · simp only [Table.contains, h, id]
  · rintro _ u attached _ ⟨rfl, rfl, rfl, -⟩
    split <;> exact .pure ⟨rfl, rfl⟩

theorem mirrors_attach :
    Mirrors (mirror t) (Returning Agree) none site (attach t) (attach t) := by
  refine mirrors_getRuntime (fun r hr => ?_) ?_
  · have hflag : r.rejectAttach = site.backend.runtime.rejectAttach :=
      congrArg Settings.rejectAttach hr
    simp only [hflag]
  · split
    · exact .pure ⟨rfl, rfl⟩
    refine (mirrors_modifyRuntime (f := fun r => { r with attachCalls := r.attachCalls + 1 })
      [.attachCall] (fun r => ⟨rfl, rfl, rfl, (List.append_nil _).symm⟩) (fun _ _ => rfl)
      fun _ => rfl).bind_returning ?_
    rintro _ u - - ⟨rfl, -, -, -⟩
    refine (mirrors_onThreads (a := ()) (fun threads => threads.set t (threads.getD t {}))
      (some (u.backend.runtime.threads.getD t {})) (fun _ _ => rfl) (fun threads q hq => ?_)
      fun threads h => ?_).bind_returning ?_
    · rw [Table.get?_set, if_neg (Ne.symm hq)]
    · rw [Table.get?_set, if_pos rfl, Table.getD, Table.getD, h]
    · rintro _ v - - ⟨rfl, -, -, -⟩
      exact .pure ⟨rfl, rfl⟩

theorem mirrors_attachCurrentThread :
    Mirrors (mirror t) (Returning Agree) none site (managedRuntime t).attachCurrentThread
      (managedRuntime t).attachCurrentThread := by
  refine mirrors_attach.bind_returning ?_
  rintro _ u attached _ ⟨rfl, rfl⟩
  cases attached <;> exact .pure ⟨rfl, rfl⟩

/-- A thread that is not attached for a scope is detached with a panic, which is the same for
both. -/
theorem mirrors_detachCurrentThread :
    Mirrors (mirror t) (fun held _ x y => held = none ∧ x = y) none site
      (managedRuntime t).detachCurrentThread (managedRuntime t).detachCurrentThread := by
  refine (mirrors_modifyRuntime (f := fun r => { r with detachCalls := r.detachCalls + 1 })
    [.detachCall] (fun r => ⟨rfl, rfl, rfl, (List.append_nil _).symm⟩) (fun _ _ => rfl)
    fun _ => rfl).bind_returning ?_
  rintro _ u - - ⟨rfl, -, -, -⟩
  refine (mirrors_onThreads (a := u.backend.runtime.threads.get? t) (·.erase t) none
    (fun threads h => by rw [h]) (fun threads q hq => ?_) fun threads _ => ?_).bind_returning ?_
  · rw [Table.get?_erase, if_neg (Ne.symm hq)]
  · rw [Table.get?_erase, if_pos rfl]
  · rintro _ v found _ ⟨rfl, rfl, rfl, -⟩
    split
    · exact ⟨rfl, rfl⟩
    · split <;> exact ⟨rfl, rfl⟩

end ManagedBridge.InProcess
