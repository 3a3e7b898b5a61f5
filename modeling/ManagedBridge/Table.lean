/-!
# Tables

Finite maps as lists of entries. A new key goes to the end, so the entries stay in the order in
which their keys were first set.
-/

namespace ManagedBridge

structure Table (κ ν : Type) where
  entries : List (κ × ν) := []
  deriving Repr

namespace Table

variable {κ ν : Type} [DecidableEq κ]

def find? (k : κ) : List (κ × ν) → Option ν
  | [] => none
  | (j, v) :: rest => if j = k then some v else find? k rest

def put (k : κ) (v : ν) : List (κ × ν) → List (κ × ν)
  | [] => [(k, v)]
  | (j, w) :: rest => if j = k then (k, v) :: rest else (j, w) :: put k v rest

def get? (t : Table κ ν) (k : κ) : Option ν := find? k t.entries

def getD (t : Table κ ν) (k : κ) (default : ν) : ν := (t.get? k).getD default

def contains (t : Table κ ν) (k : κ) : Bool := (t.get? k).isSome

def set (t : Table κ ν) (k : κ) (v : ν) : Table κ ν := ⟨put k v t.entries⟩

def erase (t : Table κ ν) (k : κ) : Table κ ν := ⟨t.entries.filter fun e => e.1 ≠ k⟩

def size (t : Table κ ν) : Nat := t.entries.length

theorem mem_entries_of_get? {t : Table κ ν} {k : κ} {v : ν} (h : t.get? k = some v) :
    (k, v) ∈ t.entries := by
  obtain ⟨entries⟩ := t
  simp only [get?] at h ⊢
  induction entries with
  | nil => cases h
  | cons e rest ih =>
    simp only [find?] at h
    split at h
    · next heq =>
      cases h
      exact heq ▸ List.mem_cons_self
    · exact List.mem_cons_of_mem _ (ih h)

@[simp] theorem get?_empty (k : κ) : (⟨[]⟩ : Table κ ν).get? k = none := rfl

@[simp] theorem get?_set (t : Table κ ν) (k j : κ) (v : ν) :
    (t.set k v).get? j = if k = j then some v else t.get? j := by
  obtain ⟨entries⟩ := t
  simp only [get?, set]
  induction entries with
  | nil => simp [put, find?]
  | cons e rest ih =>
    obtain ⟨i, w⟩ := e
    by_cases hik : i = k
    · subst hik; by_cases hij : i = j <;> simp [put, find?, hij]
    · by_cases hij : i = j
      · subst hij; simp [put, find?, hik, Ne.symm hik]
      · simp [put, find?, hik, hij, ih]

@[simp] theorem set_set (t : Table κ ν) (k : κ) (v w : ν) : (t.set k v).set k w = t.set k w := by
  obtain ⟨entries⟩ := t
  simp only [set, mk.injEq]
  induction entries with
  | nil => simp [put]
  | cons e rest ih => by_cases h : e.1 = k <;> simp [put, h, ih]

/-- To set what is there changes nothing. -/
theorem set_of_get? {t : Table κ ν} {k : κ} {v : ν} (h : t.get? k = some v) : t.set k v = t := by
  obtain ⟨entries⟩ := t
  simp only [get?] at h
  simp only [set, mk.injEq]
  induction entries with
  | nil => cases h
  | cons e rest ih =>
    by_cases hk : e.1 = k
    · simp only [find?, hk, if_true, Option.some.injEq] at h
      simp [put, ← hk, ← h]
    · simp only [find?, hk, if_false] at h
      simp [put, hk, ih h]

@[simp] theorem get?_erase (t : Table κ ν) (k j : κ) :
    (t.erase k).get? j = if k = j then none else t.get? j := by
  obtain ⟨entries⟩ := t
  simp only [get?, erase]
  induction entries with
  | nil => simp [find?]
  | cons e rest ih =>
    obtain ⟨i, w⟩ := e
    by_cases hik : i = k
    · subst hik; by_cases hij : i = j <;> simp_all [find?]
    · by_cases hij : i = j
      · subst hij; simp_all [find?, Ne.symm hik]
      · simp_all [find?]

end Table

end ManagedBridge
