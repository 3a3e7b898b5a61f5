/-!
# Zero-filled arrays

A new array holds zeros only, and it may be far longer than what is ever written to it. An array
is therefore kept by its beginning and its length: behind the beginning everything is zero. Its
content is the list `toList`, and each operation is pinned down by what it does to that list. Only
`toList` itself goes through zeros that nobody asked for.
-/

namespace ManagedBridge

variable {α : Type}

/-- The content overwritten from position `start` on, as far as it reaches. -/
def overwrite (content : List α) (start : Nat) (items : List α) : List α :=
  content.take start ++ items.take (content.length - start) ++ content.drop (start + items.length)

theorem length_overwrite (content : List α) (start : Nat) (items : List α) :
    (overwrite content start items).length = content.length := by
  simp [overwrite]; omega

/-- An array by its beginning; the rest of it is zero. -/
structure ZeroFilled (α : Type) where
  beginning : List α
  length : Nat
  beginning_le : beginning.length ≤ length

namespace ZeroFilled

variable [OfNat α 0]

/-- A new array of a length. -/
def zeros (length : Nat) : ZeroFilled α := ⟨[], length, Nat.zero_le _⟩

def ofList (content : List α) : ZeroFilled α := ⟨content, content.length, Nat.le_refl _⟩

/-- The whole content. -/
def toList (a : ZeroFilled α) : List α :=
  a.beginning ++ List.replicate (a.length - a.beginning.length) 0

/-- The next `len` items from position `start` on, or as many as there are. -/
def slice (a : ZeroFilled α) (start len : Nat) : List α :=
  let written := (a.beginning.drop start).take len
  written ++ List.replicate (min len (a.length - start) - written.length) 0

/-- The array with `items` written over it from position `start` on; what would reach beyond its
end is left out. -/
def write (a : ZeroFilled α) (start : Nat) (items : List α) : ZeroFilled α where
  beginning :=
    a.slice 0 start ++ items.take (a.length - start) ++ a.beginning.drop (start + items.length)
  length := a.length
  beginning_le := by
    have := a.beginning_le
    simp [slice]; omega

@[simp] theorem toList_zeros (length : Nat) :
    (zeros length : ZeroFilled α).toList = List.replicate length 0 := by
  simp [zeros, toList]

@[simp] theorem toList_ofList (content : List α) : (ofList content).toList = content := by
  simp [ofList, toList]

@[simp] theorem length_toList (a : ZeroFilled α) : a.toList.length = a.length := by
  have := a.beginning_le
  simp [toList]; omega

theorem slice_eq (a : ZeroFilled α) (start len : Nat) :
    a.slice start len = (a.toList.drop start).take len := by
  have := a.beginning_le
  simp only [slice, toList, List.drop_append, List.take_append, List.drop_replicate,
    List.take_replicate, List.append_cancel_left_eq]
  congr 1
  simp; omega

theorem toList_write (a : ZeroFilled α) (start : Nat) (items : List α) :
    (a.write start items).toList = overwrite a.toList start items := by
  have := a.beginning_le
  have behind : a.toList.drop (start + items.length) = a.beginning.drop (start + items.length) ++
      List.replicate (a.length - a.beginning.length - (start + items.length - a.beginning.length))
        0 := by
    simp [toList, List.drop_append]
  rw [overwrite, behind, ← List.append_assoc, length_toList]
  change a.slice 0 start ++ _ ++ _ ++ List.replicate (a.length - List.length (_ ++ _ ++ _)) 0 = _
  rw [slice_eq, List.drop_zero]
  congr 2
  simp; omega

end ZeroFilled

end ManagedBridge
