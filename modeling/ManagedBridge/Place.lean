/-!
# Places

A place is a part of a state that can be read and replaced. A place is lawful if it behaves like a
field of a structure.
-/

namespace ManagedBridge

/-- A part of a state, which can be read and replaced. -/
structure Place (σ α : Type) where
  get : σ → α
  set : α → σ → σ

namespace Place

variable {σ α β : Type}

/-- A place within a place. -/
def inside (outer : Place σ α) (inner : Place α β) : Place σ β :=
  ⟨fun s => inner.get (outer.get s), fun b s => outer.set (inner.set b (outer.get s)) s⟩

def modify (p : Place σ α) (f : α → α) (s : σ) : σ := p.set (f (p.get s)) s

/-- What is put into a place is found there, and nothing else is remembered of it. -/
structure Lawful (p : Place σ α) : Prop where
  get_set : ∀ a s, p.get (p.set a s) = a
  set_get : ∀ s, p.set (p.get s) s = s
  set_set : ∀ a b s, p.set a (p.set b s) = p.set a s

theorem Lawful.inside {p : Place σ α} {q : Place α β} (hp : p.Lawful) (hq : q.Lawful) :
    (p.inside q).Lawful where
  get_set a s := by simp [Place.inside, hp.get_set, hq.get_set]
  set_get s := by simp [Place.inside, hp.set_get, hq.set_get]
  set_set a b s := by simp [Place.inside, hp.get_set, hp.set_set, hq.set_set]

/-- The first half of a pair. -/
def first : Place (α × β) α := ⟨Prod.fst, fun a s => (a, s.2)⟩

theorem lawful_first : (first : Place (α × β) α).Lawful :=
  ⟨fun _ _ => rfl, fun _ => rfl, fun _ _ _ => rfl⟩

end Place

end ManagedBridge
