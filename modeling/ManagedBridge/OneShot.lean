/-!
# One-shot effects

An effect is armed for the calls of one target. The earliest effect armed for a target either lets a
call pass and counts down, or is used up by that call.
-/

namespace ManagedBridge

structure OneShot (κ φ : Type) where
  target : κ
  /-- How many calls pass before the effect is used up. -/
  skip : Nat := 0
  effect : φ
  deriving Repr

namespace OneShot

variable {κ φ : Type} [DecidableEq κ]

/-- The effect that a call of `target` uses up, if it uses one up, and what is armed after it. -/
def take (target : κ) : List (OneShot κ φ) → Option φ × List (OneShot κ φ)
  | [] => (none, [])
  | shot :: rest =>
    if shot.target = target then
      match shot.skip with
      | 0 => (some shot.effect, rest)
      | skip + 1 => (none, { shot with skip } :: rest)
    else
      let (effect, left) := take target rest
      (effect, shot :: left)

/-- Effects that are armed for other targets do not matter to a call. -/
theorem take_cons_of_ne {target : κ} {shot : OneShot κ φ} (h : shot.target ≠ target)
    (rest : List (OneShot κ φ)) :
    take target (shot :: rest) = ((take target rest).1, shot :: (take target rest).2) := by
  simp [take, h]

end OneShot

end ManagedBridge
