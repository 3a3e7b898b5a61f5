/-!
# Sets of code points

A property of code points, such as a general category, is constant on long stretches. A set is
therefore kept as the increasing list of the code points at which membership changes: a code point
is a member when an odd number of them are at or below it.
-/

namespace ManagedBridge.Text

/-- A set of code points, given by the points at which membership changes, in increasing order. -/
structure CodePointSet where
  bounds : List Nat

namespace CodePointSet

/-- Whether `n` is a member, if before the bounds that are left it is one or not as `member`
says. -/
def memberAfter (n : Nat) (member : Bool) : List Nat → Bool
  | [] => member
  | bound :: bounds => if bound ≤ n then memberAfter n (!member) bounds else member

/-- Whether the code point `n` is in the set. -/
def contains (s : CodePointSet) (n : Nat) : Bool := memberAfter n false s.bounds

end CodePointSet

end ManagedBridge.Text
