/-!
# Shortest decimals

The decimal with the fewest digits among those that read back as a given binary floating-point
number. All arithmetic is exact: a finite number is `m * 2 ^ q`, the decimals that read back as it
fill the interval between the midpoints to its neighbours (ends included exactly when `m` is even),
and on each decimal grid only the two grid points around the number need a test.
-/

namespace ManagedBridge.Decimal

/-- The number `digits * 10 ^ exponent`. -/
structure Scientific where
  digits : Nat
  exponent : Int
  deriving DecidableEq, Repr

/-- The power `b ^ k`, or one where `k` is negative. -/
def power (b : Nat) (k : Int) : Nat := Nat.pow b k.toNat

/-- A positive number with the interval around it, over one common denominator. -/
structure Rounding where
  low : Nat
  value : Nat
  high : Nat
  denominator : Nat
  closed : Bool

namespace Rounding

/-- The decimals that read back as `m * 2 ^ q`. The gap below is half the gap above where `m` is
the least significand of its exponent and `q` not the least exponent. -/
def ofBinary (m : Nat) (q : Int) : Rounding :=
  let below := if m == Nat.pow 2 52 && q > -1074 then 1 else 2
  let factor := power 2 (q - 2)
  { low := (4 * m - below) * factor
    value := 4 * m * factor
    high := (4 * m + 2) * factor
    denominator := power 2 (2 - q)
    closed := m % 2 == 0 }

/-- Whether `n * 10 ^ k` lies in the interval. -/
def contains (r : Rounding) (n : Nat) (k : Int) : Bool :=
  let up := power 10 (-k)
  let point := n * power 10 k * r.denominator
  if r.closed then r.low * up ≤ point && point ≤ r.high * up
  else r.low * up < point && point < r.high * up

/-- The largest `n` with `n * 10 ^ k` at most the value. -/
def floorAt (r : Rounding) (k : Int) : Nat :=
  r.value * power 10 (-k) / (power 10 k * r.denominator)

/-- Of the two points around the value on the grid of `10 ^ k`, the nearer; the even one if they
are equally far. -/
def nearestAt (r : Rounding) (k : Int) : Nat :=
  let n := r.floorAt k
  let twice := 2 * r.value * power 10 (-k)
  let middle := (2 * n + 1) * power 10 k * r.denominator
  if twice < middle then n else if middle < twice then n + 1 else if n % 2 == 0 then n else n + 1

/-- The point of the grid of `10 ^ k` that reads back as the value, if there is one. -/
def onGrid? (r : Rounding) (k : Int) : Option Nat :=
  let n := r.floorAt k
  match r.contains n k, r.contains (n + 1) k with
  | true, true => some (r.nearestAt k)
  | true, false => some n
  | false, true => some (n + 1)
  | false, false => none

/-- The first grid with a hit, going down from `10 ^ k` by `steps` grids at most. -/
def search (r : Rounding) : (steps : Nat) → (k : Int) → Scientific
  | 0, k => ⟨r.nearestAt k, k⟩
  | steps + 1, k =>
    match r.onGrid? k with
    | some n => ⟨n, k⟩
    | none => r.search steps (k - 1)

/-- The least `j` with `10 ^ j` times the value at least one, counting up from `j` by `steps` at
most. -/
def shiftToOne (r : Rounding) : (steps : Nat) → (j : Nat) → Nat
  | 0, j => j
  | steps + 1, j => if r.denominator ≤ r.value * Nat.pow 10 j then j else r.shiftToOne steps (j + 1)

/-- The exponent of the leading digit of the value. -/
def leadingExponent (r : Rounding) : Int :=
  if r.denominator ≤ r.value then
    ((Nat.toDigits 10 (r.value / r.denominator)).length : Int) - 1
  else -(r.shiftToOne 400 1 : Int)

end Rounding

/-- The same number without zeros at the end of its digits; at most `steps` are taken off. -/
def Scientific.trim : (steps : Nat) → Scientific → Scientific
  | 0, s => s
  | steps + 1, s =>
    if s.digits != 0 && s.digits % 10 == 0 then
      Scientific.trim steps ⟨s.digits / 10, s.exponent + 1⟩
    else s

/-- The shortest decimal that reads back as `m * 2 ^ q`. -/
def shortest (m : Nat) (q : Int) : Scientific :=
  let r := Rounding.ofBinary m q
  (r.search 17 r.leadingExponent).trim 20

/-- How a decimal is laid out: without exponent where the leading digit's exponent is between
`leastPositional` and `greatestPositional`, otherwise with an exponent and its sign. -/
structure Layout where
  leastPositional : Int
  greatestPositional : Int

def zeros (n : Nat) : String := String.ofList (List.replicate n '0')

/-- The text of a nonnegative decimal. -/
def Layout.render (layout : Layout) (s : Scientific) : String :=
  let ds := Nat.toDigits 10 s.digits
  let lead : Int := s.exponent + ds.length - 1
  if layout.leastPositional ≤ lead && lead ≤ layout.greatestPositional then
    if 0 ≤ s.exponent then String.ofList ds ++ zeros s.exponent.toNat ++ ".0"
    else if 0 ≤ lead then
      String.ofList (ds.take (lead.toNat + 1)) ++ "." ++ String.ofList (ds.drop (lead.toNat + 1))
    else "0." ++ zeros (-lead - 1).toNat ++ String.ofList ds
  else
    let mantissa :=
      match ds with
      | [] => "0"
      | [d] => d.toString
      | d :: rest => d.toString ++ "." ++ String.ofList rest
    mantissa ++ (if lead < 0 then "e-" else "e+") ++ toString lead.natAbs

/-- The text of a finite number: its sign, then the shortest decimal that reads back. -/
def Layout.renderFloat (layout : Layout) (x : Float) : String :=
  let bits : Nat := x.toBits.toNat
  let fraction : Nat := bits % Nat.pow 2 52
  let biased : Nat := bits / Nat.pow 2 52 % Nat.pow 2 11
  let sign := if bits / Nat.pow 2 63 == 1 then "-" else ""
  let s : Scientific :=
    if biased == 0 then
      if fraction == 0 then ⟨0, 0⟩ else shortest fraction (-1074)
    else shortest (Nat.pow 2 52 + fraction) ((biased : Int) - 1075)
  sign ++ layout.render s

end ManagedBridge.Decimal
