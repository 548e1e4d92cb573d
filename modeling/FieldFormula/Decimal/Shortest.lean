import FieldFormula.Decimal.Binary
import FieldFormula.Decimal.Numeral

/-!
# Shortest decimals

The reals that round to a float form an interval around it.  `shortest` is the number with
the fewest decimal digits in that interval, and the nearest to the float of those.  A `Tie`
says which of two equally near ones it is.  All arithmetic is on natural numbers.
-/

namespace FieldFormula.Decimal

/-- The number `significand · 10 ^ exponent`. -/
structure Scaled where
  significand : Nat
  exponent : Int
  deriving Repr, DecidableEq

/-- The choice between two neighbours on a grid that are equally near. -/
inductive Tie where
  | up
  | even
  deriving Repr, DecidableEq

/-- The reals that round to a binary number, as fractions over one denominator. -/
structure Interval where
  low : Nat
  middle : Nat
  high : Nat
  denominator : Nat
  closed : Bool

/-- The interval around a positive binary number.  Below a power of two the neighbour is
half as far away. -/
def Interval.around (b : Binary) : Interval :=
  let unit := Nat.pow 2 b.exponent.toNat
  let below := if b.mantissa = Nat.pow 2 52 then 1 else 2
  { low := (4 * b.mantissa - below) * unit
    middle := 4 * b.mantissa * unit
    high := (4 * b.mantissa + 2) * unit
    denominator := 4 * Nat.pow 2 (-b.exponent).toNat
    closed := b.mantissa % 2 == 0 }

namespace Interval

/-- Whether `n · 10 ^ e` lies in the interval. -/
def contains (i : Interval) (n : Nat) (e : Int) : Bool :=
  let x := n * Nat.pow 10 e.toNat * i.denominator
  let s := Nat.pow 10 (-e).toNat
  if i.closed then i.low * s ≤ x && x ≤ i.high * s else i.low * s < x && x < i.high * s

/-- The exponent `p` with the middle at least `10 ^ (p - 1)` and below `10 ^ p`. -/
def magnitude (i : Interval) : Int :=
  let whole := i.middle / i.denominator
  if whole = 0 then
    1 - (digitCount ((i.denominator + i.middle - 1) / i.middle - 1) : Int)
  else digitCount whole

/-- A number of the interval among the two neighbours of the middle on the grid of the
multiples of `10 ^ e`, the nearer one. -/
def neighbour? (tie : Tie) (i : Interval) (e : Int) : Option Nat :=
  let numerator := i.middle * Nat.pow 10 (-e).toNat
  let divisor := i.denominator * Nat.pow 10 e.toNat
  let n := numerator / divisor
  match i.contains n e, i.contains (n + 1) e with
  | true, false => some n
  | false, true => some (n + 1)
  | true, true =>
    match compare (2 * (numerator % divisor)) divisor, tie with
    | .lt, _ => some n
    | .eq, .even => if n % 2 = 0 then some n else some (n + 1)
    | _, _ => some (n + 1)
  | false, false => none

/-- The first hit among the grids with `k` digits, `k + 1` digits and so on, `fuel` of
them. -/
def search (tie : Tie) (i : Interval) (p : Int) (k : Nat) : Nat → Scaled
  | 0 => ⟨i.middle / i.denominator, 0⟩
  | fuel + 1 =>
    match i.neighbour? tie (p - k) with
    | some n => ⟨n, p - k⟩
    | none => search tie i p (k + 1) fuel

end Interval

/-- The shortest decimal that rounds to a positive binary number. -/
def shortest (tie : Tie) (b : Binary) : Scaled :=
  let i := Interval.around b
  i.search tie i.magnitude 1 17

end FieldFormula.Decimal
