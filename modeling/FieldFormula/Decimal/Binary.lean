/-!
# Binary numbers

A finite float is `± mantissa · 2 ^ exponent` with natural `mantissa`.  `Binary.ofFloat?`
reads this form off the bits of a float, and the roundings to an integer and the remainder
of a division are then computed on integers.
-/

namespace FieldFormula.Decimal

/-- The number `± mantissa · 2 ^ exponent`. -/
structure Binary where
  negative : Bool
  mantissa : Nat
  exponent : Int
  deriving Repr, DecidableEq

namespace Binary

/-- The binary form of a finite float. -/
def ofFloat? (x : Float) : Option Binary :=
  let bits := x.toBits.toNat
  let field : Nat := bits / Nat.pow 2 52 % Nat.pow 2 11
  let fraction := bits % Nat.pow 2 52
  let negative := bits / Nat.pow 2 63 == 1
  if field = 2047 then none
  else if field = 0 then some ⟨negative, fraction, -1074⟩
  else some ⟨negative, Nat.pow 2 52 + fraction, (field : Int) - 1075⟩

/-- The magnitude as a fraction of natural numbers. -/
def numerator (b : Binary) : Nat :=
  b.mantissa * Nat.pow 2 b.exponent.toNat

/-- The denominator that belongs to `numerator`. -/
def denominator (b : Binary) : Nat :=
  Nat.pow 2 (-b.exponent).toNat

/-- The numerator of the number, with its sign. -/
def signedNumerator (b : Binary) : Int :=
  if b.negative then -(b.numerator : Int) else b.numerator

/-- The integer next to the number in the direction of zero. -/
def truncate (b : Binary) : Int :=
  b.signedNumerator.tdiv b.denominator

/-- The greatest integer that is at most the number. -/
def floor (b : Binary) : Int :=
  b.signedNumerator.fdiv b.denominator

/-- The least integer that is at least the number. -/
def ceiling (b : Binary) : Int :=
  -((-b.signedNumerator).fdiv b.denominator)

/-- Whether the number is an integer. -/
def isInteger (b : Binary) : Bool :=
  b.numerator % b.denominator == 0

end Binary

/-- The float `2 ^ q`, for `q` from `-1074` to `1023`. -/
def twoPow (q : Int) : Float :=
  if q < -1022 then
    Float.ofBits (UInt64.ofNat (Nat.pow 2 (q + 1074).toNat))
  else
    Float.ofBits (UInt64.ofNat ((q + 1023).toNat * Nat.pow 2 52))

/-- A float rounded to an integer by `f`; a float that is not finite stays. -/
def roundWith (f : Binary → Int) (x : Float) : Float :=
  match Binary.ofFloat? x with
  | none => x
  | some b => if 0 ≤ b.exponent then x else Float.ofInt (f b)

/-- The remainder of the division of `x` by `y` whose quotient is truncated.  It has the
sign of `x`. -/
def remainder (x y : Float) : Float :=
  match Binary.ofFloat? x, Binary.ofFloat? y with
  | some a, some b =>
    if b.mantissa = 0 then 0.0 / 0.0
    else
      let q := min a.exponent b.exponent
      let m := a.mantissa * Nat.pow 2 (a.exponent - q).toNat
      let d := b.mantissa * Nat.pow 2 (b.exponent - q).toNat
      let r := Float.ofNat (m % d) * twoPow q
      if a.negative then -r else r
  | some _, none => if y.isNaN then y else x
  | none, _ => 0.0 / 0.0

/-- The natural number at or below a float, zero for negative floats and for those that
are not finite. -/
def toNat (x : Float) : Nat :=
  match Binary.ofFloat? x with
  | none => 0
  | some b => b.truncate.toNat

end FieldFormula.Decimal
