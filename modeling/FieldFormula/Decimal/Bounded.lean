import FieldFormula.Decimal.Binary
import FieldFormula.Decimal.Numeral

/-!
# Decimals of bounded size

A bounded decimal is `± coefficient / 10 ^ scale`, with a coefficient below `2 ^ 96` and at
most 28 fraction digits.  `ofBinary` converts a binary number and keeps as many of its
digits as fit, `round` rounds half away from zero, `fixedText` writes a fixed number of
fraction digits, and `toFloat` goes back to a float.
-/

namespace FieldFormula.Decimal

/-- The number `± coefficient / 10 ^ scale`. -/
structure Bounded where
  negative : Bool
  coefficient : Nat
  scale : Nat
  deriving Repr, DecidableEq

namespace Bounded

/-- The bound of the coefficients. -/
def limit : Nat := Nat.pow 2 96

/-- The greatest number of fraction digits. -/
def maxScale : Nat := 28

/-- The number `c / 10 ^ s / 2 ^ k` as a coefficient and a scale.  Each factor of two is
divided out of an even coefficient, and else becomes a factor of five and a fraction
digit; where the product would reach the limit, the odd coefficient is halved downwards. -/
def divideByTwos (c s : Nat) : Nat → Nat × Nat
  | 0 => (c, s)
  | k + 1 =>
    if c % 2 = 0 ∨ limit ≤ 5 * c then divideByTwos (c / 2) s k
    else divideByTwos (5 * c) (s + 1) k

/-- The number `c / 10 ^ (maxScale + k)` as a coefficient and a scale.  One digit after the
other is rounded off, until nothing is left. -/
def dropDigits (c : Nat) : Nat → Nat × Nat
  | 0 => (c, maxScale)
  | k + 1 =>
    if c / 10 = 0 then (0, 0)
    else dropDigits (if 5 ≤ c % 10 then c / 10 + 1 else c / 10) k

/-- The bounded decimal next to a binary number that is below the limit. -/
def ofBinary (b : Binary) : Bounded :=
  if b.mantissa = 0 then ⟨b.negative, 0, 0⟩
  else if 0 ≤ b.exponent then ⟨b.negative, b.numerator, 0⟩
  else
    let (c, s) := divideByTwos b.mantissa 0 (-b.exponent).toNat
    let (c, s) := if maxScale < s then dropDigits c (s - maxScale) else (c, s)
    ⟨b.negative, c, s⟩

/-- A number rounded to at most `digits` fraction digits, half away from zero. -/
def round (d : Bounded) (digits : Nat) : Bounded :=
  if d.coefficient = 0 then ⟨d.negative, 0, digits⟩
  else if d.scale ≤ digits then d
  else
    let unit := Nat.pow 10 (d.scale - digits)
    ⟨d.negative, (2 * d.coefficient + unit) / (2 * unit), digits⟩

/-- A number with `digits` fraction digits, which are at least as many as it has.  The
missing ones are zeros. -/
def fixedText (d : Bounded) (digits : Nat) : List Char :=
  let whole := Nat.toDigits 10 (d.coefficient / Nat.pow 10 d.scale)
  let fraction := Nat.toDigits 10 (d.coefficient % Nat.pow 10 d.scale)
  let padded :=
    List.replicate (d.scale - fraction.length) '0' ++ (if d.scale = 0 then [] else fraction) ++
      List.replicate (digits - d.scale) '0'
  (if d.negative then ['-'] else []) ++ whole ++ if digits = 0 then [] else '.' :: padded

/-- The same number with zeros added to its fraction, up to `n` of them, as long as the
coefficient stays below the limit. -/
def widen (d : Bounded) : Nat → Bounded
  | 0 => d
  | n + 1 =>
    if 10 * d.coefficient < limit then
      widen ⟨d.negative, 10 * d.coefficient, d.scale + 1⟩ n
    else d

/-- The integer nearest to a float, a half going away from zero. -/
def roundHalfAway (b : Binary) : Int :=
  let n : Int := (2 * b.numerator + b.denominator) / (2 * b.denominator)
  if b.negative then -n else n

/-- The power of ten that squaring and multiplying yields, where the binary digits of the
exponent are taken from the lowest on.  `fuel` bounds their number. -/
def powerOfTen (result base : Float) (k : Nat) : Nat → Float
  | 0 => result
  | fuel + 1 =>
    let result := if k % 2 = 1 then result * base else result
    if k / 2 = 0 then result else powerOfTen result (base * base) (k / 2) fuel

/-- The float for a number: the sum of its integer part and its fraction, rounded to the
digits of its scale. -/
def toFloat (d : Bounded) : Float :=
  let unit := Nat.pow 10 d.scale
  let whole := Float.ofNat (d.coefficient / unit)
  let fraction := Float.ofNat (d.coefficient % unit) / Float.ofNat unit
  let magnitude :=
    if fraction == 0.0 then whole
    else
      let power := powerOfTen 1.0 10.0 d.scale 32
      roundWith roundHalfAway ((whole + fraction) * power) / power
  if d.negative then -magnitude else magnitude

end Bounded

end FieldFormula.Decimal
