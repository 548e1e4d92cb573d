import FieldFormula.Decimal.Shortest

/-!
# Layout of numbers

A `Layout` says how the digits of a number are laid out as text: which magnitudes are
written without an exponent, how an exponent is written, and which words stand for the
floats that are not finite.  `Layout.render` writes a float by a layout.
-/

namespace FieldFormula.Decimal

/-- The rules by which a number is written. -/
structure Layout where
  /-- The choice between two shortest decimals that are equally near. -/
  tie : Tie
  /-- Whether a number whose first digit counts `10 ^ k` is written without an exponent. -/
  positional : Int → Bool
  /-- The mark in front of an exponent that is not negative. -/
  plus : List Char
  /-- What follows an integer written without an exponent. -/
  integerTail : List Char
  /-- Whether a negative zero has a sign. -/
  signedZero : Bool
  infinity : List Char
  nan : List Char

/-- The digits of a number, without trailing zeros. -/
def significantDigits (n : Nat) : List Char :=
  ((Nat.toDigits 10 n).reverse.dropWhile (· == '0')).reverse

namespace Layout

/-- The digits `ds`, the first of which counts `10 ^ k`, around a point. -/
def plain (l : Layout) (ds : List Char) (k : Int) : List Char :=
  if k < 0 then
    "0.".toList ++ List.replicate (-k - 1).toNat '0' ++ ds
  else if ds.length ≤ k + 1 then
    ds ++ List.replicate (k + 1 - ds.length).toNat '0' ++ l.integerTail
  else
    ds.take (k + 1).toNat ++ '.' :: ds.drop (k + 1).toNat

/-- The digits `ds`, the first of which counts `10 ^ k`, with an exponent. -/
def scientific (l : Layout) (ds : List Char) (k : Int) : List Char :=
  let mantissa :=
    match ds with
    | [] => []
    | [d] => [d]
    | d :: ds => d :: '.' :: ds
  let exponent := Nat.toDigits 10 k.natAbs
  mantissa ++ 'e' :: (if k < 0 then ['-'] else l.plus) ++ exponent

/-- The text of a positive decimal. -/
def decimal (l : Layout) (d : Scaled) : List Char :=
  let k : Int := (Nat.toDigits 10 d.significand).length - 1 + d.exponent
  let ds := significantDigits d.significand
  if l.positional k then l.plain ds k else l.scientific ds k

/-- The text of a float. -/
def render (l : Layout) (x : Float) : List Char :=
  match Binary.ofFloat? x with
  | none => if x.isNaN then l.nan else if x < 0.0 then '-' :: l.infinity else l.infinity
  | some b =>
    let magnitude := if b.mantissa = 0 then '0' :: l.integerTail else l.decimal (shortest l.tie b)
    if b.negative && (b.mantissa != 0 || l.signedZero) then '-' :: magnitude else magnitude

end Layout

end FieldFormula.Decimal
