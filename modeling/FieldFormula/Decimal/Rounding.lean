import FieldFormula.Decimal.Bounded
import FieldFormula.Value

/-!
# Rounding to fraction digits

`fixedText` is the text of a number with a given number of fraction digits, and `round` is
the number that this text writes.  Numbers of magnitude `1e21` and above, and those that
are not finite, are not rounded.
-/

namespace FieldFormula.Decimal

/-- The number rounded to `digits` fraction digits, for a finite float below `1e21`. -/
def rounded? (n : Float) (digits : Nat) : Option Bounded :=
  match Binary.ofFloat? n with
  | none => none
  | some b => if (1e21 : Float) ≤ n.abs then none else some ((Bounded.ofBinary b).round digits)

/-- The number of fraction digits that a rounding honours. -/
def clampDigits (digits : Nat) : Nat :=
  min digits Bounded.maxScale

/-- The text of a number with `digits` fraction digits. -/
def fixedText (n : Float) (digits : Nat) : List Char :=
  let digits := clampDigits digits
  match rounded? n digits with
  | some d => d.fixedText digits
  | none => Value.layout.render n

/-- The number rounded to `digits` fraction digits. -/
def round (n : Float) (digits : Nat) : Float :=
  let digits := clampDigits digits
  match rounded? n digits with
  | some d => (d.widen (digits - d.scale)).toFloat
  | none => n

/-- The number of fraction digits that a float requests. -/
def requestedDigits (n : Float) : Nat :=
  if n.isNaN ∨ n ≤ 0.0 then 0
  else if Float.ofNat Bounded.maxScale ≤ n then Bounded.maxScale
  else toNat n

end FieldFormula.Decimal
