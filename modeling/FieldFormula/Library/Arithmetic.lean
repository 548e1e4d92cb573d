import FieldFormula.Arithmetic.Term
import FieldFormula.Call

/-!
# Arithmetic in formulas

The function that computes the expression spelled by its arguments.
-/

namespace FieldFormula.Library

/-- The value of the expression that the arguments spell side by side. -/
def arithmetic (c : Call) : Value :=
  match Arithmetic.evaluate (Arithmetic.sanitize c.allChars.flatten) with
  | .ok n => .number n
  | .error e => .text ("[Calc error: " ++ e.message ++ "]")

end FieldFormula.Library
