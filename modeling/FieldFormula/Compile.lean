import FieldFormula.Evaluation
import FieldFormula.Registry.Builtin

/-!
# The text of a formula

A source is read and evaluated with the built-in functions.  Only reading can fail: what a
function objects to is part of the text.
-/

namespace FieldFormula

/-- The text of the formula that a source writes, where `draw` is the fraction for random
results. -/
def compile (draw : Float) (fields : FieldMap) (source : String) :
    Except SyntaxError String :=
  match Expr.ofSource source with
  | .ok e => .ok (e.evaluate ⟨.builtin, some fields, draw⟩).toText
  | .error e => .error e

/-- A source that writes a formula has the text of its value. -/
theorem compile_eq_ok {source : String} {e : Expr} (h : Expr.ofSource source = .ok e)
    (draw : Float) (fields : FieldMap) :
  compile draw fields source = .ok (e.evaluate ⟨.builtin, some fields, draw⟩).toText
  := by
  rw [compile, h]

end FieldFormula
