import FieldFormula.Evaluation

/-!
# The fields of a formula

The names of the fields that a formula refers to, in order and without repetitions.  They
are read off the tokens of its source or off the formula, and both agree for a source that
is a formula.
-/

namespace FieldFormula

/-- Names in order, each once. -/
def sortedNames (names : List String) : List String :=
  (names.mergeSort (fun a b => decide (a ≤ b))).eraseDups

/-- The names of the fields in a list of tokens. -/
def Token.fieldNames (tokens : List Token) : List String :=
  sortedNames (tokens.filterMap Token.fieldName?)

namespace Expr

/-- The names of the fields in a formula. -/
def fieldNames (e : Expr) : List String :=
  sortedNames e.fields

/-- The names of the fields in a formula that have no value. -/
def unresolved (e : Expr) (m : FieldMap) : List String :=
  e.fieldNames.filter fun name => (m.get? name).isNone

end Expr

end FieldFormula
