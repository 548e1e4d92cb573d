import FieldFormula.Value

/-!
# Expressions

A formula is a literal, a field, a call of a function, or a sequence of formulas whose
text forms stand side by side.  `fields` lists the fields of a formula from left to right,
and `depth` is the nesting depth of its calls.
-/

namespace FieldFormula

/-- A formula as a tree. -/
inductive Expr where
  | literal (value : Value)
  | field (name : String)
  | call (name : String) (args : List Expr)
  | concat (parts : List Expr)
  deriving Inhabited

namespace Expr

/-- The empty text as a formula. -/
def empty : Expr := .literal .empty

mutual

/-- The fields of a formula from left to right, as often as they occur. -/
def fields : Expr → List String
  | .literal _ => []
  | .field name => [name]
  | .call _ args => fieldsOfAll args
  | .concat parts => fieldsOfAll parts

/-- The fields of several formulas from left to right. -/
def fieldsOfAll : List Expr → List String
  | [] => []
  | e :: es => fields e ++ fieldsOfAll es

end

mutual

/-- The nesting depth of the calls in a formula. -/
def depth : Expr → Nat
  | .literal _ => 0
  | .field _ => 0
  | .call _ args => 1 + depthOfAll args
  | .concat parts => depthOfAll parts

/-- The greatest nesting depth among several formulas. -/
def depthOfAll : List Expr → Nat
  | [] => 0
  | e :: es => max (depth e) (depthOfAll es)

end

/-- The formula whose parts stand side by side.  One part stands for itself. -/
def ofParts : List Expr → Expr
  | [e] => e
  | es => .concat es

end Expr

end FieldFormula
