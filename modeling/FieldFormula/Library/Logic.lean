import FieldFormula.Call

/-!
# Functions of truth

Conditions, and the choice of an argument by a condition.
-/

namespace FieldFormula.Library

/-- The value that belongs to the first true condition among pairs of a condition and a
value.  A value without a condition at the end is taken when no condition is true. -/
def choose : List Value → Value
  | [] => .empty
  | [v] => v
  | c :: v :: rest => if c.toBool then v else choose rest

/-- Chooses a value by conditions. -/
def ifThen (c : Call) : Value := choose c.args

/-- Whether a value has more than blanks. -/
def hasValue (c : Call) : Value := .ofBool (!(c.value 0).isBlank)

/-- Whether a value has nothing but blanks. -/
def isEmpty (c : Call) : Value := .ofBool (c.value 0).isBlank

/-- Whether all values are true. -/
def isTrue (c : Call) : Value := .ofBool (c.args.all Value.toBool)

/-- Whether some value is true. -/
def anyTrue (c : Call) : Value := .ofBool (c.args.any Value.toBool)

/-- Whether a value is not true. -/
def negation (c : Call) : Value := .ofBool (!c.truth 0)

/-- The first value with more than blanks, without the blanks at its ends. -/
def firstValue (c : Call) : Value :=
  match c.args.find? (!·.isBlank) with
  | some v => .ofChars (Text.trim v.chars)
  | none => .empty

end FieldFormula.Library
