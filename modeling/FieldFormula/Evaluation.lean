import FieldFormula.Expr.OfTokens
import FieldFormula.Registry

/-!
# Evaluation

A formula is evaluated in a context of functions and field values.  Evaluation never
fails: a field without a value, an unknown function and one that is not available each
have a text that takes the place of the value.
-/

namespace FieldFormula

/-- The values of fields by name.  The first pair with a name counts. -/
abbrev FieldMap := List (String × String)

namespace FieldMap

/-- The field map without fields. -/
def empty : FieldMap := []

/-- The value of a field. -/
def get? (m : FieldMap) (name : String) : Option String :=
  m.lookup name

/-- The fields with a value set. -/
def insert (m : FieldMap) (name value : String) : FieldMap :=
  (name, value) :: m.filter (·.1 != name)

/-- The fields without one. -/
def erase (m : FieldMap) (name : String) : FieldMap :=
  m.filter (·.1 != name)

/-- The fields that result when pairs are set one after the other. -/
def ofPairs (pairs : List (String × String)) : FieldMap :=
  pairs.foldl (fun m (name, value) => m.insert name value) empty

end FieldMap

/-- What a formula is evaluated in: functions, field values if there are any, and the
fraction for random results. -/
structure Context where
  registry : Registry
  fields : Option FieldMap
  draw : Float

namespace Context

/-- The text that shows a field without a value. -/
def echo (name : String) : String :=
  "[[" ++ name ++ "]]"

/-- The value of a field, or its name in brackets. -/
def fieldText (ctx : Context) (name : String) : String :=
  ((ctx.fields.bind (·.get? name)).getD (echo name))

/-- The text for a function that is not registered. -/
def unknownText (name : String) : String :=
  "[Unknown function: " ++ name ++ "]"

/-- The text for a function that is not available. -/
def absentText (name : String) : String :=
  "[" ++ name ++ ": Not available - requires ProcessPlan backend]"

/-- The result of a call on argument values. -/
def apply (ctx : Context) (name : String) (args : List Value) : Value :=
  match ctx.registry.get? name with
  | none => .text (unknownText name)
  | some d =>
    match d.action with
    | some act =>
      if d.availability = .absent then .text (absentText name) else act ⟨args, ctx.draw⟩
    | none => .text (absentText name)

end Context

namespace Expr

mutual

/-- The value of a formula in a context. -/
def evaluate (ctx : Context) : Expr → Value
  | .literal v => v
  | .field name => .text (ctx.fieldText name)
  | .call name args => ctx.apply name (evaluateAll ctx args)
  | .concat parts =>
    .text (String.ofList ((evaluateAll ctx parts).flatMap Value.chars))

/-- The values of several formulas. -/
def evaluateAll (ctx : Context) : List Expr → List Value
  | [] => []
  | e :: es => evaluate ctx e :: evaluateAll ctx es

end

end Expr

end FieldFormula
