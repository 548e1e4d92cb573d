import FieldFormula.Expr.Outline
import FieldFormula.Json.Reading

/-!
# Field values from JSON

The values of fields may stand in a file, as one JSON object.  A string is the value of
its field as it is, null is the empty value, and any other value is its JSON text.
-/

namespace FieldFormula.CommandLine

/-- The description of a value that stands where an object should be. -/
def kindOf : Json → List Char
  | .null => "null".toList
  | .bool b => "boolean `".toList ++ (Json.bool b).text ++ ['`']
  | .number (.integer n) => "integer `".toList ++ (Json.Number.integer n).text ++ ['`']
  | .number (.float x) => "floating point `".toList ++ (Json.Number.float x).text ++ ['`']
  | .string s => "string ".toList ++ shownText s
  | .array _ => "sequence".toList
  | .object _ => "map".toList

/-- The position behind `before` bytes at the front of a text, in words. -/
def placeText (s : List Char) (before : Nat) : String :=
  let (line, column) := Json.positionAfter 1 0 before s
  " at line " ++ toString line ++ " column " ++ toString column

/-- The message for a value of another kind, with the text behind the place reached. -/
def kindMessage (s : List Char) (v : Json) (rest : List Char) : String :=
  "invalid type: " ++ String.ofList (kindOf v) ++ ", expected a map" ++
    placeText s (Json.byteCount s - Json.byteCount rest)

/-- The members of the object that a text writes, or the message of the first fault.  An
array is refused at its bracket, and a simple value behind its end. -/
def membersOf (s : List Char) : Except String (List (String × Json)) :=
  match Json.skipBlanks s with
  | '\x7b' :: _ =>
    match Json.ofText s with
    | .ok (.object members) => .ok members
    | .ok v => .error (kindMessage s v [])
    | .error e => .error e.message
  | '[' :: r => .error (kindMessage s (.array []) ('[' :: r))
  | _ =>
    match Json.readValue Json.maxDepth (s.length + 1) s with
    | .ok (v, rest) => .error (kindMessage s v rest)
    | .error f => .error (f.locate s).message

/-- The value of a field that a JSON value gives. -/
def fieldValue : Json → String
  | .string s => s
  | .null => ""
  | v => String.ofList v.text

/-- The field values that a text gives. -/
def fieldsOfJson (s : List Char) : Except String (List (String × String)) :=
  (membersOf s).map fun ms => ms.map fun (name, v) => (name, fieldValue v)

end FieldFormula.CommandLine
