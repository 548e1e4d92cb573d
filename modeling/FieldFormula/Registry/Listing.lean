import FieldFormula.Json.Indented
import FieldFormula.Registry

/-!
# Listings of functions

The definitions of functions as lines of a table and as JSON, and the page that describes
one function.
-/

namespace FieldFormula

/-- A text filled up with blanks to a width. -/
def padded (width : Nat) (s : String) : String :=
  s ++ String.ofList (List.replicate (width - s.length) ' ')

namespace Definition

/-- The line of a function in a table. -/
def row (d : Definition) : String :=
  padded 22 d.name ++ " " ++ padded 16 d.availability.word ++ " " ++ d.description

/-- A function as JSON. -/
def json (d : Definition) : Json :=
  .object [
    ("name", .string d.name),
    ("params", .array (d.params.map .string)),
    ("description", .string d.description),
    ("example", .string d.sample),
    ("status", .string d.availability.word)]

/-- The lines that describe a function. -/
def page (d : Definition) : List String :=
  [d.usage, "Status: " ++ d.availability.word, "", d.description] ++
    if d.sample.isEmpty then [] else ["", "Example: " ++ d.sample]

end Definition

/-- The line that counts functions by their availability. -/
def Summary.line (s : Summary) : String :=
  toString s.total ++ " functions: " ++ toString s.complete ++ " implemented, " ++
    toString s.limited ++ " partial, " ++ toString s.absent ++ " not available"

end FieldFormula
