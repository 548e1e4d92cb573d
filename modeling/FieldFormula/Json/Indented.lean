import FieldFormula.Json

/-!
# Indented JSON

`Json.indented` is the text of a value with every item and every member on a line of its
own, two blanks further in than the brackets around it.
-/

namespace FieldFormula.Json

/-- The end of a line, and the blanks at the front of the next one. -/
def lineBreak (depth : Nat) : List Char :=
  '\n' :: List.replicate (2 * depth) ' '

mutual

/-- The indented text of a value inside of `depth` brackets. -/
def indented (depth : Nat) : Json → List Char
  | .array (v :: vs) =>
    '[' :: indentedItems (depth + 1) (v :: vs) ++ lineBreak depth ++ [']']
  | .object (m :: ms) =>
    '\x7b' :: indentedMembers (depth + 1) (m :: ms) ++ lineBreak depth ++ ['\x7d']
  | v => text v

/-- The indented texts of items with commas between them. -/
def indentedItems (depth : Nat) : List Json → List Char
  | [] => []
  | [v] => lineBreak depth ++ indented depth v
  | v :: w :: vs => lineBreak depth ++ indented depth v ++ ',' :: indentedItems depth (w :: vs)

/-- The indented texts of members with commas between them. -/
def indentedMembers (depth : Nat) : List (String × Json) → List Char
  | [] => []
  | [(k, v)] => lineBreak depth ++ quote k ++ [':', ' '] ++ indented depth v
  | (k, v) :: m :: ms =>
    lineBreak depth ++ quote k ++ [':', ' '] ++ indented depth v ++
      ',' :: indentedMembers depth (m :: ms)

end

end FieldFormula.Json
