import FieldFormula.Library.List
import FieldFormula.Regex.Search

/-!
# Functions of regular expressions

The functions that search texts and lists by a regular expression.  The text of an
expression that cannot be read gives the reason as the result.
-/

namespace FieldFormula.Library

/-- The result of a function of a regular expression, which its first argument spells. -/
def withRegex (c : Call) (f : Regex → List Char) : Value :=
  match Regex.ofText (c.chars 0) with
  | .ok r => .text (String.ofList (f r))
  | .error e => .text ("[Regex error: " ++ e.message ++ "]")

/-- The first part of a text that a regular expression matches. -/
def regexFind (c : Call) : Value :=
  withRegex c fun r => (r.find? (c.chars 1)).getD []

/-- The items of a list that a regular expression matches somewhere. -/
def itemRegex (c : Call) : Value :=
  withRegex c fun r => listOf ((itemsOf (c.chars 1)).filter r.isMatch)

end FieldFormula.Library
