import FieldFormula.Expr
import FieldFormula.Unicode.Property

/-!
# Outlines

`Expr.outline` shows the structure of a formula line by line.  What a node holds stands
between brackets, four blanks further in.  Characters of texts that could not be seen are
shown by their code points.
-/

namespace FieldFormula

/-! ### Texts and numbers -/

/-- The set of the characters that are not seen: controls, blanks, characters without a
meaning of their own, and those that extend the one before them. -/
def hiddenRanges : Unicode.Ranges :=
  (Unicode.Ranges.ofCategories [.control, .format, .privateUse, .unassigned, .lineSeparator,
    .paragraphSeparator, .spaceSeparator]).union Unicode.graphemeExtend.ranges

/-- A character as it is shown in a text. -/
def shownCharacter (c : Char) : List Char :=
  match c with
  | '\x00' => ['\\', '0']
  | '\t' => ['\\', 't']
  | '\r' => ['\\', 'r']
  | '\n' => ['\\', 'n']
  | '\\' => ['\\', '\\']
  | '"' => ['\\', '"']
  | ' ' => [' ']
  | c =>
    if hiddenRanges.contains c then
      ['\\', 'u', '\x7b'] ++ Nat.toDigits 16 c.toNat ++ ['\x7d']
    else
      [c]

/-- A text in quotes. -/
def shownText (s : String) : List Char :=
  '"' :: s.toList.flatMap shownCharacter ++ ['"']

/-- Numbers from `1e-4` up to below `1e16` are shown without an exponent, and integers among
them with a zero after the point. -/
def shownLayout : Decimal.Layout where
  tie := .up
  positional k := -4 ≤ k && k < 16
  plus := []
  integerTail := ".0".toList
  signedZero := true
  infinity := "inf".toList
  nan := "NaN".toList

/-! ### Lines -/

/-- Lines moved four blanks in. -/
def movedIn (lines : List (List Char)) : List (List Char) :=
  lines.map ([' ', ' ', ' ', ' '] ++ ·)

/-- Lines with a comma behind the last one. -/
def withComma : List (List Char) → List (List Char)
  | [] => []
  | [l] => [l ++ [',']]
  | l :: m :: ls => l :: withComma (m :: ls)

/-- Lines with a label in front of the first one. -/
def labelled (label : String) : List (List Char) → List (List Char)
  | [] => []
  | l :: ls => (label.toList ++ l) :: ls

/-- A node and the lines of what it holds. -/
def boxed (name : String) (lines : List (List Char)) : List (List Char) :=
  (name.toList ++ ['(']) :: movedIn (withComma lines) ++ [[')']]

/-- The lines of a list, given those of its items. -/
def listed (items : List (List (List Char))) : List (List Char) :=
  if items.isEmpty then [['[', ']']]
  else ['['] :: movedIn (items.flatMap withComma) ++ [[']']]

/-- The lines of a value. -/
def Value.outline : Value → List (List Char)
  | .number n => boxed "Number" [shownLayout.render n]
  | .text s => boxed "String" [shownText s]

namespace Expr

mutual

/-- The lines of a formula. -/
def outline : Expr → List (List Char)
  | .literal v => boxed "Literal" v.outline
  | .field name => boxed "Field" [shownText name]
  | .call name args =>
    "Function \x7b".toList ::
      movedIn (withComma (labelled "name: " [shownText name]) ++
        withComma (labelled "args: " (listed (outlines args)))) ++ [['\x7d']]
  | .concat parts => boxed "Concat" (listed (outlines parts))

/-- The lines of several formulas. -/
def outlines : List Expr → List (List (List Char))
  | [] => []
  | e :: es => outline e :: outlines es

end

end Expr

end FieldFormula
