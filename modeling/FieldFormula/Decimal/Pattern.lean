import FieldFormula.Decimal.Rounding

/-!
# Number patterns

A number pattern says how many fraction digits a number is written with, whether its
integer part is grouped by thousands, and how many digits the integer part has at least.
The fraction digits are the placeholders, zeros and hashes, after the first point of the
pattern; a comma anywhere asks for groups; and the zeros that end the part before the
point, or begin a pattern without a point, ask for digits.
-/

namespace FieldFormula.Decimal

/-- Whether a character of a pattern stands for a digit. -/
def isPlaceholder (c : Char) : Bool :=
  c == '0' || c == '#'

/-- The part of a text before its first point, and the part after it if there is a point. -/
def splitPoint (s : List Char) : List Char × Option (List Char) :=
  match s.span (· != '.') with
  | (whole, _ :: fraction) => (whole, some fraction)
  | (whole, []) => (whole, none)

/-- A text with the part before its first point changed. -/
def mapWhole (f : List Char → List Char) (s : List Char) : List Char :=
  match splitPoint s with
  | (whole, some fraction) => f whole ++ '.' :: fraction
  | (whole, none) => f whole

/-- The number of fraction digits that a pattern asks for. -/
def patternDigits (pattern : List Char) : Nat :=
  match splitPoint pattern with
  | (_, some fraction) => (fraction.filter isPlaceholder).length
  | (_, none) => 0

/-- The number of integer digits that a pattern asks for. -/
def patternZeros (pattern : List Char) : Nat :=
  match splitPoint pattern with
  | (whole, some _) => ((whole.filter (· != ',')).reverse.takeWhile (· == '0')).length
  | (_, none) => (pattern.takeWhile (· == '0')).length

/-- A text with zeros in front up to a width. -/
def padZeros (width : Nat) (s : List Char) : List Char :=
  List.replicate (width - s.length) '0' ++ s

/-- Digits with a comma before every third digit from the right, but not in front. -/
def insertCommas : List Char → List Char
  | [] => []
  | c :: s =>
    if s.length % 3 = 0 ∧ s ≠ [] then c :: ',' :: insertCommas s else c :: insertCommas s

/-- Digits grouped by thousands.  Other texts stay as they are. -/
def groupThousands (s : List Char) : List Char :=
  if s.all Char.isDigit then insertCommas s else s

/-- A number written by a pattern. -/
def format (pattern : List Char) (n : Float) : List Char :=
  let plain := fixedText n.abs (patternDigits pattern)
  let grouped := if pattern.contains ',' then mapWhole groupThousands plain else plain
  let zeros := patternZeros pattern
  let filled :=
    if pattern.contains '.' then mapWhole (padZeros zeros) grouped else padZeros zeros grouped
  if n < 0.0 then '-' :: filled else filled

end FieldFormula.Decimal
