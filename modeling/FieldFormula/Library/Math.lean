import FieldFormula.Call
import FieldFormula.Decimal.Rounding
import FieldFormula.Text.Search
import FieldFormula.Unicode.Digit

/-!
# Functions of numbers

Numbers found in texts, rounding, extremes and sums, comparison, and the partition of a
number into equal parts.
-/

namespace FieldFormula.Library

/-! ### Numbers in texts -/

/-- The number at the front of a text: an optional hyphen, digits, and an optional point
with any digits after it. -/
def numberAtFront (s : List Char) : List Char :=
  let (sign, r) := match s with
    | '-' :: r => (['-'], r)
    | r => ([], r)
  match r.takeWhile Unicode.isDecimalDigit with
  | [] => []
  | digits =>
    match r.drop digits.length with
    | '.' :: r => sign ++ digits ++ '.' :: r.takeWhile Unicode.isDecimalDigit
    | _ => sign ++ digits

/-- The numbers in a text, from left to right and without overlap. -/
def numbersIn (s : List Char) : List (List Char) :=
  match s with
  | [] => []
  | c :: r =>
    match numberAtFront (c :: r) with
    | [] => numbersIn r
    | n => n :: numbersIn (r.drop (n.length - 1))
termination_by s.length
decreasing_by
  · simp
  · simp only [List.length_drop, List.length_cons]
    omega

/-- The first number in a text, zero without one. -/
def num (c : Call) : Value :=
  .number <|
    match numbersIn (c.chars 0) with
    | n :: _ => (Decimal.readFront? n).getD 0.0
    | [] => 0.0

/-- The numbers in a text as a list. -/
def numSplit (c : Call) : Value := .ofChars (Text.join [';'] (numbersIn (c.chars 0)))

/-! ### Rounding -/

/-- A number rounded to fraction digits. -/
def round (c : Call) : Value :=
  .number (Decimal.round (c.number 1) (Decimal.requestedDigits (c.number 0)))

/-- A number rounded down to an integer. -/
def floor (c : Call) : Value :=
  .number (Decimal.roundWith Decimal.Binary.floor (c.number 0))

/-- A number rounded up to an integer. -/
def ceiling (c : Call) : Value :=
  .number (Decimal.roundWith Decimal.Binary.ceiling (c.number 0))

/-! ### Aggregates -/

/-- The greater of two numbers, or the one that is a number. -/
def greater (x y : Float) : Float :=
  if x.isNaN then y else if y.isNaN then x else if x < y then y else x

/-- The smaller of two numbers, or the one that is a number. -/
def smaller (x y : Float) : Float :=
  if x.isNaN then y else if y.isNaN then x else if y < x then y else x

/-- The greatest number, `-Infinity` for none. -/
def maximum (c : Call) : Value := .number (c.allNumbers.foldl greater (-1.0 / 0.0))

/-- The smallest number, `Infinity` for none. -/
def minimum (c : Call) : Value := .number (c.allNumbers.foldl smaller (1.0 / 0.0))

/-- The sum of the numbers, added from left to right. -/
def sum (c : Call) : Value := .number (c.allNumbers.foldl (· + ·) 0.0)

/-- An integer from a range, chosen by the draw of the call. -/
def randomNum (c : Call) : Value :=
  let low := c.number 0
  let high := c.number 1
  .number (Decimal.roundWith Decimal.Binary.floor (c.draw * (high - low + 1.0)) + low)

/-! ### Partition -/

/-- The greatest number of parts. -/
def maxParts : Nat := 10000

/-- The parts of a number of at most `divisor` each, as many full ones as there are, and
`fuel` at most. -/
def parts (divisor remaining : Float) : Nat → List Float
  | 0 => []
  | fuel + 1 =>
    if 0.0 < remaining then
      let part := smaller divisor remaining
      part :: parts divisor (remaining - part) fuel
    else []

/-- A number split into parts.  There is no result for a divisor that is not positive, and
none when there would be more parts than `maxParts`. -/
def partition (c : Call) : Value :=
  let n := c.number 0
  let divisor := c.number 1
  if !n.isFinite ∨ divisor.isNaN ∨ divisor ≤ 0.0 then .empty
  else if Float.ofNat maxParts < Decimal.roundWith Decimal.Binary.ceiling (n / divisor) then
    .empty
  else
    .ofChars (Text.join [';'] ((parts divisor n (2 * maxParts)).map Value.layout.render))

/-! ### Comparison -/

/-- Whether the first number is greater. -/
def isGreater (c : Call) : Value := .ofBool (c.number 1 < c.number 0)

/-- Whether the first number is greater or equal. -/
def isAtLeast (c : Call) : Value := .ofBool (c.number 1 ≤ c.number 0)

/-- Whether the first number is less. -/
def isLess (c : Call) : Value := .ofBool (c.number 0 < c.number 1)

/-- Whether the first number is less or equal. -/
def isAtMost (c : Call) : Value := .ofBool (c.number 0 ≤ c.number 1)

/-- Whether a number lies between two others or equals one. -/
def isBetween (c : Call) : Value :=
  .ofBool (c.number 1 ≤ c.number 0 && c.number 0 ≤ c.number 2)

/-- Whether a number lies strictly between two others. -/
def isStrictlyBetween (c : Call) : Value :=
  .ofBool (c.number 1 < c.number 0 && c.number 0 < c.number 2)

end FieldFormula.Library
