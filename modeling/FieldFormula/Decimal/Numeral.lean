import FieldFormula.Text.Blank

/-!
# Numerals

A numeral is an optional sign followed by `Infinity`, or by digits with an optional point
and further digits, at least one digit in all, and then an optional exponent.
`longest?` is the longest numeral at the front of a text, and `value` is the float nearest
to the number that a numeral writes.
-/

namespace FieldFormula.Decimal

/-- The number written by decimal digits. -/
def digitsValue (s : List Char) : Nat :=
  s.foldl (fun n c => 10 * n + (c.toNat - '0'.toNat)) 0

/-- The number of decimal digits of a natural number, none for zero. -/
def digitCount (n : Nat) : Nat :=
  if n = 0 then 0 else (Nat.toDigits 10 n).length

/-- The float nearest to `m · 10 ^ e`, the one with an even mantissa for a tie.  A number
beyond the finite floats becomes infinite. -/
def nearest (m : Nat) (e : Int) : Float :=
  if m = 0 then 0.0
  else if 400 < digitCount m + e then 1.0 / 0.0
  else if digitCount m + e < -400 then 0.0
  else Float.ofScientific m (e < 0) e.natAbs

/-- The sign at the front of a text and the rest of the text. -/
def takeSign : List Char → List Char × List Char
  | '-' :: s => (['-'], s)
  | '+' :: s => (['+'], s)
  | s => ([], s)

/-- The point and the digits after it at the front of a text. -/
def takeFraction : List Char → List Char
  | '.' :: s => '.' :: s.takeWhile Char.isDigit
  | _ => []

/-- The complete exponent at the front of a text. -/
def takeExponent : List Char → List Char
  | c :: s =>
    if c = 'e' ∨ c = 'E' then
      let (sign, r) := takeSign s
      match r.takeWhile Char.isDigit with
      | [] => []
      | ds => c :: sign ++ ds
    else []
  | [] => []

/-- The word for an infinite number. -/
def infinityWord : List Char := "Infinity".toList

/-- The longest numeral at the front of a text. -/
def longest? (s : List Char) : Option (List Char) :=
  let (sign, r) := takeSign s
  if infinityWord.isPrefixOf r then
    some (sign ++ infinityWord)
  else
    let whole := r.takeWhile Char.isDigit
    let fraction := takeFraction (r.dropWhile Char.isDigit)
    if whole.isEmpty && fraction.length ≤ 1 then none
    else
      let body := whole ++ fraction
      some (sign ++ body ++ takeExponent (r.drop body.length))

/-- The number that an exponent writes, zero for an empty one. -/
def exponentValue : List Char → Int
  | [] => 0
  | _ :: s =>
    let (sign, ds) := takeSign s
    if sign = ['-'] then -digitsValue ds else digitsValue ds

/-- The float nearest to the number that a numeral writes. -/
def value (s : List Char) : Float :=
  let (sign, r) := takeSign s
  let magnitude :=
    if infinityWord.isPrefixOf r then 1.0 / 0.0
    else
      let whole := r.takeWhile Char.isDigit
      let fraction := (takeFraction (r.dropWhile Char.isDigit)).drop 1
      let tail := (r.dropWhile Char.isDigit).drop (takeFraction (r.dropWhile Char.isDigit)).length
      nearest (digitsValue (whole ++ fraction)) (exponentValue tail - fraction.length)
  if sign = ['-'] then -magnitude else magnitude

/-- The value of the longest numeral at the front of a text, after blanks. -/
def readFront? (s : List Char) : Option Float :=
  (longest? (Text.trimStart s)).map value

/-- The value of a text that is one numeral. -/
def read? (s : List Char) : Option Float :=
  if longest? s = some s then some (value s) else none

end FieldFormula.Decimal
