import FieldFormula.Decimal.Layout
import FieldFormula.Unicode.Case

/-!
# Values

A formula evaluates to a number or to a text.  Each value has a text form, a number form
and a truth form, and functions take their arguments in the form that they need.  Truth
values are the numbers one and zero.
-/

namespace FieldFormula

/-- The result of evaluating a formula. -/
inductive Value where
  | number (n : Float)
  | text (s : String)
  deriving Inhabited

namespace Value

/-- Numbers from `1e-6` up to below `1e21` are written without an exponent, zero has no
sign, and an exponent always has one. -/
def layout : Decimal.Layout where
  tie := .up
  positional k := -6 ≤ k && k < 21
  plus := ['+']
  integerTail := []
  signedZero := false
  infinity := "Infinity".toList
  nan := "NaN".toList

/-- The text form of a number. -/
def numberText (n : Float) : String :=
  String.ofList (layout.render n)

/-- The empty text. -/
def empty : Value := .text ""

/-- The text made of the given characters. -/
def ofChars (s : List Char) : Value := .text (String.ofList s)

/-- The number one for true and zero for false. -/
def ofBool (b : Bool) : Value := .number (if b then 1.0 else 0.0)

/-- The number equal to a natural number. -/
def ofNat (n : Nat) : Value := .number (Float.ofNat n)

/-- The text form of a value. -/
def toText : Value → String
  | .number n => numberText n
  | .text s => s

/-- The characters of the text form. -/
def chars (v : Value) : List Char :=
  v.toText.toList

theorem chars_ofChars (s : List Char) : (ofChars s).chars = s :=
  String.toList_ofList

/-- The characters that a number in a text may be made of. -/
def isNumeric (c : Char) : Bool :=
  c.isDigit || c == '.' || c == '-'

/-- The number form of a value.  All but digits, points and hyphens are struck from a
text, and it counts as the longest numeral at its front, or else as zero. -/
def toNumber : Value → Float
  | .number n => n
  | .text s =>
    match Decimal.readFront? (s.toList.filter isNumeric) with
    | some n => if n == 0.0 || n.isNaN then 0.0 else n
    | none => 0.0

/-- The truth form of a value: positive numbers, the words `true` and `1` in any case, and
texts with a positive numeral at the front are true. -/
def toBool : Value → Bool
  | .number n => 0.0 < n
  | .text s =>
    let lower := Unicode.toLower s.toList
    lower == "true".toList || lower == ['1'] ||
      match Decimal.readFront? lower with
      | some n => 0.0 < n
      | none => false

/-- Whether the text form holds nothing but blanks. -/
def isBlank (v : Value) : Bool :=
  v.chars.all Text.isBlank

end Value

end FieldFormula
