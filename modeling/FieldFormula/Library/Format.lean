import FieldFormula.Calendar.Pattern
import FieldFormula.Calendar.Reading
import FieldFormula.Call
import FieldFormula.Decimal.Pattern

/-!
# Formatting by patterns

The function that writes a value by a pattern, as a date or as a number.
-/

namespace FieldFormula

/-- The date form of a value: the date-time that its text form writes. -/
def Value.toDate? (v : Value) : Option Calendar.DateTime :=
  Calendar.DateTime.ofText? v.chars

/-- The date form of an argument. -/
def Call.date? (c : Call) (i : Nat) : Option Calendar.DateTime :=
  (c.value i).toDate?

namespace Library

/-- Whether a pattern is one of dates: it has a date letter and no digit placeholder. -/
def isDatePattern (pattern : List Char) : Bool :=
  pattern.any (['d', 'M', 'y', 'H', 'h', 'm', 's'].contains ·) &&
    !pattern.any Decimal.isPlaceholder

/-- A value as a number written by a pattern.  A value that is not a number is written as a
date if it is one, and else stays as it is. -/
def formatNumber (pattern : List Char) (v : Value) : Value :=
  let n := v.toNumber
  if !n.isNaN then .ofChars (Decimal.format pattern n)
  else
    match v.toDate? with
    | some dt => .ofChars (dt.format pattern)
    | none => .text v.toText

/-- A value written by a pattern. -/
def format (c : Call) : Value :=
  let pattern := c.chars 0
  let v := c.value 1
  if isDatePattern pattern then
    match v.toDate? with
    | some dt => .ofChars (dt.format pattern)
    | none => formatNumber pattern v
  else formatNumber pattern v

end Library

end FieldFormula
