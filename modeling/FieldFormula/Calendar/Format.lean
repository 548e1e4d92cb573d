import FieldFormula.Calendar.DateTime

/-!
# Dates as text

`isoText` writes a date as year, month and day joined by hyphens.
-/

namespace FieldFormula.Calendar

/-- A natural number with at least `width` digits. -/
def padded (width n : Nat) : List Char :=
  let ds := Nat.toDigits 10 n
  List.replicate (width - ds.length) '0' ++ ds

/-- A year with at least four digits.  The years outside 0 to 9999 have a sign. -/
def yearText (year : Int) : List Char :=
  if year < 0 then '-' :: padded 4 year.natAbs
  else if 9999 < year then '+' :: padded 4 year.natAbs
  else padded 4 year.natAbs

/-- A date as year, month and day. -/
def Date.isoText (d : Date) : List Char :=
  yearText d.year ++ '-' :: padded 2 d.month ++ '-' :: padded 2 d.day

end FieldFormula.Calendar
