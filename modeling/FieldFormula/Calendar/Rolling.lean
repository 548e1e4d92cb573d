import FieldFormula.Calendar.DateTime

/-!
# Calendar arithmetic

Years, months and days that are out of range roll over into their neighbours: month 13 is
January of the next year, and day zero is the last day of the month before.  Amounts are
64-bit integers.  Where a result does not fit into 64 bits there is no date; only taking
one from a month, and adding months to one, wrap around.
-/

namespace FieldFormula.Calendar

/-- The 64-bit integer that is congruent to `n`. -/
def wrap (n : Int) : Int := Int.bmod n (Nat.pow 2 64)

/-- The integer itself if it has 64 bits. -/
def checked? (n : Int) : Option Int :=
  if -(Nat.pow 2 63 : Nat) ≤ n ∧ n < (Nat.pow 2 63 : Nat) then some n else none

/-- The date with parts that may be out of range. -/
def roll? (year month day : Int) : Option Date := do
  let months ← checked? (year * 12)
  let months ← checked? (months + wrap (month - 1))
  let first ← Date.ofParts? (months / 12) ((months % 12).toNat + 1) 1
  first.addDays? (wrap (day - 1))

/-- The date with parts that may be out of range, where the years from 0 to 99 are those of
the twentieth century. -/
def makeDate? (year month day : Int) : Option Date :=
  roll? (if 0 ≤ year ∧ year ≤ 99 then year + 1900 else year) month day

/-- The last day of a date's month. -/
def lastOfMonth? (d : Date) : Option Date :=
  roll? d.year (d.month + 1) 0

namespace DateTime

/-- The date-time a number of months later.  A day that the month lacks runs on into the
next month. -/
def addMonths? (a : DateTime) (months : Int) : Option DateTime := do
  let date ← roll? a.date.year (wrap (a.date.month + months)) a.date.day
  return ⟨date, a.time⟩

/-- The date-time a number of business days later.  Five of them are a week, and the rest
skips a weekend when it runs past Friday. -/
def addWeekdays? (a : DateTime) (n : Int) : Option DateTime := do
  let sign : Int := if n < 0 then -1 else 1
  let weeks : Int := n.natAbs / 5
  let rest : Int := n.natAbs % 5
  let shifted ← a.addDays? (sign * weeks * 7)
  let weekday : Int :=
    match shifted.date.weekday with
    | 0 => -1
    | 6 => -2
    | d => d - 1
  shifted.addDays? (sign * if 5 ≤ weekday + rest then rest + 2 else rest)

end DateTime

end FieldFormula.Calendar
