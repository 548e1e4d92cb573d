/-!
# Dates

A date is a day of the proleptic Gregorian calendar, given by its day number, where day
zero is the first of January of the year one.  `yearOf`, `monthOf` and `dayOf` are the
parts of a day number, and `Date.ofParts?` is the date with given parts.  The dates run
from the first day of the year -262143 to the last day of the year 262142.
-/

namespace FieldFormula.Calendar

/-! ### Day numbers -/

/-- Whether a year has a leap day. -/
def isLeap (year : Int) : Bool :=
  year % 4 == 0 && (year % 100 != 0 || year % 400 == 0)

/-- The day number of the first day of a year. -/
def yearStart (year : Int) : Int :=
  let y := year - 1
  365 * y + y / 4 - y / 100 + y / 400

/-- The length of a month. -/
def monthLength (year : Int) (month : Nat) : Nat :=
  match month with
  | 2 => if isLeap year then 29 else 28
  | 4 | 6 | 9 | 11 => 30
  | _ => 31

/-- The number of days of a year before a month. -/
def daysBefore (year : Int) (month : Nat) : Nat :=
  (List.range' 1 (month - 1)).foldr (fun m n => monthLength year m + n) 0

/-- The year of a day number.  Four hundred years have 146097 days, which gives the year
up to one. -/
def yearOf (n : Int) : Int :=
  let y := 400 * n / 146097 + 1
  if n < yearStart y then y - 1
  else if yearStart (y + 1) ≤ n then y + 1
  else y

/-- The position of a day number within its year, counted from one. -/
def dayOfYear (n : Int) : Nat :=
  (n - yearStart (yearOf n)).toNat + 1

/-- The month and the day of the month that lie `d` days after the start of a month, where
`fuel` is the number of months that are left in the year. -/
def monthAndDay (year : Int) (month d : Nat) : Nat → Nat × Nat
  | 0 => (month, d + 1)
  | fuel + 1 =>
    let len := monthLength year month
    if d < len then (month, d + 1) else monthAndDay year (month + 1) (d - len) fuel

/-- The month of a day number. -/
def monthOf (n : Int) : Nat :=
  (monthAndDay (yearOf n) 1 (dayOfYear n - 1) 11).1

/-- The day of the month of a day number. -/
def dayOf (n : Int) : Nat :=
  (monthAndDay (yearOf n) 1 (dayOfYear n - 1) 11).2

/-- The day of the week of a day number, where Sunday is zero. -/
def weekdayOf (n : Int) : Nat :=
  ((n + 1) % 7).toNat

/-- The number of the week of a day number.  Weeks start on Monday and belong to the year
that holds their Thursday. -/
def weekOfYear (n : Int) : Nat :=
  let thursday := n - n % 7 + 3
  (dayOfYear thursday - 1) / 7 + 1

/-! ### Dates -/

/-- The first year of the calendar. -/
def firstYear : Int := -262143

/-- The last year of the calendar. -/
def lastYear : Int := 262142

/-- The first day number of the calendar. -/
def firstDay : Int := yearStart firstYear

/-- The last day number of the calendar. -/
def lastDay : Int := yearStart (lastYear + 1) - 1

/-- A day of the calendar. -/
structure Date where
  number : Int
  firstDay_le : firstDay ≤ number
  le_lastDay : number ≤ lastDay

instance : DecidableEq Date := fun a b =>
  if h : a.number = b.number then
    isTrue (by cases a; cases b; simp_all)
  else
    isFalse (fun e => h (congrArg Date.number e))

namespace Date

/-- The date with a given day number. -/
def ofNumber? (n : Int) : Option Date :=
  if h : firstDay ≤ n ∧ n ≤ lastDay then some ⟨n, h.1, h.2⟩ else none

/-- The date with given parts. -/
def ofParts? (year : Int) (month day : Nat) : Option Date :=
  if firstYear ≤ year ∧ year ≤ lastYear ∧ 1 ≤ month ∧ month ≤ 12 ∧ 1 ≤ day ∧
      day ≤ monthLength year month then
    ofNumber? (yearStart year + daysBefore year month + day - 1)
  else none

/-- The year of a date. -/
def year (d : Date) : Int := yearOf d.number

/-- The month of a date. -/
def month (d : Date) : Nat := monthOf d.number

/-- The day of the month of a date. -/
def day (d : Date) : Nat := dayOf d.number

/-- The position of a date in its year. -/
def ordinal (d : Date) : Nat := dayOfYear d.number

/-- The day of the week of a date, where Sunday is zero. -/
def weekday (d : Date) : Nat := weekdayOf d.number

/-- The number of a date's week. -/
def week (d : Date) : Nat := weekOfYear d.number

/-- The date a number of days later. -/
def addDays? (d : Date) (n : Int) : Option Date :=
  ofNumber? (d.number + n)

end Date

end FieldFormula.Calendar
