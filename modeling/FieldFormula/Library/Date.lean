import FieldFormula.Calendar.Rolling
import FieldFormula.Library.Format
import FieldFormula.Text.Search

/-!
# Functions of dates

Parts of dates, differences, arithmetic, lists and comparison of dates.  Where an argument
that has to be a date is none, a function that yields a number yields zero, and one that
yields a date yields the empty text.
-/

namespace FieldFormula.Library

open Calendar

/-- The text of a date-time's date, empty for none. -/
def dateValue : Option DateTime → Value
  | some dt => .ofChars dt.date.isoText
  | none => .empty

/-- The text of a date, empty for none. -/
def dayValue : Option Date → Value
  | some d => .ofChars d.isoText
  | none => .empty

/-- A float as a whole number of units, for finite floats below `1e15`. -/
def wholeAmount? (n : Float) : Option Int :=
  match Decimal.Binary.ofFloat? n with
  | some b => if n.abs < 1e15 then some b.truncate else none
  | none => none

/-- The number that a date yields, zero for none. -/
def numberOfDate (f : DateTime → Int) (dt : Option DateTime) : Value :=
  .number (match dt with
    | some dt => Float.ofInt (f dt)
    | none => 0.0)

/-! ### Parts -/

/-- The year of a date. -/
def year (c : Call) : Value := numberOfDate (·.date.year) (c.date? 0)

/-- The month of a date. -/
def month (c : Call) : Value := numberOfDate (·.date.month) (c.date? 0)

/-- The day of the month of a date. -/
def monthDay (c : Call) : Value := numberOfDate (·.date.day) (c.date? 0)

/-- The week of the month, where weeks begin on Sunday. -/
def monthWeek (d : Date) : Nat :=
  let first := weekdayOf (d.number - d.day + 1)
  (d.day + first - 1) / 7 + 1

/-- A part of a date-time by its name. -/
def partOfDate (name : String) (dt : DateTime) : Int :=
  match name with
  | "year" => dt.date.year
  | "month" => dt.date.month
  | "day" => dt.date.day
  | "weekday" => dt.date.weekday
  | "hour" => dt.time.hour
  | "minute" => dt.time.minute
  | "second" => dt.time.secondOfMinute
  | "yearday" => dt.date.ordinal
  | "monthweek" => monthWeek dt.date
  | "yearweek" => dt.date.week
  | _ => 0

/-- An argument in lower case. -/
def lowerText (c : Call) (i : Nat) : String :=
  String.ofList (Unicode.toLower (c.chars i))

/-- A part of a date. -/
def datePart (c : Call) : Value := numberOfDate (partOfDate (lowerText c 0)) (c.date? 1)

/-- The first month of a business year and a month: the position of the month in it. -/
def fiscalMonth (c : Call) : Value :=
  match c.date? 1 with
  | none => .number 0.0
  | some dt =>
    let n := Float.ofNat dt.date.month - c.number 0 + 1.0
    .number (if n ≤ 0.0 then n + 12.0 else n)

/-- The business year of a date, which is called by the calendar year in which it begins. -/
def fiscalYear (c : Call) : Value :=
  match c.date? 1 with
  | none => .number 0.0
  | some dt =>
    let year := Float.ofInt dt.date.year
    .number (if Float.ofNat dt.date.month < c.number 0 then year - 1.0 else year)

/-! ### Building dates -/

/-- The date of a year, a month and a day, which may be out of range. -/
def dateSerial (c : Call) : Value :=
  dayValue do
    makeDate? (← wholeAmount? (c.number 0)) (← wholeAmount? (c.number 1))
      (← wholeAmount? (c.number 2))

/-- A date and a time side by side. -/
def dateTimeMerge (c : Call) : Value := .ofChars (c.chars 0 ++ ' ' :: c.chars 1)

/-- The date of a date-time. -/
def dateRound (c : Call) : Value := dateValue (c.date? 2)

/-- The last day of a month, moved by a number of days if one is given. -/
def monthLastDay (c : Call) : Value :=
  dayValue do
    let dt ← c.date? 0
    let offset ← if 1 < c.arity then wholeAmount? (c.number 1) else some 0
    (← lastOfMonth? dt.date).addDays? offset

/-! ### Differences and arithmetic -/

/-- The number of whole units of `millis` milliseconds in a time span. -/
def wholeUnits (elapsed : Int) (millis : Float) : Float :=
  Decimal.roundWith Decimal.Binary.floor (Float.ofInt elapsed / millis)

/-- The difference of two date-times in a unit. -/
def difference (unit : String) (start stop : DateTime) : Float :=
  let elapsed := stop.millisSince start
  let years := stop.date.year - start.date.year
  match unit with
  | "second" => wholeUnits elapsed 1000.0
  | "minute" => wholeUnits elapsed 60000.0
  | "hour" => wholeUnits elapsed 3600000.0
  | "week" => wholeUnits elapsed 604800000.0
  | "month" => Float.ofInt (years * 12 + ((stop.date.month : Int) - start.date.month))
  | "year" => Float.ofInt years
  | _ => wholeUnits elapsed 86400000.0

/-- The difference of two dates. -/
def dateDiff (c : Call) : Value :=
  match c.date? 1, c.date? 2 with
  | some start, some stop => .number (difference (lowerText c 0) start stop)
  | _, _ => .number 0.0

/-- A date-time moved by an amount of a unit. -/
def shiftBy? (unit : String) (n : Int) (dt : DateTime) : Option DateTime :=
  match unit with
  | "second" => dt.addSeconds? n
  | "minute" => dt.addSeconds? (n * 60)
  | "hour" => dt.addSeconds? (n * 3600)
  | "day" => dt.addDays? n
  | "weekday" => dt.addWeekdays? n
  | "week" => dt.addDays? (n * 7)
  | "month" => dt.addMonths? n
  | "year" => dt.addMonths? (n * 12)
  | _ => some dt

/-- A date moved by an amount of a unit. -/
def dateAdd (c : Call) : Value :=
  dateValue do
    let dt ← c.date? 2
    let n ← wholeAmount? (c.number 1)
    shiftBy? (lowerText c 0) n dt

/-- The date-times from day to day, from one that is not after `stop` on. -/
def daysUntil (stop current : DateTime) : Nat → List DateTime
  | 0 => []
  | fuel + 1 =>
    if current.notAfter stop then
      current ::
        match current.addDays? 1 with
        | some following => daysUntil stop following fuel
        | none => []
    else []

/-- The dates from one date to another. -/
def dateList (c : Call) : Value :=
  match c.date? 0, c.date? 1 with
  | some start, some stop =>
    let count := (stop.date.number - start.date.number).toNat + 1
    .ofChars (Text.join [';'] ((daysUntil stop start count).map (·.date.isoText)))
  | _, _ => .empty

/-! ### Comparison -/

/-- Whether two dates are in a relation. -/
def compareDates (r : DateTime → DateTime → Bool) (c : Call) : Value :=
  .ofBool (match c.date? 0, c.date? 1 with
    | some a, some b => r a b
    | _, _ => false)

/-- Whether the first date is later. -/
def isLater (c : Call) : Value := compareDates (fun a b => b.before a) c

/-- Whether the first date is later or equal. -/
def isNotEarlier (c : Call) : Value := compareDates (fun a b => b.notAfter a) c

/-- Whether the first date is earlier. -/
def isEarlier (c : Call) : Value := compareDates DateTime.before c

/-- Whether the first date is earlier or equal. -/
def isNotLater (c : Call) : Value := compareDates DateTime.notAfter c

/-- Whether a date is between two others by a relation to either. -/
def dateBetween (r : DateTime → DateTime → Bool) (c : Call) : Value :=
  .ofBool (match c.date? 0, c.date? 1, c.date? 2 with
    | some d, some low, some high => r low d && r d high
    | _, _, _ => false)

/-- Whether a date lies strictly between two others. -/
def isDuring (c : Call) : Value := dateBetween DateTime.before c

/-- Whether a date lies between two others or equals one. -/
def isWithin (c : Call) : Value := dateBetween DateTime.notAfter c

end FieldFormula.Library
