import FieldFormula.Calendar.Date

/-!
# Times and date-times

A time is a second of the day and a number of nanoseconds.  From a thousand million
nanoseconds on the time lies in a leap second that follows its second.  A date-time is a
date and a time.  Adding seconds to a leap second counts it once: forward from its start,
backward from its end.
-/

namespace FieldFormula.Calendar

/-- The number of seconds of a day. -/
def secondsPerDay : Nat := 86400

/-- The number of nanoseconds of a second. -/
def nanosPerSecond : Nat := 1000000000

/-- A time of the day. -/
structure Time where
  second : Nat
  nano : Nat
  second_lt : second < secondsPerDay
  nano_lt : nano < 2 * nanosPerSecond
  deriving DecidableEq

namespace Time

/-- The start of the day. -/
def midnight : Time := ⟨0, 0, by decide, by decide⟩

/-- The time with given parts.  Only the last second of a minute may be followed by a leap
second. -/
def ofParts? (hour minute second nano : Nat) : Option Time :=
  if h : hour < 24 ∧ minute < 60 ∧ second < 60 ∧ nano < 2 * nanosPerSecond ∧
      (nanosPerSecond ≤ nano → second = 59) then
    some ⟨hour * 3600 + minute * 60 + second, nano,
      by simp only [secondsPerDay]; omega, h.2.2.2.1⟩
  else none

/-- The hour of a time. -/
def hour (t : Time) : Nat := t.second / 3600

/-- The minute within the hour. -/
def minute (t : Time) : Nat := t.second / 60 % 60

/-- The second within the minute. -/
def secondOfMinute (t : Time) : Nat := t.second % 60

end Time

/-- A date and a time of the day. -/
structure DateTime where
  date : Date
  time : Time
  deriving DecidableEq

namespace DateTime

/-- The start of a date. -/
def ofDate (d : Date) : DateTime := ⟨d, .midnight⟩

/-- Whether a date-time is before another one. -/
def before (a b : DateTime) : Bool :=
  a.date.number < b.date.number ||
    (a.date.number == b.date.number &&
      (a.time.second < b.time.second ||
        (a.time.second == b.time.second && a.time.nano < b.time.nano)))

/-- Whether a date-time is before another one or equal to it. -/
def notAfter (a b : DateTime) : Bool := !b.before a

/-- The date-time `n` seconds after the second `base` of a date, with the given
nanoseconds. -/
def shift? (d : Date) (base n : Int) (nano : Nat) (h : nano < 2 * nanosPerSecond) :
    Option DateTime := do
  let total := base + n
  let date ← d.addDays? (total / secondsPerDay)
  return ⟨date, (total % secondsPerDay).toNat, nano,
    by simp only [secondsPerDay]; omega, h⟩

/-- The date-time a number of seconds later. -/
def addSeconds? (a : DateTime) (n : Int) : Option DateTime :=
  if nanosPerSecond ≤ a.time.nano then
    let nano := a.time.nano - nanosPerSecond
    have h : nano < 2 * nanosPerSecond := by have := a.time.nano_lt; omega
    if n = 0 then some a
    else if 0 < n then shift? a.date a.time.second n nano h
    else shift? a.date (a.time.second + 1) n nano h
  else
    shift? a.date a.time.second n a.time.nano a.time.nano_lt

/-- The date-time a number of days later. -/
def addDays? (a : DateTime) (n : Int) : Option DateTime :=
  a.addSeconds? (n * secondsPerDay)

/-- The same instant on a clock that is behind by a number of seconds.  A leap second
stays one. -/
def subtractOffset? (a : DateTime) (seconds : Int) : Option DateTime :=
  shift? a.date a.time.second (-seconds) a.time.nano a.time.nano_lt

/-- The nanoseconds from one date-time to another.  A leap second between them counts. -/
def nanosSince (later earlier : DateTime) : Int :=
  let seconds : Int := later.time.second - earlier.time.second
  let leap : Int :=
    if earlier.time.second < later.time.second ∧ nanosPerSecond ≤ earlier.time.nano then 1
    else if later.time.second < earlier.time.second ∧ nanosPerSecond ≤ later.time.nano then -1
    else 0
  ((later.date.number - earlier.date.number) * secondsPerDay + seconds + leap) *
    nanosPerSecond + ((later.time.nano : Int) - earlier.time.nano)

/-- The whole milliseconds from one date-time to another. -/
def millisSince (later earlier : DateTime) : Int :=
  (later.nanosSince earlier).tdiv 1000000

end DateTime

end FieldFormula.Calendar
