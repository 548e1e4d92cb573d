import FieldFormula.Calendar.Internet

/-!
# Reading dates and times

`DateTime.ofText?` reads a date-time in any of the written forms: a timestamp or mail date
with an offset, a date of numbers with the year first or last, or a date with the English
name of a month.  Dates of numbers and of names may be followed by a time of the day, which
`Time.ofText?` reads.
-/

namespace FieldFormula.Calendar

/-! ### Times -/

namespace Scanner

/-- Takes the seconds of a time and their fraction, if they come next. -/
def secondsAndFraction : Scanner (Nat × Nat) := do
  if ← optional ':' then
    let second ← number 2 2
    if ← optional '.' then
      let ds ← digits 1 9
      return (second, Decimal.digitsValue ((ds ++ List.replicate 9 '0').take 9))
    else
      return (second, 0)
  else
    return (0, 0)

/-- Takes the half of the day, if it comes next, and says whether it is the second. -/
def halfDay : Scanner (Option Bool) := fun s =>
  match oneOf ["am", "pm"] s with
  | some (i, r) => some (some (i == 1), r)
  | none => some (none, s)

/-- Takes a time of the day. -/
def time : Scanner Time := do
  let hour ← number 1 2
  char ':'
  let minute ← number 2 2
  let (second, nano) ← secondsAndFraction
  blanks
  match ← halfDay with
  | none => fun s => (Time.ofParts? hour minute second nano).map (·, s)
  | some afternoon => do
    guard (1 ≤ hour && hour ≤ 12)
    let hour := if afternoon then hour % 12 + 12 else hour % 12
    fun s => (Time.ofParts? hour minute second nano).map (·, s)

end Scanner

/-- The time that a text writes: hours and minutes, then seconds and their fraction if
present, then the half of the day if present. -/
def Time.ofText? (s : List Char) : Option Time :=
  Scanner.time.all? (Text.trim s)

/-! ### Dates of numbers -/

namespace Scanner

/-- Takes the separator of a date with the year first. -/
def isoSeparator : Scanner Unit := do
  let c ← any
  guard (c == '-' || c == '/')

/-- Takes the parts of a date with the year first. -/
def yearFirst : Scanner (Nat × Nat × Nat) := do
  let year ← number 4 4
  isoSeparator
  let month ← number 1 2
  isoSeparator
  let day ← number 1 2
  return (year, month, day)

/-- Takes the parts of a date with the month first and the year last. -/
def monthFirst : Scanner (Nat × Nat × Nat) := do
  let month ← number 1 2
  char '/'
  let day ← number 1 2
  char '/'
  let year ← number 4 4
  return (year, month, day)

/-- Takes an offset at the end of a date-time and yields minutes. -/
def zone : Scanner Int := do
  if ← optional 'Z' then
    return 0
  else
    let negative ← offsetSign false
    let hours ← number 2 2
    let _ ← optional ':'
    let minutes ← number 2 2
    let total : Int := hours * 60 + minutes
    return if negative then -total else total

end Scanner

/-- The offset that is all of a text but leading blanks, and zero for a blank text. -/
def trailingZone? (s : List Char) : Option (Option Int) :=
  match Text.trimStart s with
  | [] => some none
  | z => (Scanner.zone.all? z).map some

/-- A text of at least one character split where the first offset or blank end begins.  A
line feed cannot precede it. -/
def splitZone? (taken : List Char) : List Char → Option (List Char × Option Int)
  | [] => none
  | c :: s =>
    if c = '\n' then none
    else
      match trailingZone? s with
      | some zone => some ((c :: taken).reverse, zone)
      | none => splitZone? (c :: taken) s

/-- The time and the offset that may follow a date of numbers.  With `letter` the time may
follow the letter T instead of blanks. -/
def timeAndZone? (letter : Bool) (s : List Char) : Option (Option (List Char) × Option Int) :=
  match s with
  | [] => some (none, none)
  | c :: r =>
    if Text.isBlank c ∨ (letter ∧ c = 'T') then
      (splitZone? [] (if Text.isBlank c then Text.trimStart r else r)).map
        fun (time, zone) => (some time, zone)
    else
      (trailingZone? s).map fun zone => (none, zone)

/-- The date-time of a date of numbers and what follows it. -/
def ofNumbers? (letter : Bool) (parts : Nat × Nat × Nat) (rest : List Char) :
    Option DateTime := do
  let (year, month, day) := parts
  let (time, zone) ← timeAndZone? letter rest
  let date ← Date.ofParts? year month day
  let time ← match time with
    | some t => Time.ofText? t
    | none => some .midnight
  match zone with
  | some minutes => DateTime.addSeconds? ⟨date, time⟩ (-minutes * 60)
  | none => some ⟨date, time⟩

/-! ### Dates with the name of a month -/

/-- The pieces of a written date. -/
inductive Piece where
  | monthName
  | day
  | year
  | weekday
  | shortWeekday
  | blank
  | comma

/-- The forms of a date with the name of a month. -/
def namedForms : List (List Piece) :=
  [[.monthName, .blank, .day, .comma, .blank, .year],
    [.monthName, .blank, .day, .blank, .year],
    [.day, .blank, .monthName, .blank, .year],
    [.day, .blank, .monthName, .comma, .blank, .year],
    [.weekday, .comma, .blank, .monthName, .blank, .day, .comma, .blank, .year],
    [.shortWeekday, .blank, .monthName, .blank, .day, .blank, .year]]

/-- The parts of a date that have been read. -/
structure Parts where
  year : Int
  month : Nat
  day : Nat
  weekday : Option Nat

namespace Scanner

/-- Takes a year, which may have a sign. -/
def signedYear : Scanner Int := do
  blanks
  match ← peek? with
  | some '-' => do
    let _ ← any
    return -(Decimal.digitsValue (← allDigits 1) : Int)
  | some '+' => do
    let _ ← any
    return (Decimal.digitsValue (← allDigits 1) : Int)
  | _ => return ((← number 1 4) : Int)

/-- Takes a piece of a date and puts it with the parts already read. -/
def piece (p : Parts) : Piece → Scanner Parts
  | .monthName => do return { p with month := (← longOrShort monthNames) + 1 }
  | .day => do
    blanks
    return { p with day := ← number 1 2 }
  | .year => do return { p with year := ← signedYear }
  | .weekday => do return { p with weekday := some (← longOrShort weekdayNames) }
  | .shortWeekday => do return { p with weekday := some (← oneOf (abbreviated weekdayNames)) }
  | .blank => do
    blanks
    return p
  | .comma => do
    char ','
    return p

end Scanner

/-- The date that a text writes in one of the forms with the name of a month. -/
def ofForm? (form : List Piece) (s : List Char) : Option Date := do
  let parts ← (form.foldlM Scanner.piece ⟨0, 0, 0, none⟩).all? s
  let date ← Date.ofParts? parts.year parts.month parts.day
  guard (parts.weekday.all (· == date.weekday))
  return date

/-- The date that a text writes with the name of a month. -/
def ofNamedMonth? (s : List Char) : Option Date :=
  namedForms.findSome? (ofForm? · s)

/-- The date-time that a text writes with the name of a month, where a time may follow the
last space. -/
def ofNamedMonthAndTime? (s : List Char) : Option DateTime :=
  match ofNamedMonth? s with
  | some date => some (.ofDate date)
  | none => do
    let (before, after) ← Text.cutLast? [' '] s
    let time ← Time.ofText? after
    let date ← ofNamedMonth? before
    return ⟨date, time⟩

/-! ### All forms -/

/-- The date-time that a text without blanks at its ends writes without an offset in
front. -/
def ofPlain? (s : List Char) : Option DateTime :=
  match Scanner.yearFirst s with
  | some (parts, rest) => ofNumbers? true parts rest
  | none =>
    match Scanner.monthFirst s with
    | some (parts, rest) => ofNumbers? false parts rest
    | none => ofNamedMonthAndTime? s

/-- The date-time that a text writes in any of the forms. -/
def DateTime.ofText? (text : List Char) : Option DateTime :=
  let s := Text.trim text
  (ofTimestamp? s <|> ofMailDate? s) <|> ofPlain? s

end FieldFormula.Calendar
