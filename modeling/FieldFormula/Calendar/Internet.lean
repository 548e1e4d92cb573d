import FieldFormula.Calendar.DateTime
import FieldFormula.Calendar.Scanner

/-!
# Date-times with an offset

The two written forms of an instant on the Internet: the timestamps of RFC 3339, such as
`2024-01-05T14:30:00+02:00`, and the dates of mail headers by RFC 2822, such as
`Fri, 5 Jan 2024 14:30:00 +0200`.  Both yield the date-time in universal time.
-/

namespace FieldFormula.Calendar

/-- The parts of a date-time as it is written, with its offset from universal time in
seconds. -/
structure Written where
  year : Int
  month : Nat
  day : Nat
  hour : Nat
  minute : Nat
  second : Nat
  nano : Nat
  offset : Int

namespace Written

/-- The local date-time.  Second 60 is a leap second. -/
def local? (w : Written) : Option DateTime := do
  let date ← Date.ofParts? w.year w.month w.day
  let time ←
    if w.second = 60 then Time.ofParts? w.hour w.minute 59 (nanosPerSecond + w.nano)
    else Time.ofParts? w.hour w.minute w.second w.nano
  return ⟨date, time⟩

/-- The date-time in universal time.  An offset is less than a day. -/
def universal? (w : Written) : Option DateTime := do
  guard (w.offset.natAbs < secondsPerDay)
  (← w.local?).subtractOffset? w.offset

end Written

namespace Scanner

/-- Takes the sign of an offset, and says whether it is negative.  Only a timestamp may
have a minus sign in place of the hyphen. -/
def offsetSign (minusSign : Bool) : Scanner Bool := do
  match ← any with
  | '+' => return false
  | '-' => return true
  | '\u2212' => do
    guard minusSign
    return true
  | _ => failure

/-- Takes an offset of hours and minutes, with or without a colon between them, and yields
seconds. -/
def offset (minusSign colon : Bool) : Scanner Int := do
  let negative ← offsetSign minusSign
  let hours ← number 2 2
  if colon then char ':'
  let minutes ← number 2 2
  guard (minutes < 60)
  let seconds : Int := hours * 3600 + minutes * 60
  return if negative then -seconds else seconds

/-- Takes the offset of a timestamp. -/
def timestampOffset : Scanner Int := do
  match ← peek? with
  | some 'Z' | some 'z' => do
    let _ ← any
    return 0
  | _ => offset true true

/-- Takes a timestamp. -/
def timestamp : Scanner Written := do
  let year ← number 4 4
  char '-'
  let month ← number 2 2
  char '-'
  let day ← number 2 2
  let separator ← any
  guard (separator == 'T' || separator == 't' || separator == ' ')
  let hour ← number 2 2
  char ':'
  let minute ← number 2 2
  char ':'
  let second ← number 2 2
  let nano ← if ← optional '.' then nanoseconds else pure 0
  let offset ← timestampOffset
  return ⟨year, month, day, hour, minute, second, nano, offset⟩

/-- The hours of a zone that has a name. -/
def zoneHours? (name : List Char) : Option Int :=
  match String.ofList (name.map Char.toLower) with
  | "gmt" | "ut" => some 0
  | "edt" => some (-4)
  | "est" | "cdt" => some (-5)
  | "cst" | "mdt" => some (-6)
  | "mst" | "pdt" => some (-7)
  | "pst" => some (-8)
  | "j" => none
  | _ => if name.length = 1 then some 0 else none

/-- Takes the zone of a mail date: a name, or an offset without a colon. -/
def mailZone : Scanner Int := fun s =>
  match s.takeWhile Char.isAlpha with
  | [] => offset false false s
  | name => (zoneHours? name).map fun h => (h * 3600, s.drop name.length)

/-- The text after the end of a comment, where `depth` parentheses are open. -/
def afterComment (depth : Nat) : List Char → Option (List Char)
  | [] => none
  | '\\' :: s =>
    match s with
    | [] => none
    | _ :: s => afterComment depth s
  | '(' :: s => afterComment (depth + 1) s
  | ')' :: s => if depth ≤ 1 then some s else afterComment (depth - 1) s
  | _ :: s => afterComment depth s

/-- The text after the comments at its front, at most `fuel` of them. -/
def skipComments (s : List Char) : Nat → List Char
  | 0 => s
  | fuel + 1 =>
    match Text.trimStart s with
    | '(' :: r =>
      match afterComment 1 r with
      | some r => skipComments r fuel
      | none => s
    | _ => s

/-- Takes any number of comments. -/
def comments : Scanner Unit := fun s => some ((), skipComments s s.length)

/-- Takes the day of the week, if there is one, and yields its position. -/
def mailWeekday : Scanner (Option Nat) := fun s =>
  match oneOf (abbreviated weekdayNames) s with
  | some (i, ',' :: r) => some (some i, r)
  | some _ => none
  | none => some (none, s)

/-- The year that two, three or more digits write. -/
def mailYear (ds : List Char) : Nat :=
  let n := Decimal.digitsValue ds
  match ds.length with
  | 2 => if n < 50 then n + 2000 else n + 1900
  | 3 => n + 1900
  | _ => n

/-- Takes the seconds of a mail date, if there are any. -/
def mailSecond : Scanner Nat := fun s =>
  match Text.trimStart s with
  | ':' :: r => number 2 2 r
  | _ => some (0, s)

/-- Takes a mail date and yields it with its day of the week. -/
def mailDate : Scanner (Option Nat × Written) := do
  blanks
  let weekday ← mailWeekday
  blanks
  let day ← number 1 2
  someBlanks
  let month ← oneOf (abbreviated monthNames)
  someBlanks
  let year ← allDigits 2
  someBlanks
  let hour ← number 2 2
  blanks
  char ':'
  blanks
  let minute ← number 2 2
  let second ← mailSecond
  someBlanks
  let offset ← mailZone
  comments
  return (weekday, ⟨mailYear year, month + 1, day, hour, minute, second, 0, offset⟩)

end Scanner

/-- The instant that a timestamp writes. -/
def ofTimestamp? (s : List Char) : Option DateTime := do
  (← Scanner.timestamp.all? s).universal?

/-- The instant that a mail date writes.  A day of the week must be the right one. -/
def ofMailDate? (s : List Char) : Option DateTime := do
  let (weekday, w) ← Scanner.mailDate.all? s
  let date ← Date.ofParts? w.year w.month w.day
  guard (weekday.all (· == date.weekday))
  w.universal?

end FieldFormula.Calendar
