import FieldFormula.Calendar.Format

/-!
# Date patterns

A date pattern is a text in which runs of certain letters stand for parts of a date-time.
A run is cut into tokens of at most `maxRun` letters from the left, all other characters
stand for themselves, and `DateTime.format` writes the tokens one after the other.
-/

namespace FieldFormula.Calendar

/-- The letters that stand for parts of a date-time. -/
def isPatternLetter (c : Char) : Bool :=
  ['y', 'M', 'd', 'H', 'h', 'm', 's', 't', 'T'].contains c

/-- The greatest number of letters in a token. -/
def maxRun (letter : Char) : Nat :=
  match letter with
  | 'y' => 5
  | 'M' | 'd' => 4
  | _ => 2

/-- The months of the year as a date shows them. -/
def monthTitles : List String :=
  ["January", "February", "March", "April", "May", "June", "July", "August", "September",
    "October", "November", "December"]

/-- The days of the week as a date shows them, from Sunday on. -/
def weekdayTitles : List String :=
  ["Sunday", "Monday", "Tuesday", "Wednesday", "Thursday", "Friday", "Saturday"]

/-- An integer with zeros between its sign and its digits up to a total width. -/
def paddedInt (width : Nat) (n : Int) : List Char :=
  if n < 0 then '-' :: padded (width - 1) n.natAbs else padded width n.natAbs

/-- The hour on a clock of twelve hours. -/
def hour12 (t : Time) : Nat :=
  (t.hour + 11) % 12 + 1

/-- The text that a token of `run` letters stands for. -/
def dateToken (dt : DateTime) (letter : Char) (run : Nat) : List Char :=
  let afternoon := 12 ≤ dt.time.hour
  match letter, run with
  | 'y', 1 => paddedInt 1 (dt.date.year.tmod 100)
  | 'y', 2 => paddedInt 2 (dt.date.year.tmod 100)
  | 'y', width => paddedInt width dt.date.year
  | 'M', 4 => (monthTitles.getD (dt.date.month - 1) "").toList
  | 'M', 3 => (monthTitles.getD (dt.date.month - 1) "").toList.take 3
  | 'M', width => padded width dt.date.month
  | 'd', 4 => (weekdayTitles.getD dt.date.weekday "").toList
  | 'd', 3 => (weekdayTitles.getD dt.date.weekday "").toList.take 3
  | 'd', width => padded width dt.date.day
  | 'H', width => padded width dt.time.hour
  | 'h', width => padded width (hour12 dt.time)
  | 'm', width => padded width dt.time.minute
  | 's', width => padded width dt.time.secondOfMinute
  | 't', width => (if afternoon then ['p', 'm'] else ['a', 'm']).take width
  | 'T', width => (if afternoon then ['P', 'M'] else ['A', 'M']).take width
  | c, width => List.replicate width c

/-- The length of the token at the front of a pattern that begins with a letter. -/
def tokenLength (letter : Char) (rest : List Char) : Nat :=
  min (maxRun letter) (1 + (rest.takeWhile (· == letter)).length)

/-- A date-time written by a pattern. -/
def DateTime.format (dt : DateTime) (pattern : List Char) : List Char :=
  match pattern with
  | [] => []
  | c :: rest =>
    if isPatternLetter c then
      let n := tokenLength c rest
      dateToken dt c n ++ dt.format (rest.drop (n - 1))
    else
      c :: dt.format rest
termination_by pattern.length
decreasing_by
  · simp only [List.length_drop, List.length_cons]
    omega
  · simp

end FieldFormula.Calendar
