import FieldFormula.Decimal.Numeral
import FieldFormula.Text.Search

/-!
# Scanners

A scanner takes characters off the front of a text and yields a result, or fails.  These
are the scanners that the written forms of dates and times have in common.
-/

namespace FieldFormula.Calendar

/-- What takes a result off the front of a text. -/
abbrev Scanner (α : Type) := StateT (List Char) Option α

namespace Scanner

/-- The result of a scanner that takes the whole text. -/
def all? {α : Type} (p : Scanner α) (s : List Char) : Option α :=
  match p s with
  | some (a, []) => some a
  | _ => none

/-- The next character, not taken. -/
def peek? : Scanner (Option Char) := fun s => some (s.head?, s)

/-- Takes any character. -/
def any : Scanner Char
  | [] => none
  | c :: s => some (c, s)

/-- Takes a given character. -/
def char (c : Char) : Scanner Unit := do
  guard ((← any) == c)

/-- Takes a given character if it is next, and says whether it was. -/
def optional (c : Char) : Scanner Bool
  | [] => some (false, [])
  | d :: s => if d = c then some (true, s) else some (false, d :: s)

/-- Takes any number of blanks. -/
def blanks : Scanner Unit := fun s => some ((), Text.trimStart s)

/-- Takes at least one blank. -/
def someBlanks : Scanner Unit
  | [] => none
  | c :: s => if Text.isBlank c then some ((), Text.trimStart s) else none

/-- Takes at least `least` and at most `most` digits. -/
def digits (least most : Nat) : Scanner (List Char) := fun s =>
  let ds := (s.takeWhile Char.isDigit).take most
  if ds.length < least then none else some (ds, s.drop ds.length)

/-- Takes as many digits as there are, at least `least`. -/
def allDigits (least : Nat) : Scanner (List Char) := fun s =>
  let ds := s.takeWhile Char.isDigit
  if ds.length < least then none else some (ds, s.drop ds.length)

/-- Takes a number of at least `least` and at most `most` digits. -/
def number (least most : Nat) : Scanner Nat :=
  Decimal.digitsValue <$> digits least most

/-- Takes digits of a fraction of a second and yields nanoseconds.  The digits after the
ninth do not count. -/
def nanoseconds : Scanner Nat := do
  let ds ← allDigits 1
  return Decimal.digitsValue ((ds ++ List.replicate 9 '0').take 9)

/-- Takes a word in any case.  The word is given in lower case. -/
def word (w : String) : Scanner Unit := fun s =>
  let n := w.toList.length
  if (s.take n).map Char.toLower = w.toList then some ((), s.drop n) else none

/-- Takes one of several names, in any case, and yields its position. -/
def oneOf (names : List String) : Scanner Nat := fun s =>
  (names.zipIdx).findSome? fun (name, i) =>
    match word name s with
    | some ((), r) => some (i, r)
    | none => none

/-- Takes a name by its first three letters and, if they come next, all of its letters.
Yields its position. -/
def longOrShort (names : List String) : Scanner Nat := do
  let i ← oneOf (names.map fun n => String.ofList (n.toList.take 3))
  let suffix := String.ofList ((names.getD i "").toList.drop 3)
  fun s =>
    match word suffix s with
    | some ((), r) => some (i, r)
    | none => some (i, s)

end Scanner

/-- The months of the year. -/
def monthNames : List String :=
  ["january", "february", "march", "april", "may", "june", "july", "august", "september",
    "october", "november", "december"]

/-- The days of the week, from Sunday on. -/
def weekdayNames : List String :=
  ["sunday", "monday", "tuesday", "wednesday", "thursday", "friday", "saturday"]

/-- The first three letters of names. -/
def abbreviated (names : List String) : List String :=
  names.map fun n => String.ofList (n.toList.take 3)

end FieldFormula.Calendar
