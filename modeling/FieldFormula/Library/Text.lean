import FieldFormula.Call
import FieldFormula.Text.Search
import FieldFormula.Unicode.Decomposition

/-!
# Functions of texts

The functions that cut, search, replace, change case and encode texts.  Each is a function
on lists of characters, and its namesake on a `Call` takes the arguments from there.
Counts of characters are floats, since arguments are; they are cut off toward zero, and
what lies beyond an end of the text is taken as that end.
-/

namespace FieldFormula.Library

/-! ### Parts by position -/

/-- The position in a text of length `len` that a float stands for. -/
def position (len : Nat) (n : Float) : Nat :=
  if n.isNaN ∨ n ≤ 0.0 then 0
  else if Float.ofNat len ≤ n then len
  else Decimal.toNat n

/-- The first `count` characters of a text. -/
def takeLeft (count : Float) (s : List Char) : List Char :=
  s.take (position s.length count)

/-- The last `count` characters of a text. -/
def takeRight (count : Float) (s : List Char) : List Char :=
  s.drop (position s.length (Float.ofNat s.length - count))

/-- The first characters of a text. -/
def left (c : Call) : Value := .ofChars (takeLeft (c.number 0) (c.chars 1))

/-- The last characters of a text. -/
def right (c : Call) : Value := .ofChars (takeRight (c.number 0) (c.chars 1))

/-- The number of characters of a text. -/
def length (c : Call) : Value := .ofNat (c.chars 0).length

/-! ### Parts by marker -/

/-- The text before the first occurrence of a marker, all of it without one. -/
def beforeFirst (marker s : List Char) : List Char :=
  match Text.cut? marker s with
  | some (before, _) => before
  | none => s

/-- The text after the first occurrence of a marker, nothing without one. -/
def afterFirst (marker s : List Char) : List Char :=
  match Text.cut? marker s with
  | some (_, after) => after
  | none => []

/-- The text before the last occurrence of a marker, all of it without one. -/
def beforeLast (marker s : List Char) : List Char :=
  match Text.cutLast? marker s with
  | some (before, _) => before
  | none => s

/-- The text after the last occurrence of a marker, nothing without one. -/
def afterLast (marker s : List Char) : List Char :=
  match Text.cutLast? marker s with
  | some (_, after) => after
  | none => []

/-- The text left of the first marker. -/
def leftOf (c : Call) : Value := .ofChars (beforeFirst (c.chars 0) (c.chars 1))

/-- The text right of the first marker. -/
def rightOf (c : Call) : Value := .ofChars (afterFirst (c.chars 0) (c.chars 1))

/-- The text left of the last marker. -/
def leftOfLast (c : Call) : Value := .ofChars (beforeLast (c.chars 0) (c.chars 1))

/-- The text right of the last marker. -/
def rightOfLast (c : Call) : Value := .ofChars (afterLast (c.chars 0) (c.chars 1))

/-- Whether a text is the given word of lower-case letters, in any case. -/
def isWord (word : String) (s : List Char) : Bool :=
  s.map Char.toLower == word.toList

/-- The marker that a text stands for.  The words `crlf` and `tab` stand for the line
break that occurs in `s` and for a tab. -/
def markerFor (marker s : List Char) : List Char :=
  if isWord "crlf" marker then
    if Text.occurs ['\r', '\n'] s then ['\r', '\n'] else ['\n']
  else if isWord "tab" marker then ['\t']
  else marker

/-- The text between two markers. -/
def between (start stop s : List Char) : List Char :=
  match Text.cut? (markerFor start s) s with
  | some (_, after) => beforeFirst (markerFor stop s) after
  | none => []

/-- The text between the first of two markers and the other one after it. -/
def parse (c : Call) : Value := .ofChars (between (c.chars 0) (c.chars 1) (c.chars 2))

/-! ### Comparison -/

/-- Whether a text occurs in another, without regard to case. -/
def occursAnyCase (search s : List Char) : Bool :=
  Text.occurs (Unicode.toLower search) (Unicode.toLower s)

/-- Whether the second text contains the first. -/
def contains (c : Call) : Value := .ofBool (occursAnyCase (c.chars 0) (c.chars 1))

/-- Whether the second text does not contain the first. -/
def notContains (c : Call) : Value := .ofBool (!occursAnyCase (c.chars 0) (c.chars 1))

/-- Whether all later texts are the first one. -/
def equals (c : Call) : Value :=
  .ofBool ((c.args.drop 1).all (·.toText == c.text 0))

/-- Whether no later text is the first one. -/
def notEquals (c : Call) : Value :=
  .ofBool ((c.args.drop 1).all (·.toText != c.text 0))

/-! ### Composition and replacement -/

/-- The texts that are not empty, joined by a separator. -/
def append (c : Call) : Value :=
  .ofChars (Text.join (c.chars 0) ((c.allChars.drop 1).filter (!·.isEmpty)))

/-- The pieces of a text around a delimiter, its characters for an empty delimiter. -/
def pieces (delimiter s : List Char) : List (List Char) :=
  if delimiter.isEmpty then s.map ([·]) else Text.splitOn delimiter s

/-- A text with every occurrence of `search` replaced.  An empty `search` occurs between
any two characters. -/
def replaceAll (search replacement s : List Char) : List Char :=
  if search.isEmpty then Text.join replacement (s.map ([·]))
  else Text.substitute search replacement s

/-- Replaces a text in a text. -/
def replace (c : Call) : Value := .ofChars (replaceAll (c.chars 0) (c.chars 1) (c.chars 2))

/-- Strikes out characters. -/
def removeChars (c : Call) : Value :=
  .ofChars ((c.chars 0).filter (!(c.chars 1).contains ·))

/-- A text without blanks. -/
def withoutBlanks (s : List Char) : List Char :=
  s.filter (!Text.isBlank ·)

/-- Strikes out blanks. -/
def removeSpaces (c : Call) : Value := .ofChars (withoutBlanks (c.chars 0))

/-- Whether a character is a combining mark of the first block of marks. -/
def isDiacritic (c : Char) : Bool :=
  0x300 ≤ c.toNat && c.toNat ≤ 0x36F

/-- Strikes the marks out of the decomposed text. -/
def removeDiacritics (c : Call) : Value :=
  .ofChars ((Unicode.decompose (c.chars 0)).filter (!isDiacritic ·))

/-- Strikes out all but letters and digits of ASCII and blanks. -/
def removeSymbols (c : Call) : Value :=
  .ofChars ((c.chars 0).filter fun a => a.isAlphanum || Text.isBlank a)

/-- A text without its tags, the parts from a less-than sign to the next greater-than
sign. -/
def withoutTags (s : List Char) : List Char :=
  match s with
  | [] => []
  | c :: r =>
    if c = '<' ∧ r.contains '>' then withoutTags ((r.dropWhile (· != '>')).drop 1)
    else c :: withoutTags r
termination_by s.length
decreasing_by
  · have := (List.dropWhile_sublist (l := r) (· != '>')).length_le
    simp only [List.length_drop, List.length_cons]
    omega
  · simp

/-- Strikes out blanks and then tags. -/
def normalizeText (c : Call) : Value := .ofChars (withoutTags (withoutBlanks (c.chars 0)))

/-- The words of a text with single spaces between them. -/
def trim (c : Call) : Value := .ofChars (Text.join [' '] (Text.words (c.chars 0)))

/-- The words of a text reduced to letters and digits of ASCII, those that are left joined
by bars. -/
def wordsOnly (c : Call) : Value :=
  .ofChars (Text.join ['|']
    (((Text.words (c.chars 0)).map (·.filter Char.isAlphanum)).filter (!·.isEmpty)))

/-! ### Case -/

/-- A text in lower case. -/
def lowerCase (c : Call) : Value := .ofChars (Unicode.toLower (c.chars 0))

/-- A text in upper case. -/
def upperCase (c : Call) : Value := .ofChars (Unicode.toUpper (c.chars 0))

/-- A text whose words begin with a capital and go on in lower case.  A word begins with a
letter or digit of ASCII or an underscore and ends before a blank. -/
def capitalize (s : List Char) : List Char :=
  match s with
  | [] => []
  | c :: r =>
    if c.isAlphanum || c == '_' then
      c.toUpper :: Unicode.toLower (r.takeWhile (!Text.isBlank ·)) ++
        capitalize (r.dropWhile (!Text.isBlank ·))
    else c :: capitalize r
termination_by s.length
decreasing_by
  · have := (List.dropWhile_sublist (l := r) (!Text.isBlank ·)).length_le
    simp only [List.length_cons]
    omega
  · simp

/-- A text with capitalized words. -/
def titleCase (c : Call) : Value := .ofChars (capitalize (c.chars 0))

/-! ### Percent-encoding -/

/-- The characters that stand for themselves in an encoded text. -/
def isUnreserved (c : Char) : Bool :=
  c.isAlphanum || ['-', '_', '.', '!', '~', '*', '\'', '(', ')'].contains c

/-- The digit of a number below sixteen, in upper case. -/
def hexDigit (n : Nat) : Char :=
  (Nat.digitChar n).toUpper

/-- A byte as a percent sign and two digits. -/
def percentEscape (b : UInt8) : List Char :=
  ['%', hexDigit (b.toNat / 16), hexDigit (b.toNat % 16)]

/-- A character percent-encoded: each of its bytes in UTF-8 is escaped. -/
def encodeChar (c : Char) : List Char :=
  if isUnreserved c then [c] else (String.utf8EncodeChar c).flatMap percentEscape

/-- A text percent-encoded as a component of a URL. -/
def urlEncode (c : Call) : Value := .ofChars ((c.chars 0).flatMap encodeChar)

/-- The text itself. -/
def enclose (c : Call) : Value := .text (c.text 0)

end FieldFormula.Library
