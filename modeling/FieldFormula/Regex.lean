import FieldFormula.Unicode.Property
import FieldFormula.Unicode.Ranges.Algebra

/-!
# Regular expressions

A regular expression over the characters of a text.  `Place.holds` says when a condition
on a place in a text is met, and `Regex.weight` estimates the bytes that the program of an
expression takes.
-/

namespace FieldFormula

/-- A condition on a place between two characters. -/
inductive Place where
  | textStart
  | textEnd
  | lineStart
  | lineEnd
  | pairedLineStart
  | pairedLineEnd
  | wordBoundary (unicode : Bool)
  | notWordBoundary (unicode : Bool)
  | wordStart (unicode : Bool)
  | wordEnd (unicode : Bool)
  | wordStartHalf (unicode : Bool)
  | wordEndHalf (unicode : Bool)
  deriving DecidableEq, Repr

/-- Whether a character belongs to words, in Unicode or in ASCII. -/
def isWordCharacter (unicode : Bool) (c : Char) : Bool :=
  if unicode then Unicode.isWord c else c.isAlphanum || c == '_'

/-- Whether a condition is met between the characters `before` and `after`, of which one
is missing at an end of the text. -/
def Place.holds (before after : Option Char) : Place → Bool
  | .textStart => before.isNone
  | .textEnd => after.isNone
  | .lineStart => before.isNone || before == some '\n'
  | .lineEnd => after.isNone || after == some '\n'
  | .pairedLineStart =>
    before.isNone || before == some '\n' || (before == some '\r' && after != some '\n')
  | .pairedLineEnd =>
    after.isNone || after == some '\r' || (after == some '\n' && before != some '\r')
  | .wordBoundary u => before.any (isWordCharacter u) != after.any (isWordCharacter u)
  | .notWordBoundary u => before.any (isWordCharacter u) == after.any (isWordCharacter u)
  | .wordStart u => !before.any (isWordCharacter u) && after.any (isWordCharacter u)
  | .wordEnd u => before.any (isWordCharacter u) && !after.any (isWordCharacter u)
  | .wordStartHalf u => !before.any (isWordCharacter u)
  | .wordEndHalf u => !after.any (isWordCharacter u)

/-- A regular expression.  Of several ways to match, an alternative prefers its left side,
a greedy repetition one more round, and a lazy repetition none. -/
inductive Regex where
  | empty
  | characters (set : Unicode.Ranges)
  | place (p : Place)
  | concat (left right : Regex)
  | alternative (left right : Regex)
  | repetition (least : Nat) (most : Option Nat) (greedy : Bool) (body : Regex)

namespace Regex

/-- Whether the expression matches no character. -/
def matchesNoCharacter : Regex → Bool
  | empty => true
  | characters _ => false
  | place _ => true
  | concat left right => left.matchesNoCharacter && right.matchesNoCharacter
  | alternative left right => left.matchesNoCharacter && right.matchesNoCharacter
  | repetition _ most _ body => most == some 0 || body.matchesNoCharacter

/-- Whether the expression matches the empty text, if the conditions on places are met. -/
def mayBeEmpty : Regex → Bool
  | empty => true
  | characters _ => false
  | place _ => true
  | concat left right => left.mayBeEmpty && right.mayBeEmpty
  | alternative left right => left.mayBeEmpty || right.mayBeEmpty
  | repetition least _ _ body => least == 0 || body.mayBeEmpty

/-- The counts of a repetition, at most one for a body that matches no character: more
rounds change nothing then. -/
def effectiveCounts (least : Nat) (most : Option Nat) (body : Regex) : Nat × Option Nat :=
  if body.matchesNoCharacter then (min least 1, some (most.elim 1 (min 1)))
  else (least, most)

/-- The estimated bytes of the program of a set of characters. -/
def weightOfSet (set : Unicode.Ranges) : Nat :=
  match set.bounds.toList with
  | [(lo, hi)] => if lo = hi then 32 * (Char.ofNat lo).utf8Size else 100
  | bounds => if set.isAscii then 64 + 8 * bounds.length else 400 + 60 * bounds.length

/-- The estimated bytes of the program of an expression. -/
def weight : Regex → Nat
  | empty => 32
  | characters set => weightOfSet set
  | place _ => 32
  | concat left right => left.weight + right.weight
  | alternative left right => left.weight + right.weight + 40
  | repetition least most _ body =>
    match effectiveCounts least most body with
    | (least, none) => max least 1 * body.weight + 40
    | (least, some most) => least * body.weight + (most - least) * (body.weight + 40)

end Regex

end FieldFormula
