import FieldFormula.Text.Blank

/-!
# Sets of characters as ranges

A set of characters is a list of ranges of code points.  The tables of this library give
such sets as texts: words, each one hexadecimal code point or two joined by a hyphen.  The
mark `/2` behind two code points takes every second code point between them only.
`Ranges.ofText` reads a table.
-/

namespace FieldFormula.Unicode

/-- The value of a hexadecimal digit, upper or lower case. -/
def hexDigit? (c : Char) : Option Nat :=
  if '0' ≤ c ∧ c ≤ '9' then some (c.toNat - '0'.toNat)
  else if 'a' ≤ c ∧ c ≤ 'f' then some (c.toNat - 'a'.toNat + 10)
  else if 'A' ≤ c ∧ c ≤ 'F' then some (c.toNat - 'A'.toNat + 10)
  else none

/-- The number written by the hexadecimal digits of a text, other characters skipped. -/
def hexValue (s : List Char) : Nat :=
  s.foldl (fun n c => match hexDigit? c with
    | some d => 16 * n + d
    | none => n) 0

/-- A set of code points as a list of inclusive ranges. -/
structure Ranges where
  bounds : Array (Nat × Nat)

namespace Ranges

/-- The range written as one code point or as two joined by a hyphen. -/
def rangeOfText (s : List Char) : Nat × Nat :=
  match s.span (· != '-') with
  | (lo, '-' :: hi) => (hexValue lo, hexValue hi)
  | _ => (hexValue s, hexValue s)

/-- Every second code point from `lo` to `hi`, each as a range. -/
def alternate (lo hi : Nat) : List (Nat × Nat) :=
  (List.range ((hi - lo) / 2 + 1)).map fun i => (lo + 2 * i, lo + 2 * i)

/-- The ranges that a word of a table stands for. -/
def boundsOfText (s : List Char) : List (Nat × Nat) :=
  match s.span (· != '/') with
  | (r, '/' :: _) => alternate (rangeOfText r).1 (rangeOfText r).2
  | _ => [rangeOfText s]

/-- The set that a table of ranges writes out. -/
def ofText (s : String) : Ranges :=
  ⟨((Text.words s.toList).flatMap boundsOfText).toArray⟩

/-- Whether a code point lies in one of the ranges. -/
def hasCode (r : Ranges) (n : Nat) : Bool :=
  r.bounds.any fun (lo, hi) => lo ≤ n && n ≤ hi

/-- Whether a character lies in one of the ranges. -/
def contains (r : Ranges) (c : Char) : Bool :=
  r.hasCode c.toNat

end Ranges

end FieldFormula.Unicode
