import FieldFormula.Unicode.Ranges

/-!
# The algebra of character sets

Union, complement, intersection and differences of sets of code points.  A result lists
its ranges in order, none of them touching the next.
-/

namespace FieldFormula.Unicode.Ranges

/-- The last code point. -/
def lastCode : Nat := 0x10FFFF

/-- Ranges in the order of their lower bounds, with those joined that overlap or touch. -/
def joined : List (Nat × Nat) → List (Nat × Nat)
  | a :: b :: r =>
    if b.1 ≤ a.2 + 1 then joined ((a.1, max a.2 b.2) :: r) else a :: joined (b :: r)
  | r => r
termination_by r => r.length

/-- The set of the code points in some ranges. -/
def ofBounds (r : List (Nat × Nat)) : Ranges :=
  ⟨(joined (r.mergeSort fun a b => a.1 ≤ b.1)).toArray⟩

/-- The ranges between ordered ranges, from a code point on. -/
def gaps (start : Nat) : List (Nat × Nat) → List (Nat × Nat)
  | [] => if start ≤ lastCode then [(start, lastCode)] else []
  | a :: r =>
    if start < a.1 then (start, a.1 - 1) :: gaps (a.2 + 1) r else gaps (a.2 + 1) r

/-- The code points in `r` or in `s`. -/
def union (r s : Ranges) : Ranges :=
  ofBounds (r.bounds.toList ++ s.bounds.toList)

/-- The code points that are not in `r`. -/
def complement (r : Ranges) : Ranges :=
  ⟨(gaps 0 (ofBounds r.bounds.toList).bounds.toList).toArray⟩

/-- The code points in `r` and in `s`. -/
def inter (r s : Ranges) : Ranges :=
  (r.complement.union s.complement).complement

/-- The code points in `r` that are not in `s`. -/
def diff (r s : Ranges) : Ranges :=
  r.inter s.complement

/-- The code points in one of `r` and `s` only. -/
def symmDiff (r s : Ranges) : Ranges :=
  (r.diff s).union (s.diff r)

/-- The set of one character. -/
def single (c : Char) : Ranges :=
  ⟨#[(c.toNat, c.toNat)]⟩

/-- The set of no characters. -/
def none : Ranges := ⟨#[]⟩

/-- Whether all code points of the set are in ASCII. -/
def isAscii (r : Ranges) : Bool :=
  r.bounds.all (·.2 < 0x80)

end FieldFormula.Unicode.Ranges
