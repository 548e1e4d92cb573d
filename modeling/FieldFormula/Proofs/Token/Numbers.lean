import FieldFormula.Proofs.Arithmetic.Spelling
import FieldFormula.Proofs.Token.Segments

/-!
# Numbers in a source

Digits are one token, whatever number of zeros they begin with, and a hyphen before them belongs to
it.  So numbers with separators between them fall apart into the tokens of the numbers and, unless
the separator is a hyphen, those of the separators.

* `ofChars_digits`: digits are one token, and so are digits behind a hyphen.
* `ofChars_slash`: a slash before a digit is an operator.
-/

namespace FieldFormula.Token

open Arithmetic (EndsNumber)

/-- A gap does not continue the digits in front of it. -/
theorem IsGap.endsNumber {g : List Char} (hg : IsGap False g) {s : List Char} (hs : EndsNumber s) :
  EndsNumber (g ++ s)
  := by
  cases hg with
  | nil => apply hs
  | @blank d g hd _ =>
    intro c hc
    obtain rfl : d = c := Option.some.inj hc
    constructor
    · by_contra hdigit
      rw [Bool.not_eq_false] at hdigit
      rw [Decimal.not_isBlank_of_isDigit hdigit] at hd
      contradiction
    · rintro rfl
      contradiction
  | comment =>
    intro c hc
    obtain rfl : '/' = c := Option.some.inj hc
    decide

theorem takeNumber_digits {ds rest : List Char} (hdigits : ∀ c ∈ ds, c.isDigit)
    (hrest : EndsNumber rest) (lead : List Char) :
  takeNumber lead (ds ++ rest) = (numberOfChars (lead ++ ds), rest)
  := by
  have hnumber : ∀ c ∈ ds, isNumberChar c = true := by
    intro c hc
    rw [isNumberChar, hdigits c hc]
    rfl
  have hends : rest.takeWhile isNumberChar = [] ∧ rest.dropWhile isNumberChar = rest := by
    cases rest with
    | nil => exact ⟨rfl, rfl⟩
    | cons c rest => simp [isNumberChar, hrest c rfl]
  rw [takeNumber, List.takeWhile_append_of_pos hnumber, List.dropWhile_append_of_pos hnumber,
    hends.1, hends.2, List.append_nil]

/-- Digits are one token, and so are digits behind a hyphen. -/
theorem ofChars_digits {ds : List Char} (hne : ds ≠ []) (hdigits : ∀ c ∈ ds, c.isDigit)
    {rest : List Char} (hrest : EndsNumber rest) (negative : Bool) :
  ofChars ((if negative then ['-'] else []) ++ (ds ++ rest))
    = .number (if negative then -Decimal.nearest (Decimal.digitsValue ds) 0
      else Decimal.nearest (Decimal.digitsValue ds) 0) :: ofChars rest
  := by
  have hnumber := Decimal.readFront?_digits hne hdigits negative
  obtain ⟨d, r, rfl⟩ := List.exists_cons_of_ne_nil hne
  have hd := hdigits d List.mem_cons_self
  cases negative
  · have hslash : d = '/' → (r ++ rest).head? ≠ some '/' := by
      rintro rfl
      contradiction
    have hr := List.forall_mem_of_forall_mem_cons hdigits
    apply ofChars_cons (Decimal.not_isBlank_of_isDigit hd) hslash
    rw [next_of_notMem_leads (notMem_leads_of_isDigit hd), if_pos hd, takeNumber_digits hr hrest,
      List.singleton_append, numberOfChars]
    rw [if_neg (by simp), List.nil_append] at hnumber
    rw [hnumber, Option.getD_some]
  · have hhead : (d :: r ++ rest).head?.any Char.isDigit := by simp [hd]
    rw [if_pos rfl, List.singleton_append] at hnumber ⊢
    apply ofChars_cons rfl (by simp)
    rw [next_of_notMem_leads (by decide), if_neg (by decide), if_pos ⟨rfl, hhead⟩,
      takeNumber_digits hdigits hrest, numberOfChars, List.singleton_append, hnumber,
      Option.getD_some]

/-- A slash before a digit is an operator. -/
theorem ofChars_slash {d : Char} (hd : d.isDigit) (s : List Char) :
  ofChars ('/' :: d :: s) = .operator '/' :: ofChars (d :: s)
  := by
  apply ofChars_cons rfl
  · rintro - hslash
    obtain rfl := Option.some.inj hslash
    contradiction
  · rfl

end FieldFormula.Token
