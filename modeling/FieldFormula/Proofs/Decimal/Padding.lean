import FieldFormula.Proofs.Decimal.Pattern

/-!
# Digits in front of the point

A pattern asks for digits in front of the point by the zeros that end its part there, of which the
commas are no part.  What is filled up with zeros to that width is the whole part of the rounded
number when it has its commas already, and these count for the width.  So as many zeros are missing
as there are commas, as long as the number is too short without them.

* `IsGrouped.length_eq`: how many commas stand between groups.
* `exists_format_eq_padZeros`: the parts that a pattern writes a number in.
* `wholeDigits_format`: how many digits it writes in front of the point.
-/

namespace FieldFormula.Decimal

/-! ### Lengths -/

theorem length_flatMap_comma {groups : List (List Char)} (h : ∀ g ∈ groups, g.length = 3) :
  (groups.flatMap (',' :: ·)).length = 4 * groups.length
  := by
  induction groups with
  | nil => rfl
  | cons g groups ih =>
    rw [List.forall_mem_cons] at h
    rw [List.flatMap_cons, List.length_append, List.length_cons, h.1, ih h.2, List.length_cons]
    ring

/-- There is a comma for every three digits behind the first one. -/
theorem IsGrouped.length_eq {digits grouped : List Char} (h : IsGrouped digits grouped) :
  grouped.length = digits.length + (digits.length - 1) / 3
  := by
  obtain ⟨front, groups, rfl, rfl, hlow, hhigh, hgroups⟩ := h
  rw [List.length_append, List.length_append, length_flatten_of_forall hgroups,
    length_flatMap_comma hgroups]
  omega

/-- The number of commas that a pattern puts between that many digits. -/
def commaCount (pattern : List Char) (digits : Nat) : Nat :=
  if ',' ∈ pattern then (digits - 1) / 3 else 0

theorem commaCount_eq_zero_iff {pattern : List Char} {digits : Nat} :
  commaCount pattern digits = 0 ↔ ',' ∉ pattern ∨ digits ≤ 3
  := by
  rw [commaCount]
  split
  · next hcomma =>
    simp only [hcomma, not_true_eq_false, false_or]
    omega
  · next hcomma => simp [hcomma]

theorem IsGroupedBy.length_eq {pattern digits grouped : List Char}
    (h : IsGroupedBy pattern digits grouped) :
  grouped.length = digits.length + commaCount pattern digits.length
  := by
  rw [IsGroupedBy] at h
  by_cases hcomma : ',' ∈ pattern
  · rw [if_pos hcomma] at h
    rw [commaCount, if_pos hcomma, h.length_eq]
  · rw [if_neg hcomma] at h
    rw [commaCount, if_neg hcomma, h, Nat.add_zero]

/-- At most three digits have no comma. -/
theorem IsGroupedBy.eq_of_length_le {pattern digits grouped : List Char}
    (h : IsGroupedBy pattern digits grouped) (hdigits : ∀ c ∈ digits, c.isDigit)
    (hlength : digits.length ≤ 3) :
  grouped = digits
  := by
  have hcommas : commaCount pattern digits.length = 0 := commaCount_eq_zero_iff.mpr (Or.inr hlength)
  have hsublist : digits.Sublist grouped := by
    rw [← h.filter_eq hdigits]
    apply List.filter_sublist
  symm
  apply hsublist.eq_of_length
  rw [h.length_eq, hcommas, Nat.add_zero]

/-! ### Digits among other characters -/

/-- Commas are no digits. -/
theorem IsGroupedBy.countP_isDigit {pattern digits grouped : List Char}
    (h : IsGroupedBy pattern digits grouped) (hdigits : ∀ c ∈ digits, c.isDigit) :
  grouped.countP Char.isDigit = digits.length
  := by
  have hfilter : grouped.filter Char.isDigit = grouped.filter (· ≠ ',') := by
    apply List.filter_congr
    intro c hc
    obtain hdigit | rfl := h.isDigit_or_eq_comma hdigits hc
    · have hne : c ≠ ',' := by
        rintro rfl
        contradiction
      rw [hdigit, decide_eq_true hne]
    · rfl
  rw [List.countP_eq_length_filter, hfilter, h.filter_eq hdigits]

theorem countP_isDigit_signText (n : Float) :
  (signText n).countP Char.isDigit = 0
  := by
  rw [signText]
  split <;> rfl

/-- The number of digits in front of the first point of a text, or in all of it if there is none. -/
def wholeDigits (s : List Char) : Nat :=
  (splitPoint s).1.countP Char.isDigit

theorem wholeDigits_append {whole fraction : List Char} (hwhole : '.' ∉ whole)
    (hfraction : IsFraction fraction) :
  wholeDigits (whole ++ fraction) = whole.countP Char.isDigit
  := by
  rw [wholeDigits]
  obtain rfl | ⟨ds, rfl, -⟩ := hfraction
  · rw [List.append_nil, splitPoint_of_notMem hwhole]
  · rw [splitPoint_append hwhole]

/-! ### Parts of a pattern -/

section

variable {before : List Char} (hbefore : '.' ∉ before)

include hbefore

/-- The digits that a pattern asks for behind the point. -/
theorem patternDigits_append (after : List Char) :
  patternDigits (before ++ '.' :: after) = after.countP isPlaceholder
  := by
  rw [patternDigits, splitPoint_append hbefore, List.countP_eq_length_filter]

/-- The digits that a pattern asks for in front of the point. -/
theorem patternZeros_append {front : List Char} {zeros : Nat}
    (hzeros : before.filter (· ≠ ',') = front ++ List.replicate zeros '0')
    (hfront : front.getLast? ≠ some '0') (after : List Char) :
  patternZeros (before ++ '.' :: after) = zeros
  := by
  have hpredicate : before.filter (· != ',') = before.filter (· ≠ ',') := by
    apply List.filter_congr
    intro c _
    rw [Bool.eq_iff_iff, bne_iff_ne, decide_eq_true_iff]
  have hstop : front.reverse.takeWhile (· == '0') = [] := by
    rw [← List.head?_reverse] at hfront
    cases hreverse : front.reverse with
    | nil => rfl
    | cons c s =>
      rw [hreverse, List.head?_cons, Ne, Option.some.injEq] at hfront
      rw [List.takeWhile_cons_of_neg (by simpa using hfront)]
  rw [patternZeros, splitPoint_append hbefore]
  simp only
  rw [hpredicate, hzeros, List.reverse_append, List.reverse_replicate,
    List.takeWhile_append_of_pos (by simp), hstop, List.append_nil, List.length_replicate]

end

/-! ### Parts of a number -/

/-- A pattern writes a number whose rounded magnitude is given by its parts: the sign, and the whole
part with its commas, filled up with zeros, in front of the fraction. -/
theorem exists_format_eq_padZeros {pattern whole fraction : List Char} {n : Float}
    (htext : fixedText n.abs (patternDigits pattern) = whole ++ fraction) (hne : whole ≠ [])
    (hwhole : ∀ c ∈ whole, c.isDigit) (hfraction : IsFraction fraction)
    (hnone : patternDigits pattern = 0 → fraction = []) :
  ∃ grouped, IsGroupedBy pattern whole grouped ∧ '.' ∉ grouped
    ∧ format pattern n = signText n ++ padZeros (patternZeros pattern) grouped ++ fraction
  := by
  obtain ⟨grouped, hgrouped, hplain⟩ := exists_isGroupedBy hne hwhole hfraction pattern
  have hpoint : '.' ∉ grouped := by
    intro hmem
    cases hgrouped.isDigit_or_eq_comma hwhole hmem <;> contradiction
  use grouped, hgrouped, hpoint
  rw [format, htext]
  simp only [hplain]
  by_cases hdot : '.' ∈ pattern
  · rw [if_pos (List.contains_iff_mem.mpr hdot), mapWhole_append _ hpoint hfraction, signText]
    split <;> simp
  · rw [if_neg (mt List.contains_iff_mem.mp hdot), hnone (patternDigits_of_notMem hdot), signText]
    split <;> simp

/-! ### Digits that are written -/

/-- In front of the point, a pattern writes the digits of the rounded number, and zeros up to the
digits that it asks for less the commas.  So it writes as many digits as it asks for, or as the
number has if these are more, if and only if it has no comma, the number is too short for one, or it
needs no zeros. -/
theorem wholeDigits_format {before front after : List Char} {zeros : Nat} {n : Float}
    (hbefore : '.' ∉ before)
    (hzeros : before.filter (· ≠ ',') = front ++ List.replicate zeros '0')
    (hfront : front.getLast? ≠ some '0') (hn : n.abs < 1e21) :
  let pattern := before ++ '.' :: after
  let rounded := wholeDigits (fixedText n.abs (after.countP isPlaceholder))
  let written := wholeDigits (format pattern n)
  written = max rounded (zeros - commaCount pattern rounded)
    ∧ (written = max zeros rounded ↔ ',' ∉ pattern ∨ rounded ≤ 3 ∨ zeros ≤ rounded)
  := by
  intro pattern rounded written
  obtain ⟨whole, fraction, htext, hne, hwhole, hfraction, hnone⟩ :=
    exists_fixedText_eq hn (patternDigits pattern)
  obtain ⟨grouped, hgrouped, hpoint, hformat⟩ :=
    exists_format_eq_padZeros htext hne hwhole hfraction hnone
  have hrounded : rounded = whole.length := by
    have hwholePoint : '.' ∉ whole := fun h => absurd (hwhole _ h) (by decide)
    simp only [rounded]
    rw [← patternDigits_append hbefore, htext, wholeDigits_append hwholePoint hfraction,
      List.countP_eq_length.mpr hwhole]
  have hwritten : written = max rounded (zeros - commaCount pattern rounded) := by
    have hfilled : '.' ∉ signText n ++ padZeros zeros grouped := by
      rw [signText, padZeros]
      split <;> simp [hpoint]
    have hpadding : ∀ c ∈ List.replicate (zeros - grouped.length) '0', c.isDigit :=
      fun c => isDigit_of_mem_replicate_zero
    rw [patternZeros_append hbefore hzeros hfront] at hformat
    simp only [written]
    rw [hformat, wholeDigits_append hfilled hfraction, List.countP_append, countP_isDigit_signText,
      padZeros, List.countP_append, List.countP_eq_length.mpr hpadding, List.length_replicate,
      hgrouped.countP_isDigit hwhole, hgrouped.length_eq, hrounded]
    omega
  use hwritten
  have hcommas : commaCount pattern rounded = 0 ↔ ',' ∉ pattern ∨ rounded ≤ 3 :=
    commaCount_eq_zero_iff
  rw [← or_assoc, ← hcommas, hwritten]
  omega

/-- Seven digits are asked for, and six are written, since the comma takes the place of one. -/
theorem wholeDigits_format_comma :
  let pattern := "#0,000,000.00".toList
  let n : Float := -12345.678
  format pattern n = "-012,345.68".toList ∧ wholeDigits (format pattern n) = 6
    ∧ wholeDigits (format pattern n) ≠ max 7 (wholeDigits (fixedText n.abs 2))
  := by
  intro pattern n
  have hrounded : wholeDigits (fixedText n.abs 2) = 5 := by decide
  have hdigits : "00".toList.countP isPlaceholder = 2 := by decide
  have hbefore : '.' ∉ "#0,000,000".toList := by decide
  have hzeros : "#0,000,000".toList.filter (· ≠ ',') = ['#'] ++ List.replicate 7 '0' := by decide
  have hn : n.abs < 1e21 := by decide
  obtain ⟨hwritten, hiff⟩ := @wholeDigits_format _ _ "00".toList _ _ hbefore hzeros (by decide) hn
  rw [hdigits, hrounded] at hwritten hiff
  refine ⟨by decide, hwritten, ?_⟩
  rw [hrounded]
  intro hequal
  have hcase := hiff.mp hequal
  revert hcase
  decide

/-- A number of four digits is not filled up to the five that are asked for. -/
theorem wholeDigits_format_thousands :
  let before := "00,000".toList
  let pattern := before ++ '.' :: ['0']
  let n : Float := 1234.5
  ('.' ∉ before ∧ before.filter (· ≠ ',') = [] ++ List.replicate 5 '0' ∧ n.abs < 1e21)
    ∧ max 5 (wholeDigits (fixedText n.abs (['0'].countP isPlaceholder))) = 5
    ∧ format pattern n = "1,234.5".toList ∧ wholeDigits (format pattern n) = 4
  := by decide

end FieldFormula.Decimal
