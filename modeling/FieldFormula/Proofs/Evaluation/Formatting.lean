import FieldFormula.Proofs.Decimal.Padding
import FieldFormula.Proofs.Registry.Lookup

/-!
# Texts without digits in a pattern

The number form of a text is never missing: a text that no numeral can be read from counts as zero.
So a text that is no date is always written as a number, and one without a digit as zero, in the
digits that the pattern asks for.  It stays as it is under no pattern.

* `Value.toNumber_of_forall`: a text without a digit counts as zero.
* `Decimal.format_zero`: zero in a pattern.
* `Library.format_of_toDate?_eq_none`: a value that is no date is written as a number.
* `Expr.evaluate_format`: what a pattern makes of a text without a digit.
-/

namespace FieldFormula

/-! ### Texts without digits -/

namespace Decimal

/-- There is a digit in every numeral that is no word. -/
theorem longest?_eq_none {s : List Char} (hdigits : ∀ c ∈ s, c.isDigit = false) (hword : 'I' ∉ s) :
  longest? s = none
  := by
  rw [Option.eq_none_iff_forall_ne_some]
  intro p hp
  obtain ⟨hfront, x, h⟩ := exists_writes_of_longest? hp
  cases h with
  | infinity hsign => exact hword (hfront.subset (by simp))
  | decimal hsign hm hx =>
    obtain ⟨c, hc, hdigit⟩ := List.any_eq_true.mp hm.any_isDigit
    have hmem := hfront.subset (List.mem_append_right _ (List.mem_append_left _ hc))
    rw [hdigits c hmem] at hdigit
    contradiction

end Decimal

/-- A text without a digit counts as zero. -/
theorem Value.toNumber_of_forall {s : String} (hdigits : ∀ c ∈ s.toList, c.isDigit = false) :
  (Value.text s).toNumber = 0.0
  := by
  have hread : Decimal.readFront? (s.toList.filter isNumeric) = none := by
    have hsubset : Text.trimStart (s.toList.filter isNumeric) ⊆ s.toList.filter isNumeric :=
      (List.dropWhile_sublist Text.isBlank).subset
    rw [Decimal.readFront?, Decimal.longest?_eq_none, Option.map_none]
    · intro c hc
      exact hdigits c (List.mem_of_mem_filter (hsubset hc))
    · intro hword
      have hnumeric := List.of_mem_filter (hsubset hword)
      contradiction
  rw [toNumber, hread]

/-! ### Zero in a pattern -/

namespace Decimal

/-- Zero as a pattern writes it: the digits in front of the point that the pattern asks for, at
least one, and those behind it, at most as many as are honoured. -/
def zeroText (pattern : List Char) : List Char :=
  let digits := clampDigits (patternDigits pattern)
  List.replicate (max 1 (patternZeros pattern)) '0' ++
    if digits = 0 then [] else '.' :: List.replicate digits '0'

theorem fixedText_zero (digits : Nat) :
  fixedText (0.0 : Float).abs digits
    = ['0'] ++ if clampDigits digits = 0 then [] else '.' :: List.replicate (clampDigits digits) '0'
  := by
  obtain ⟨places, hplaces⟩ : ∃ places, clampDigits digits = places := ⟨_, rfl⟩
  have hform : Binary.ofFloat? (0.0 : Float).abs = some ⟨false, 0, -1074⟩ := by decide
  have hsmall : ¬ (1e21 : Float) ≤ (0.0 : Float).abs.abs := by decide
  have hrounded : rounded? (0.0 : Float).abs places = some ⟨false, 0, places⟩ := by
    simp only [rounded?, hform, if_neg hsmall]
    rfl
  have hdigits : Nat.toDigits 10 0 = ['0'] := rfl
  rw [fixedText, hplaces]
  simp only [hrounded, Bounded.fixedText, Nat.zero_div, Nat.zero_mod, hdigits]
  cases places with
  | zero => rfl
  | succ places =>
    rw [List.replicate_succ']
    simp

theorem format_zero (pattern : List Char) :
  format pattern 0.0 = zeroText pattern
  := by
  obtain ⟨places, hplaces⟩ : ∃ places, clampDigits (patternDigits pattern) = places := ⟨_, rfl⟩
  have hfraction : IsFraction (if places = 0 then [] else '.' :: List.replicate places '0') := by
    split
    · exact Or.inl rfl
    · exact Or.inr ⟨_, rfl, fun c => isDigit_of_mem_replicate_zero⟩
  have hne : ['0'] ≠ [] := List.cons_ne_nil _ _
  have hzero : ∀ c ∈ ['0'], c.isDigit := by simp
  have hnone : patternDigits pattern = 0 →
      (if places = 0 then [] else '.' :: List.replicate places '0') = [] := by
    intro h
    apply if_pos
    rw [← hplaces, h]
    rfl
  have htext := fixedText_zero (patternDigits pattern)
  rw [hplaces] at htext
  obtain ⟨grouped, hgrouped, -, hformat⟩ :=
    exists_format_eq_padZeros htext hne hzero hfraction hnone
  have hsign : signText 0.0 = [] := by decide
  have hcount : patternZeros pattern - 1 + 1 = max 1 (patternZeros pattern) := by omega
  rw [hformat, hsign, hgrouped.eq_of_length_le hzero (by simp), zeroText, hplaces, padZeros,
    List.nil_append, List.length_singleton, ← List.replicate_succ', hcount]

theorem zero_mem_zeroText (pattern : List Char) :
  '0' ∈ zeroText pattern
  := by
  apply List.mem_append_left
  simp

end Decimal

/-! ### The function of patterns -/

/-- A text has a number form. -/
theorem Value.isNaN_toNumber_text (s : String) :
  (Value.text s).toNumber.isNaN = false
  := by
  have hzero : (0.0 : Float).isNaN = false := by decide
  rw [toNumber]
  split
  · split
    · exact hzero
    · next h =>
      rw [Bool.or_eq_true, not_or] at h
      exact Bool.eq_false_iff.mpr h.2
  · exact hzero

/-- A value that is no date is written as a number if it has a number form. -/
theorem Library.format_of_toDate?_eq_none {c : Call} (hdate : (c.value 1).toDate? = none)
    (hnumber : (c.value 1).toNumber.isNaN = false) :
  format c = .ofChars (Decimal.format (c.chars 0) (c.value 1).toNumber)
  := by
  have hformat : formatNumber (c.chars 0) (c.value 1)
      = .ofChars (Decimal.format (c.chars 0) (c.value 1).toNumber) := by
    rw [formatNumber, hnumber]
    rfl
  rw [format, hdate, hformat]
  exact ite_self _

namespace Expr

/-- A text that is no date is written as a number. -/
theorem evaluate_format_of_text {ctx : Context} (hregistry : ctx.registry = .builtin)
    (pattern value : Expr) (rest : List Expr) {s : String} (hvalue : evaluate ctx value = .text s)
    (hdate : Calendar.DateTime.ofText? s.toList = none) :
  evaluate ctx (.call "FORMAT" (pattern :: value :: rest))
    = .ofChars (Decimal.format (evaluate ctx pattern).chars (Value.text s).toNumber)
  := by
  rw [evaluate_call hregistry "FORMAT" Library.format rfl]
  simp only [evaluateAll, hvalue]
  exact Library.format_of_toDate?_eq_none hdate (Value.isNaN_toNumber_text s)

/-- A pattern writes a text that is no date as a number, whatever the text.  It makes zero of a text
without a digit, which is another text. -/
theorem evaluate_format {ctx : Context} (hregistry : ctx.registry = .builtin)
    (pattern value : Expr) (rest : List Expr) {s : String} (hvalue : evaluate ctx value = .text s)
    (hdate : Calendar.DateTime.ofText? s.toList = none) :
  let p := (evaluate ctx pattern).chars
  let result := evaluate ctx (.call "FORMAT" (pattern :: value :: rest))
  result = .ofChars (Decimal.format p (Value.text s).toNumber)
    ∧ ((∀ c ∈ s.toList, c.isDigit = false) →
      result = .ofChars (Decimal.zeroText p) ∧ result.toText ≠ s)
  := by
  intro p result
  have hnumber : result = .ofChars (Decimal.format p (Value.text s).toNumber) :=
    evaluate_format_of_text hregistry pattern value rest hvalue hdate
  use hnumber
  intro hdigits
  have hzero : result = .ofChars (Decimal.zeroText p) := by
    rw [hnumber, Value.toNumber_of_forall hdigits, Decimal.format_zero]
  use hzero
  rintro rfl
  -- the zero that is written would be a digit of the text
  have hmem := Decimal.zero_mem_zeroText p
  rw [← Value.chars_ofChars (Decimal.zeroText p), ← hzero] at hmem
  have hdigit := hdigits '0' hmem
  contradiction

/-- A text with points and a hyphen in a pattern with a comma. -/
theorem evaluate_format_notAvailable :
  let ctx : Context := ⟨.builtin, none, 0.0⟩
  let e : Expr := .call "FORMAT" [.literal (.text "#,000.00"), .literal (.text "n.-a.")]
  evaluate ctx e = .text "000.00" ∧ (evaluate ctx e).toText ≠ "n.-a."
  := by
  intro ctx e
  have hregistry : ctx.registry = .builtin := rfl
  have hdate : Calendar.DateTime.ofText? "n.-a.".toList = none := by decide
  have htext : Decimal.zeroText "#,000.00".toList = "000.00".toList := by decide
  obtain ⟨-, hzero⟩ := evaluate_format hregistry (.literal (.text "#,000.00"))
    (.literal (.text "n.-a.")) [] rfl hdate
  obtain ⟨hresult, hne⟩ := hzero (by simp)
  exact ⟨hresult.trans (congrArg Value.ofChars htext), hne⟩

/-- A word in a pattern is zero. -/
theorem evaluate_format_word :
  let ctx : Context := ⟨.builtin, none, 0.0⟩
  let e : Expr := .call "FORMAT" [.literal (.text "0.00"), .literal (.text "abc")]
  (∀ c ∈ "abc".toList, c.isDigit = false) ∧ Calendar.DateTime.ofText? "abc".toList = none
    ∧ evaluate ctx e = .text "0.00"
  := by
  intro ctx e
  have hregistry : ctx.registry = .builtin := rfl
  have hdate : Calendar.DateTime.ofText? "abc".toList = none := by decide
  have htext : Decimal.format "0.00".toList (Value.text "abc").toNumber = "0.00".toList := by
    decide
  refine ⟨by simp, hdate, ?_⟩
  have hformat := evaluate_format_of_text hregistry
    (.literal (.text "0.00")) (.literal (.text "abc")) [] rfl hdate
  exact hformat.trans (congrArg Value.ofChars htext)

end Expr

end FieldFormula
