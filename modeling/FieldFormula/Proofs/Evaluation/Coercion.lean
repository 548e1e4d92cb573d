import FieldFormula.Proofs.Arithmetic.Parsing
import FieldFormula.Proofs.Arithmetic.Spelling
import FieldFormula.Proofs.Decimal.RoundTrip

/-!
# Numbers that pass through texts

The text of a number has two readers: the number form of a text, which strikes all but digits,
points and hyphens, and the calculator, which keeps the signs of arithmetic.  Neither of them keeps
an exponent mark, so both give back the numbers that are written without an exponent.

* `Arithmetic.ofChars_positionalText`: a decimal is one symbol of arithmetic.
* `toNumber_signedText`, `Arithmetic.evaluate_signedText`: how the two readers read a decimal.
* `read_numberText`: numbers that are written without an exponent pass through texts.
-/

namespace FieldFormula

open Decimal (IsPositional positionalText)

/-! ### Decimals with a sign -/

/-- A decimal with its sign. -/
def signedText (negative : Bool) (whole fraction : List Char) : List Char :=
  (if negative then ['-'] else []) ++ positionalText whole fraction

/-- The float of a decimal with its sign. -/
def signedValue (negative : Bool) (whole fraction : List Char) : Float :=
  if negative then -Decimal.value (positionalText whole fraction)
  else Decimal.value (positionalText whole fraction)

section

variable {whole fraction : List Char} (h : IsPositional whole fraction) (negative : Bool)

include h

theorem mem_signedText {c : Char} (hc : c ∈ signedText negative whole fraction) :
  c.isDigit ∨ c = '.' ∨ c = '-'
  := by
  rw [signedText, List.mem_append] at hc
  obtain hsign | hdecimal := hc
  · right
    right
    cases negative <;> simp_all
  · obtain hdigit | hpoint := h.isDigit_or_eq_point hdecimal
    · exact Or.inl hdigit
    · exact Or.inr (Or.inl hpoint)

/-- The number form of a decimal, where zero has no sign. -/
theorem toNumber_signedText :
  (Value.ofChars (signedText negative whole fraction)).toNumber
    = if signedValue negative whole fraction == 0.0 || (signedValue negative whole fraction).isNaN
      then 0.0 else signedValue negative whole fraction
  := by
  have hfilter : (signedText negative whole fraction).filter Value.isNumeric
      = signedText negative whole fraction := by
    apply List.filter_eq_self.mpr
    intro c hc
    obtain hdigit | rfl | rfl := mem_signedText h negative hc
    · simp [Value.isNumeric, hdigit]
    · rfl
    · rfl
  have hread := (h.isMantissa.writes negative).readFront?_eq_some
  rw [← signedText, ← h.value_eq, ← signedValue] at hread
  simp only [Value.ofChars, Value.toNumber, String.toList_ofList, hfilter, hread]

/-! ### The calculator -/

namespace Arithmetic

theorem sanitize_signedText :
  sanitize (signedText negative whole fraction) = signedText negative whole fraction
  := by
  apply List.filter_eq_self.mpr
  intro c hc
  obtain hdigit | rfl | rfl := mem_signedText h negative hc
  · simp [isArithmetic, hdigit]
  · rfl
  · rfl

omit negative in
/-- A decimal is a literal. -/
theorem literal_positionalText :
  Symbol.literal (positionalText whole fraction)
    = .ok (Decimal.value (positionalText whole fraction))
  := by
  have hpoint : positionalText whole fraction ≠ ['.'] := by
    obtain ⟨d, r, hd, hdigit⟩ := h.exists_eq_cons
    rw [hd]
    rintro ⟨⟩
    contradiction
  have hzero : ¬ (1 < whole.length ∧ whole.head? = some '0') := by
    rintro ⟨hlength, hhead⟩
    have hone := h.zero_alone hhead
    omega
  simp only [Symbol.literal, h.takeWhile_eq, if_neg hpoint, if_neg hzero]

omit negative in
/-- A decimal is one symbol. -/
theorem ofChars_positionalText :
  Symbol.ofChars (positionalText whole fraction)
    = .ok [.number (Decimal.value (positionalText whole fraction))]
  := by
  have hfront : Symbol.literalAtFront (positionalText whole fraction)
      = positionalText whole fraction := by
    rw [Symbol.literalAtFront, h.takeWhile_eq, h.dropWhile_eq, h.takeFraction_eq]
    rfl
  have hliteral := literal_positionalText h
  obtain ⟨d, r, hd, hdigit⟩ := h.exists_eq_cons
  rw [hd] at hfront hliteral ⊢
  have hnext : Symbol.next d r = .ok (.number (Decimal.value (d :: r)), r.length) := by
    rw [Symbol.next_of_isDigit hdigit, hfront]
    dsimp only
    rw [hliteral]
    rfl
  rw [Symbol.ofChars_cons (Decimal.not_isBlank_of_isDigit hdigit) hnext, List.drop_length,
    Symbol.ofChars_nil]
  rfl

/-- The calculator reads a decimal with its sign. -/
theorem evaluate_signedText :
  evaluate (signedText negative whole fraction) = .ok (signedValue negative whole fraction)
  := by
  have hdecimal := ofChars_positionalText h
  apply (Grammar.evaluate_eq_ok_iff _ _).mpr
  cases negative
  · exact ⟨_, _, hdecimal, rfl, rfl⟩
  · obtain ⟨d, r, hd, hdigit⟩ := h.exists_eq_cons
    have hsign : EndsOperator .subtract (positionalText whole fraction) := by
      rw [hd]
      rintro ⟨⟩
      contradiction
    have hsymbols := Symbol.ofChars_operator .subtract hsign
    rw [hdecimal] at hsymbols
    exact ⟨_, _, hsymbols, rfl, rfl⟩

end Arithmetic

end

/-! ### Numbers that pass through texts -/

theorem isPositional_zero :
  IsPositional ['0'] []
  := by
  constructor <;> simp

/-- Zero is written without a sign, and read as zero. -/
theorem read_zero :
  (Value.text "0").toNumber = 0.0
    ∧ Arithmetic.evaluate (Arithmetic.sanitize "0".toList) = .ok 0.0
  := by
  have hvalue : signedValue false ['0'] [] = 0.0 := isPositional_zero.value_eq
  have htext : signedText false ['0'] [] = "0".toList := rfl
  have hnumber := toNumber_signedText isPositional_zero false
  have hsanitize := Arithmetic.sanitize_signedText isPositional_zero false
  have hevaluate := Arithmetic.evaluate_signedText isPositional_zero false
  rw [htext, hvalue, ite_self] at hnumber
  rw [htext] at hsanitize
  rw [htext, hvalue] at hevaluate
  rw [hsanitize]
  exact ⟨hnumber, hevaluate⟩

/-- A number from `1e-6` up to below `1e21` is read back as it is. -/
theorem read_numberText_of_bounds {x : Float} (hlow : 1e-6 ≤ x.abs) (hhigh : x.abs < 1e21) :
  (Value.text (Value.numberText x)).toNumber = x
    ∧ Arithmetic.evaluate (Arithmetic.sanitize (Value.numberText x).toList) = .ok x
  := by
  obtain ⟨negative, whole, fraction, htext, hshape, hx⟩ := Decimal.exists_numberText_eq hlow hhigh
  rw [← signedText] at htext
  rw [← signedValue] at hx
  obtain ⟨q, hdenotes, -⟩ := Decimal.exists_denotes_of_abs_lt Decimal.denotes_limit hhigh
  have hq : q ≠ 0 := by
    rintro rfl
    have hsmallest : Decimal.smallestForm.toRat = 4722366482869645 * 2 ^ (-72 : Int) := rfl
    rw [Decimal.le_iff Decimal.denotes_smallest (Decimal.denotes_abs hdenotes), hsmallest] at hlow
    norm_num at hlow
  have hzero : (x == 0.0) = false := by
    rw [← Bool.not_eq_true, Decimal.beq_iff hdenotes Decimal.denotes_zero]
    apply hq
  have hnumber := toNumber_signedText hshape negative
  rw [← hx, hzero, Decimal.isNaN_eq_false hdenotes, ← htext] at hnumber
  constructor
  · rw [Value.ofChars, String.ofList_toList] at hnumber
    apply hnumber
  · rw [htext, Arithmetic.sanitize_signedText hshape, Arithmetic.evaluate_signedText hshape, ← hx]

/-- The numbers that are written without an exponent pass through texts: both the number form of
the text and the calculator give the number back, where zero has lost its sign. -/
theorem read_numberText {x : Float} (h : x == 0.0 ∨ 1e-6 ≤ x.abs ∧ x.abs < 1e21) :
  ∃ y, (y == x) = true
    ∧ (Value.text (Value.numberText x)).toNumber = y
    ∧ Arithmetic.evaluate (Arithmetic.sanitize (Value.numberText x).toList) = .ok y
  := by
  obtain hzero | ⟨hlow, hhigh⟩ := h
  · have hx := Decimal.denotes_of_beq Decimal.denotes_zero hzero
    have htext : Value.numberText x = "0" :=
      Decimal.numberText_of_denotes (k := 0) (by exact_mod_cast hx) (by norm_num)
    rw [htext]
    use 0.0, (Decimal.beq_iff Decimal.denotes_zero hx).mpr rfl, read_zero.1, read_zero.2
  · obtain ⟨q, hx, -⟩ := Decimal.exists_denotes_of_abs_lt Decimal.denotes_limit hhigh
    have hself : (x == x) = true := (Decimal.beq_iff hx hx).mpr rfl
    use x, hself, (read_numberText_of_bounds hlow hhigh).1,
      (read_numberText_of_bounds hlow hhigh).2

/-- The smallest and the largest number that are written without an exponent, a fraction of
seventeen digits, and the negative zero. -/
theorem read_numberText_extremes :
  (∃ y, (y == (1e-6 : Float)) = true ∧ (Value.text (Value.numberText 1e-6)).toNumber = y
      ∧ Arithmetic.evaluate (Arithmetic.sanitize (Value.numberText 1e-6).toList) = .ok y)
    ∧ (∃ y, (y == (-0.30000000000000004 : Float)) = true
      ∧ (Value.text (Value.numberText (-0.30000000000000004))).toNumber = y
      ∧ Arithmetic.evaluate (Arithmetic.sanitize
        (Value.numberText (-0.30000000000000004)).toList) = .ok y)
    ∧ (∃ y, (y == (-0.0 : Float)) = true ∧ (Value.text (Value.numberText (-0.0))).toNumber = y
      ∧ Arithmetic.evaluate (Arithmetic.sanitize (Value.numberText (-0.0)).toList) = .ok y)
  := by
  refine ⟨?_, ?_, ?_⟩
  · apply read_numberText (Or.inr (by decide +kernel))
  · apply read_numberText (Or.inr (by decide +kernel))
  · apply read_numberText (Or.inl (by decide +kernel))

/-- Both readers strike the mark of an exponent, so a number that is written with one is read as
another number. -/
theorem read_numberText_exponent :
  let large : Float := 1e21
  let small : Float := 1e-7
  (large.isFinite = true ∧ Value.numberText large = "1e+21"
      ∧ ((Value.text "1e+21").toNumber == large) = false
      ∧ ∃ y, Arithmetic.evaluate (Arithmetic.sanitize "1e+21".toList) = .ok y
        ∧ (y == large) = false)
    ∧ (small.isFinite = true ∧ Value.numberText small = "1e-7"
      ∧ ((Value.text "1e-7").toNumber == small) = false
      ∧ ∃ y, Arithmetic.evaluate (Arithmetic.sanitize "1e-7".toList) = .ok y
        ∧ (y == small) = false)
  := by
  intro large small
  refine ⟨⟨?_, ?_, ?_, 22.0, ?_, ?_⟩, ?_, ?_, ?_, -6.0, ?_, ?_⟩ <;> decide +kernel

end FieldFormula
