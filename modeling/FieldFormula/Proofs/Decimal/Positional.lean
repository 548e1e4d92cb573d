import FieldFormula.Proofs.Decimal.Longest
import Mathlib.Algebra.Order.Field.Rat
import Mathlib.Data.List.Induction
import Mathlib.Tactic.NormNum

/-!
# Numbers without an exponent

A number is written without an exponent as the digits of its whole part, with a point and further
digits behind them if it has a fraction.  The digits of a decimal are laid out around the point so
that the text writes the decimal, and the text is one numeral without superfluous zeros.

* `IsPositional`: the digits of a whole part and of a fraction.
* `IsPositional.value_eq`: the digits on both sides of the point are read as one decimal.
* `isPlainText_decimal`: the layout of a decimal writes the decimal.
-/

namespace FieldFormula.Decimal

/-! ### Digits -/

theorem digitsValue_append (s t : List Char) :
  digitsValue (s ++ t) = digitsValue s * 10 ^ t.length + digitsValue t
  := by
  induction t using List.reverseRecOn with
  | nil => simp [digitsValue]
  | append_singleton t c ih =>
    have hlast : ∀ r : List Char,
        digitsValue (r ++ [c]) = 10 * digitsValue r + digitsValue [c] := by
      intro r
      simp [digitsValue, List.foldl_append]
    rw [← List.append_assoc, hlast, ih, hlast, List.length_append, List.length_singleton, pow_succ]
    ring

theorem digitsValue_replicate_zero (k : Nat) :
  digitsValue (List.replicate k '0') = 0
  := by
  induction k with
  | zero => rfl
  | succ k ih =>
    rw [List.replicate_succ', digitsValue_append, ih, zero_mul, zero_add]
    rfl

/-- The significant digits begin with the digits. -/
theorem significantDigits_eq_cons {n : Nat} (hn : 0 < n) :
  ∃ d ds, significantDigits n = d :: ds ∧ d ≠ '0'
  := by
  obtain ⟨k, hk⟩ := significantDigits_append n
  cases hds : significantDigits n with
  -- the digits of a positive number are not all zeros
  | nil =>
    rw [hds, List.nil_append] at hk
    have hzero := digitsValue_toDigits n
    rw [← hk, digitsValue_replicate_zero] at hzero
    omega
  | cons d ds =>
    use d, ds, rfl
    rintro rfl
    apply head?_toDigits hn
    rw [← hk, hds]
    rfl

/-! ### Texts around a point -/

/-- The text of a number without an exponent: the digits of the whole part, and a point and the
digits of the fraction if there are any. -/
def positionalText (whole fraction : List Char) : List Char :=
  whole ++ if fraction = [] then [] else '.' :: fraction

theorem positionalText_nil (whole : List Char) :
  positionalText whole [] = whole
  := by
  rw [positionalText, if_pos rfl, List.append_nil]

/-- The digits of a whole part without superfluous zeros, and those of a fraction. -/
structure IsPositional (whole fraction : List Char) : Prop where
  whole_digits : ∀ c ∈ whole, c.isDigit
  fraction_digits : ∀ c ∈ fraction, c.isDigit
  whole_ne_nil : whole ≠ []
  zero_alone : whole.head? = some '0' → whole.length = 1

namespace IsPositional

variable {whole fraction : List Char} (h : IsPositional whole fraction)

include h

theorem exists_eq_cons :
  ∃ d r, positionalText whole fraction = d :: r ∧ d.isDigit
  := by
  obtain ⟨d, ds, hds⟩ := List.exists_cons_of_ne_nil h.whole_ne_nil
  use d, ds ++ if fraction = [] then [] else '.' :: fraction
  constructor
  · rw [positionalText, hds, List.cons_append]
  · apply h.whole_digits
    rw [hds]
    apply List.mem_cons_self

theorem isDigit_or_eq_point {c : Char} (hc : c ∈ positionalText whole fraction) :
  c.isDigit ∨ c = '.'
  := by
  rw [positionalText, List.mem_append] at hc
  obtain hwhole | hrest := hc
  · exact Or.inl (h.whole_digits c hwhole)
  · split at hrest
    · contradiction
    · obtain rfl | hfraction := List.mem_cons.mp hrest
      · exact Or.inr rfl
      · exact Or.inl (h.fraction_digits c hfraction)

theorem takeWhile_eq :
  (positionalText whole fraction).takeWhile Char.isDigit = whole
  := by
  rw [positionalText, List.takeWhile_append_of_pos h.whole_digits]
  split <;> simp

theorem dropWhile_eq :
  (positionalText whole fraction).dropWhile Char.isDigit
    = if fraction = [] then [] else '.' :: fraction
  := by
  rw [positionalText, List.dropWhile_append_of_pos h.whole_digits]
  split <;> simp

theorem takeFraction_eq :
  takeFraction (if fraction = [] then [] else '.' :: fraction)
    = if fraction = [] then [] else '.' :: fraction
  := by
  split
  · rfl
  · rw [takeFraction, List.takeWhile_eq_self_iff.mpr h.fraction_digits]

/-! ### Reading -/

theorem isMantissa :
  IsMantissa (positionalText whole fraction) whole fraction
  := by
  have hwhole : IsDigits whole := ⟨h.whole_ne_nil, h.whole_digits⟩
  rw [positionalText]
  split
  · next hnil =>
    rw [hnil, List.append_nil]
    exact .whole hwhole
  · exact .point hwhole h.fraction_digits

/-- The digits on both sides of the point are read as one decimal. -/
theorem value_eq :
  value (positionalText whole fraction)
    = nearest (digitsValue (whole ++ fraction)) (-(fraction.length : Int))
  := (h.isMantissa.writes false).value_eq

end IsPositional

/-! ### Layout -/

/-- The text is that of the number `x`, without an exponent. -/
def IsPlainText (t : List Char) (x : ℚ) : Prop :=
  ∃ whole fraction, t = positionalText whole fraction ∧ IsPositional whole fraction
    ∧ (digitsValue (whole ++ fraction) : ℚ) * 10 ^ (-(fraction.length : Int)) = x

theorem isDigit_of_mem_replicate_zero {k : Nat} {c : Char} (hc : c ∈ List.replicate k '0') :
  c.isDigit
  := by
  rw [List.eq_of_mem_replicate hc]
  rfl

section

variable {l : Layout} {d : Char} {ds : List Char} (hd : d ≠ '0')
  (hdigits : ∀ c ∈ d :: ds, c.isDigit) {k : Int}

include hdigits

/-- Zeros stand between the point and the digits of a number below one. -/
theorem isPlainText_of_neg (hneg : k < 0) :
  IsPlainText (l.plain (d :: ds) k) (digitsValue (d :: ds) * 10 ^ (k + 1 - (d :: ds).length))
  := by
  obtain ⟨j, hj⟩ : ∃ j, (-k - 1).toNat = j := ⟨_, rfl⟩
  use ['0'], List.replicate j '0' ++ d :: ds
  refine ⟨?_, ?_, ?_⟩
  · rw [Layout.plain, if_pos hneg, hj, positionalText, if_neg (by simp)]
    simp
  · constructor
    · simp
    · rw [List.forall_mem_append]
      use fun c => isDigit_of_mem_replicate_zero, hdigits
    · simp
    · simp
  · have hexponent : -((List.replicate j '0' ++ d :: ds).length : Int)
        = k + 1 - (d :: ds).length := by
      rw [List.length_append, List.length_replicate]
      omega
    have hlead : digitsValue (['0'] ++ (List.replicate j '0' ++ d :: ds))
        = digitsValue (d :: ds) := by
      rw [digitsValue_append, digitsValue_append, digitsValue_replicate_zero]
      simp [digitsValue]
    rw [hexponent, hlead]

include hd

/-- Zeros stand behind the digits of an integer, up to its last place. -/
theorem isPlainText_of_length_le (htail : l.integerTail = []) (hnonneg : 0 ≤ k)
    (hle : ((d :: ds).length : Int) ≤ k + 1) :
  IsPlainText (l.plain (d :: ds) k) (digitsValue (d :: ds) * 10 ^ (k + 1 - (d :: ds).length))
  := by
  obtain ⟨j, hj⟩ : ∃ j : Nat, k + 1 - (d :: ds).length = j :=
    ⟨_, (Int.toNat_of_nonneg (by omega)).symm⟩
  use d :: ds ++ List.replicate j '0', []
  refine ⟨?_, ?_, ?_⟩
  · rw [Layout.plain, if_neg (by omega), if_pos hle, htail, hj, Int.toNat_natCast,
      positionalText_nil, List.append_nil]
  · constructor
    · rw [List.forall_mem_append]
      use hdigits, fun c => isDigit_of_mem_replicate_zero
    · simp
    · simp
    · simp [hd]
  · rw [List.append_nil, hj, digitsValue_append, digitsValue_replicate_zero,
      List.length_replicate]
    simp

/-- The point stands between the digits of any other number. -/
theorem isPlainText_of_lt_length (hnonneg : 0 ≤ k) (hlt : k + 1 < (d :: ds).length) :
  IsPlainText (l.plain (d :: ds) k) (digitsValue (d :: ds) * 10 ^ (k + 1 - (d :: ds).length))
  := by
  obtain ⟨j, rfl⟩ : ∃ j : Nat, k = j := ⟨_, (Int.toNat_of_nonneg hnonneg).symm⟩
  have hsplit : d :: ds.take j ++ ds.drop j = d :: ds := by
    rw [List.cons_append, List.take_append_drop]
  have hlength : ((ds.drop j).length : Int) = (d :: ds).length - (j + 1) := by
    rw [List.length_cons] at hlt ⊢
    rw [List.length_drop]
    omega
  use d :: ds.take j, ds.drop j
  refine ⟨?_, ?_, ?_⟩
  · have hfront : ((j : Int) + 1).toNat = j + 1 := by omega
    have hne : ds.drop j ≠ [] := by
      rw [← List.length_pos_iff]
      omega
    rw [Layout.plain, if_neg (by omega), if_neg (by omega), hfront, positionalText, if_neg hne]
    simp
  · rw [← hsplit, List.forall_mem_append] at hdigits
    constructor
    · exact hdigits.1
    · exact hdigits.2
    · simp
    · simp [hd]
  · rw [hsplit, hlength, neg_sub]

/-- Digits are laid out around the point so that the text writes their decimal. -/
theorem isPlainText_plain (htail : l.integerTail = []) :
  IsPlainText (l.plain (d :: ds) k) (digitsValue (d :: ds) * 10 ^ (k + 1 - (d :: ds).length))
  := by
  obtain hneg | hnonneg := lt_or_ge k 0
  · apply isPlainText_of_neg hdigits hneg
  · obtain hle | hlt := le_or_gt ((d :: ds).length : Int) (k + 1)
    · apply isPlainText_of_length_le hd hdigits htail hnonneg hle
    · apply isPlainText_of_lt_length hd hdigits hnonneg hlt

end

/-- The layout of a decimal without an exponent writes the decimal. -/
theorem isPlainText_decimal {l : Layout} (htail : l.integerTail = []) {n : Nat} {e : Int}
    (hn : 0 < n) (hpositional : l.positional (digitCount n - 1 + e) = true) :
  IsPlainText (l.decimal ⟨n, e⟩) (n * 10 ^ e)
  := by
  obtain ⟨d, ds, hds, hd⟩ := significantDigits_eq_cons hn
  have hdigits : ∀ c ∈ d :: ds, c.isDigit := by
    intro c hc
    rw [← hds] at hc
    apply isDigit_of_mem_significantDigits hc
  have htext : l.decimal ⟨n, e⟩ = l.plain (d :: ds) (digitCount n - 1 + e) := by
    rw [digitCount_of_pos hn] at hpositional ⊢
    simp only [Layout.decimal, hpositional, if_true, hds]
  have hvalue : (n * 10 ^ e : ℚ)
      = digitsValue (d :: ds) * 10 ^ (digitCount n - 1 + e + 1 - (d :: ds).length) := by
    obtain ⟨k, hk⟩ := significantDigits_append n
    have hcount : digitCount n = (d :: ds).length + k := by
      rw [digitCount_of_pos hn, ← hk, hds, List.length_append, List.length_replicate]
    have hexponent : (digitCount n - 1 + e + 1 - (d :: ds).length : Int) = k + e := by
      rw [hcount]
      push_cast
      ring
    have hsplit : (digitsValue (d :: ds) * 10 ^ k : ℚ) = n := by
      rw [← digitsValue_toDigits n, ← hk, hds, digitsValue_append, digitsValue_replicate_zero,
        List.length_replicate, add_zero]
      push_cast
      rfl
    rw [hexponent, zpow_add₀ (by norm_num), zpow_natCast, ← mul_assoc, hsplit]
  rw [htext, hvalue]
  apply isPlainText_plain hd hdigits htail

end FieldFormula.Decimal
