import FieldFormula.Proofs.Decimal.Division
import FieldFormula.Proofs.Decimal.RoundTrip
import Mathlib.Data.Int.Log

/-!
# Quotients of integers, rounded up

The quotient of two integers below `2 ^ 53` is rounded to a float, but not across an integer: if it
is not an integer itself, it is at least a unit of the denominator away from the next one, and this
is more than half the distance between floats there.  So rounding it up to an integer finds the same
integer as for the exact quotient.

* `exists_roundsTo_div`: every such quotient rounds to a float.
* `toRat_le_iff`: the float and the exact quotient lie on the same side of every integer.
* `denotes_ceiling_div`: the quotient rounded up.
-/

namespace FieldFormula.Decimal

/-! ### Rounding up -/

theorem Binary.ceiling_eq (b : Binary) :
  b.ceiling = ⌈b.toRat⌉
  := by
  have hneg : -b.toRat = (-b.signedNumerator : Int) / b.denominator := by
    rw [toRat_eq_signedNumerator_div, Int.cast_neg, neg_div]
  rw [ceiling, Int.fdiv_eq_ediv_of_nonneg _ (Int.natCast_nonneg _),
    ← Rat.floor_intCast_div_natCast, ← hneg, Int.floor_neg, neg_neg]

/-- A number rounded up to an integer. -/
theorem denotes_ceiling {x : Float} {q : ℚ} (hx : Denotes x q) :
  Denotes (roundWith Binary.ceiling x) ⌈q⌉
  := by
  obtain ⟨b, hform, rfl⟩ := denotes_iff.mp hx
  simp only [roundWith, hform]
  split
  · next hnonneg =>
    -- without a negative exponent it is an integer already
    have hdenominator : b.denominator = 1 := by
      have hzero : (-b.exponent).toNat = 0 := by omega
      rw [Binary.denominator, hzero]
    have hinteger : b.toRat = b.signedNumerator := by
      rw [b.toRat_eq_signedNumerator_div, hdenominator, Nat.cast_one, div_one]
    rwa [hinteger, Int.ceil_intCast, ← hinteger]
  · next hneg =>
    have hb := Binary.isCanonical_of_ofFloat? hform
    have hmantissa : (b.mantissa : ℚ) ≤ (2 ^ 53 : Int) := by exact_mod_cast hb.mantissa_lt.le
    have hunit : (2 : ℚ) ^ b.exponent ≤ 1 := by
      apply zpow_le_one_of_nonpos₀ (by norm_num) (Int.not_le.mp hneg).le
    have habs : |b.toRat| ≤ (2 ^ 53 : Int) := by
      rw [b.abs_toRat]
      exact (mul_le_of_le_one_right (Nat.cast_nonneg _) hunit).trans hmantissa
    rw [b.ceiling_eq]
    apply denotes_float_ofInt
    obtain ⟨hlow, hhigh⟩ := abs_le.mp habs
    rw [abs_le]
    constructor
    · have hceil : ((-2 ^ 53 : Int) : ℚ) ≤ ⌈b.toRat⌉ := by
        apply le_trans _ (Int.le_ceil _)
        exact_mod_cast hlow
      exact_mod_cast hceil
    · apply Int.ceil_le.mpr hhigh

/-! ### Quotients of integers -/

/-- The number of a binary form without a minus sign. -/
theorem Binary.toRat_eq_mul {b : Binary} (hsign : b.negative = false) :
  b.toRat = b.mantissa * 2 ^ b.exponent
  := by
  rw [toRat, sign, hsign]
  rfl

section

variable {n d : Nat} (hn : 0 < n) (hd : 0 < d) (hlt : n < 2 ^ 53) (hlt' : d < 2 ^ 53)

include hn hd hlt hlt'

/-- The first binary digit of a quotient is less than 54 places away from the point. -/
theorem log_div_bounds :
  -54 < Int.log 2 (n / d : ℚ) ∧ Int.log 2 (n / d : ℚ) < 53
  := by
  have hpos : (0 : ℚ) < n / d := by positivity
  constructor
  · apply lt_of_add_lt_add_right (a := 1)
    apply (zpow_lt_zpow_iff_right₀ (by norm_num : (1 : ℚ) < 2)).mp
    calc
      (2 : ℚ) ^ (-54 + 1 : Int) = 1 / 2 ^ 53 := by norm_num
      _ < 1 / d := by
        apply one_div_lt_one_div_of_lt (by positivity)
        exact_mod_cast hlt'
      _ ≤ n / d := by
        gcongr
        exact_mod_cast hn
      _ < 2 ^ (Int.log 2 (n / d : ℚ) + 1) := Int.lt_zpow_succ_log_self (by norm_num) _
  · apply (zpow_lt_zpow_iff_right₀ (by norm_num : (1 : ℚ) < 2)).mp
    calc
      (2 : ℚ) ^ Int.log 2 (n / d : ℚ) ≤ n / d := Int.zpow_log_le_self (by norm_num) hpos
      _ ≤ n := div_le_self (Nat.cast_nonneg n) (by exact_mod_cast hd)
      _ < 2 ^ (53 : Int) := by exact_mod_cast hlt

/-- The quotient of two integers below `2 ^ 53` rounds to a float. -/
theorem exists_roundsTo_div :
  ∃ b : Binary, b.IsCanonical ∧ 2 ^ 52 ≤ b.mantissa ∧ b.negative = false
    ∧ RoundsTo (n / d * 2 ^ (-b.exponent)) b.mantissa
  := by
  have hpos : (0 : ℚ) < n / d := by positivity
  have hlow : (2 : ℚ) ^ Int.log 2 (n / d : ℚ) ≤ n / d :=
    Int.zpow_log_le_self (by norm_num) hpos
  have hhigh : (n / d : ℚ) < 2 ^ (Int.log 2 (n / d : ℚ) + 1) :=
    Int.lt_zpow_succ_log_self (by norm_num) _
  obtain ⟨hl', hl⟩ := log_div_bounds hn hd hlt hlt'
  generalize Int.log 2 (n / d : ℚ) = l at hlow hhigh hl hl'
  -- the power of two that brings 53 digits before the point
  obtain ⟨k, hk⟩ : ∃ k : Nat, 52 - l = k := ⟨(52 - l).toNat, by omega⟩
  have hscaled : ((n * 2 ^ k : Nat) : ℚ) / d = n / d * 2 ^ (52 - l) := by
    rw [hk, zpow_natCast]
    push_cast
    ring
  have hlow' : 2 ^ 52 ≤ ((n * 2 ^ k : Nat) : ℚ) / d := by
    have hsplit : (2 : ℚ) ^ 52 = 2 ^ l * 2 ^ (52 - l) := by
      rw [← zpow_add₀ (by norm_num), add_sub_cancel, ← zpow_natCast]
      rfl
    rw [hscaled, hsplit]
    gcongr
  have hhigh' : ((n * 2 ^ k : Nat) : ℚ) / d < 2 ^ 53 := by
    have hsplit : (2 : ℚ) ^ 53 = 2 ^ (l + 1) * 2 ^ (52 - l) := by
      rw [← zpow_add₀ (by norm_num), ← zpow_natCast]
      congr 1
      omega
    rw [hscaled, hsplit]
    gcongr
  obtain ⟨m, j, hmlow, hmhigh, hj, hround⟩ :=
    (represents_quotient (n * 2 ^ k) hd).exists_roundsTo hlow' hhigh'
  use ⟨false, m, l - 52 + j⟩
  refine ⟨?_, hmlow, rfl, ?_⟩
  · constructor <;> dsimp only <;> omega
  · have hexponent : -(l - 52 + j) = 52 - l - j := by ring
    rwa [hscaled, mul_div_assoc, ← zpow_natCast, ← zpow_sub₀ (by norm_num), ← hexponent] at hround

omit hn hlt' in
/-- The float of a quotient and the quotient itself lie on the same side of every integer. -/
theorem toRat_le_iff {b : Binary} (hb : b.IsCanonical) (hnormal : 2 ^ 52 ≤ b.mantissa)
    (hsign : b.negative = false) (hround : RoundsTo (n / d * 2 ^ (-b.exponent)) b.mantissa)
    {c : Nat} (hc : 0 < c) (hc' : c ≤ 2 ^ 53) :
  b.toRat ≤ c ↔ (n / d : ℚ) ≤ c
  := by
  have hcast : (0 : ℚ) < d := by exact_mod_cast hd
  obtain ⟨a, ha, -, -, hvalue⟩ := exists_mul_eq hc hc'
  rw [Binary.toRat_eq_mul hsign, ← hvalue]
  constructor
  · intro hle
    obtain heq | hbelow := hle.eq_or_lt
    · -- what lies above the integer is at most half a unit of the float, which is less than one of
      -- the denominator
      by_contra! habove
      rw [hvalue, lt_div_iff₀ hcast] at habove
      rw [hvalue] at heq
      have hnext : (c * d + 1 : ℚ) ≤ n := by exact_mod_cast habove
      have hbound : (n : ℚ) < 2 ^ 53 := by exact_mod_cast hlt
      have hhigh := hround.le
      rw [add_mul, heq, div_le_iff₀ hcast, add_mul, mul_assoc] at hhigh
      have hunit : (2 : ℚ) ^ 52 * (2 ^ b.exponent * d) ≤ c * d := by
        rw [← heq, ← mul_assoc]
        gcongr
        exact_mod_cast hnormal
      linarith
    · exact (RoundsTo.lt_of_lt hb ha hbelow hround).le
  · intro hle
    by_contra! hgt
    have hhalf := (half_unit_le ha hb hgt).trans hround.ge
    have hunit : (0 : ℚ) < 2 ^ a.exponent := by positivity
    linarith

omit hlt' in
/-- Rounding up leads from the float of a quotient to the same integer as from the quotient. -/
theorem ceil_toRat {b : Binary} (hb : b.IsCanonical) (hnormal : 2 ^ 52 ≤ b.mantissa)
    (hsign : b.negative = false) (hround : RoundsTo (n / d * 2 ^ (-b.exponent)) b.mantissa) :
  ⌈b.toRat⌉ = ⌈(n / d : ℚ)⌉
  := by
  have hpos : (0 : ℚ) < b.toRat := by
    have hmantissa : 0 < b.mantissa := by omega
    rw [Binary.toRat_eq_mul hsign]
    positivity
  have hpos' : (0 : ℚ) < n / d := by positivity
  have hbound : (n / d : ℚ) ≤ (2 ^ 53 : Int) := by
    apply (div_le_self (Nat.cast_nonneg n) (by exact_mod_cast hd)).trans
    exact_mod_cast hlt.le
  -- the two numbers have the same integers above them
  have hiff : ∀ k : Int, 0 < k → k ≤ 2 ^ 53 → (b.toRat ≤ k ↔ (n / d : ℚ) ≤ k) := by
    intro k hk hk'
    lift k to Nat using hk.le
    exact_mod_cast toRat_le_iff hd hlt hb hnormal hsign hround (c := k) (by omega) (by omega)
  have hle : ⌈b.toRat⌉ ≤ ⌈(n / d : ℚ)⌉ := by
    apply Int.ceil_le.mpr
    rw [hiff _ (Int.ceil_pos.mpr hpos') (Int.ceil_le.mpr hbound)]
    apply Int.le_ceil
  apply le_antisymm hle
  apply Int.ceil_le.mpr
  rw [← hiff _ (Int.ceil_pos.mpr hpos) (hle.trans (Int.ceil_le.mpr hbound))]
  apply Int.le_ceil

end

/-- The quotient of two integers below `2 ^ 53`, rounded up, is that of exact arithmetic. -/
theorem denotes_ceiling_div {x y : Float} {n d : Nat} (hx : Denotes x n) (hy : Denotes y d)
    (hd : 0 < d) (hlt : n < 2 ^ 53) (hlt' : d < 2 ^ 53) :
  Denotes (roundWith Binary.ceiling (x / y)) ⌈(n / d : ℚ)⌉
  := by
  have hcast : (0 : ℚ) < d := by exact_mod_cast hd
  obtain rfl | hn := Nat.eq_zero_or_pos n
  · have hzero : Denotes (x / y) (0 : Int) := denotes_div hx hy hcast.ne' (by norm_num) (by simp)
    have hceil := denotes_ceiling hzero
    rw [Int.ceil_intCast] at hceil
    simpa using hceil
  · obtain ⟨b, hb, hnormal, hsign, hround⟩ := exists_roundsTo_div hn hd hlt hlt'
    have hquotient := div_eq_toFloat hb (by omega) hsign hx hy (by exact_mod_cast hn) hcast hround
    rw [hquotient, ← ceil_toRat hn hd hlt hb hnormal hsign hround]
    apply denotes_ceiling hb.denotes

end FieldFormula.Decimal
