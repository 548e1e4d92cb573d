import FieldFormula.Proofs.Decimal.Quotient
import FieldFormula.Proofs.Decimal.Reading

/-!
# Exact quotients

Where the quotient of two floats is an integer up to `2 ^ 53`, the division of floats computes it
without an error, and rounding it to an integer does not change it.

* `denotes_div`: exact quotients.
* `denotes_roundWith`: rounding an integer.
-/

namespace FieldFormula.Decimal

open Float.Model (UnpackedFloat)
open Float.Model.UnpackedFloat (Sign)

/-- The float of a positive integer is not among the least ones. -/
theorem two_le_mantissa_of_eq_natCast {b : Binary} (hb : b.IsCanonical) {n : Nat} (hn : 0 < n)
    (hvalue : (b.mantissa : ℚ) * 2 ^ b.exponent = n) :
  2 ≤ b.mantissa
  := by
  by_contra! hlt
  have hexponent : b.exponent = -1074 := hb.normal.resolve_left (by omega)
  have hmantissa : (b.mantissa : ℚ) ≤ 1 := by exact_mod_cast Nat.le_of_lt_succ hlt
  have hone : (1 : ℚ) ≤ n := by exact_mod_cast hn
  have hunit : (2 : ℚ) ^ b.exponent < 1 := zpow_lt_one_of_neg₀ (by norm_num) (by omega)
  have hsmall : (b.mantissa : ℚ) * 2 ^ b.exponent < 1 := by
    apply (mul_le_of_le_one_left (by positivity) hmantissa).trans_lt hunit
  linarith

theorem apply_eq_mul (s : Sign) (m : Nat) :
  ((s.apply m : Int) : ℚ) = (s.apply 1 : Int) * m
  := by
  cases s <;> simp [Sign.apply]

/-- The sign of a quotient is the product of the signs. -/
theorem eq_apply_mul_div {s s' : Sign} {m n : Nat} {a b k : ℚ} (hn : n * b ≠ 0)
    (h : (s.apply m : Int) * a = k * ((s'.apply n : Int) * b)) :
  k = ((s * s').apply 1 : Int) * (m * a / (n * b))
  := by
  have hself : ((s'.apply 1 : Int) : ℚ) * (s'.apply 1 : Int) = 1 := by
    cases s' <;> simp [Sign.apply]
  have hmul : (s * s').apply 1 = s.apply 1 * s'.apply 1 := apply_mul s s' 1 1
  rw [apply_eq_mul s m, apply_eq_mul s' n] at h
  rw [← mul_div_assoc, eq_div_iff hn, hmul, Int.cast_mul]
  calc
    k * (n * b) = (s'.apply 1 : Int) * (s'.apply 1 : Int) * (k * (n * b)) := by
      rw [hself, one_mul]
    _ = (s'.apply 1 : Int) * (k * ((s'.apply 1 : Int) * n * b)) := by ring
    _ = (s'.apply 1 : Int) * ((s.apply 1 : Int) * m * a) := by rw [h]
    _ = (s.apply 1 : Int) * (s'.apply 1 : Int) * (m * a) := by ring

/-- The quotient of two floats is exact if it is an integer up to `2 ^ 53`. -/
theorem HasValue.div {u v : UnpackedFloat} {p q : ℚ} (hu : HasValue u p) (hv : HasValue v q)
    (hq : q ≠ 0) {k : Int} (hk : |k| ≤ 2 ^ 53) (h : p = k * q) :
  HasValue (.div .binary64 u v) k
  := by
  cases hv with
  | zero s' => contradiction
  | finite s' n f hn _ =>
    cases hu with
    | zero s =>
      obtain rfl : k = 0 := by
        rw [zero_eq_mul] at h
        exact_mod_cast h.resolve_right hq
      rw [Int.cast_zero]
      apply HasValue.zero
    | finite s m e hm _ =>
      have hnonzero : (n : ℚ) * 2 ^ f ≠ 0 := by positivity
      have hquotient := eq_apply_mul_div hnonzero h
      have hone := abs_apply (s * s') 1
      rw [Nat.cast_one, Nat.cast_one] at hone
      have habs : (m : ℚ) * 2 ^ e / (n * 2 ^ f) = k.natAbs := by
        rw [Nat.cast_natAbs, Int.cast_abs, hquotient, abs_mul, hone, one_mul,
          abs_of_pos (by positivity)]
      have hpos : 0 < k.natAbs := by
        have hpos : (0 : ℚ) < m * 2 ^ e / (n * 2 ^ f) := by positivity
        rw [habs] at hpos
        exact_mod_cast hpos
      rw [Int.abs_eq_natAbs] at hk
      obtain ⟨b, hb, hmantissa, -, hvalue⟩ := exists_mul_eq hpos (by omega)
      have htwo := two_le_mantissa_of_eq_natCast hb hpos hvalue
      have hround := roundsTo_whole hvalue
      rw [← habs] at hround
      have hfinite := HasValue.finite (s * s') b.mantissa b.exponent hmantissa (hb.congr rfl rfl)
      rw [apply_eq_mul, mul_assoc, hvalue, ← habs, ← hquotient] at hfinite
      rw [unpackedDiv_eq hb htwo hm hn hround]
      apply hfinite

theorem denotes_div {x y : Float} {p q : ℚ} (hx : Denotes x p) (hy : Denotes y q) (hq : q ≠ 0)
    {k : Int} (hk : |k| ≤ 2 ^ 53) (h : p = k * q) :
  Denotes (x / y) k
  := by
  apply HasValue.denotes
  apply HasValue.div hx hy hq hk h

/-- An integer with a negative exponent is at most `2 ^ 53`. -/
theorem abs_le_of_exponent_neg {b : Binary} (hb : b.IsCanonical) (hneg : b.exponent < 0) {k : Int}
    (h : b.toRat = k) :
  |k| ≤ 2 ^ 53
  := by
  have hmagnitude := Binary.eq_natAbs_of_toRat_eq h
  have hmantissa : (b.mantissa : ℚ) ≤ (2 ^ 53 : Nat) := by exact_mod_cast hb.mantissa_lt.le
  have hunit : (2 : ℚ) ^ b.exponent ≤ 1 := zpow_le_one_of_nonpos₀ (by norm_num) hneg.le
  have hle : (k.natAbs : ℚ) ≤ (2 ^ 53 : Nat) := by
    rw [← hmagnitude]
    exact (mul_le_of_le_one_right (Nat.cast_nonneg _) hunit).trans hmantissa
  rw [Int.abs_eq_natAbs]
  exact_mod_cast hle

/-- Rounding an integer to an integer does not change it. -/
theorem denotes_roundWith {f : Binary → Int} {x : Float} {k : Int} (hx : Denotes x k)
    (hf : ∀ b : Binary, b.toRat = k → f b = k) :
  Denotes (roundWith f x) k
  := by
  obtain ⟨b, hform, hvalue⟩ := denotes_iff.mp hx
  simp only [roundWith, hform]
  split
  · apply hx
  · next hneg =>
    have hb := Binary.isCanonical_of_ofFloat? hform
    rw [hf b hvalue]
    apply denotes_float_ofInt (abs_le_of_exponent_neg hb (Int.not_le.mp hneg) hvalue)

end FieldFormula.Decimal
