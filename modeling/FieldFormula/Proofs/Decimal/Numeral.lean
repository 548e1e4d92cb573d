import FieldFormula.Proofs.Decimal.Digits
import FieldFormula.Proofs.Decimal.Exact

/-!
# The floats that numerals write

A numeral without a fraction writes the float nearest to its number: it is the canonical form
to which the number rounds.  Small numbers are multiplied as floats, without an error before the
last rounding, and large ones as natural numbers.

* `mul_eq_toFloat`: the product of two floats is rounded once.
* `nearest_eq`: the float nearest to a number is the one to which it rounds.
-/

namespace FieldFormula.Decimal

open Float.Model (UnpackedFloat)
open Float.Model.UnpackedFloat (Sign)

/-! ### Products -/

/-- A positive number is that of a positive mantissa. -/
theorem HasValue.exists_finite {u : UnpackedFloat} {q : ℚ} (h : HasValue u q) (hq : 0 < q) :
  ∃ m e hm, u = .finite .positive m e hm ∧ Binary.IsCanonical ⟨false, m, e⟩
    ∧ (m : ℚ) * 2 ^ e = q
  := by
  cases h with
  | zero s => cases hq.false
  | finite s m e hm h =>
    cases s with
    | negative =>
      rw [Sign.apply, Int.cast_neg, neg_mul, Int.cast_natCast] at hq
      have hpos : (0 : ℚ) < m * 2 ^ e := by positivity
      linarith
    | positive =>
      use m, e, hm, rfl, h
      rfl

theorem toFloat_of_positive {b : Binary} (hpos : 0 < b.mantissa) (hsign : b.negative = false) :
  b.toFloat = .ofModel (.pack (.finite .positive b.mantissa b.exponent hpos))
  := by
  simp only [Binary.toFloat, Binary.unpacked, dif_neg hpos.ne', Binary.sign, hsign,
    Bool.false_eq_true, if_false]

section

variable {b : Binary} (hb : b.IsCanonical) (hpos : 0 < b.mantissa) (hsign : b.negative = false)

include hb hpos hsign

/-- The product of two positive floats is rounded once. -/
theorem mul_eq_toFloat {x y : Float} {p q : ℚ} (hx : Denotes x p) (hy : Denotes y q) (hp : 0 < p)
    (hq : 0 < q) (hround : RoundsTo (p * q * 2 ^ (-b.exponent)) b.mantissa) :
  x * y = b.toFloat
  := by
  obtain ⟨m, e, hm, hu, h, rfl⟩ := HasValue.exists_finite hx hp
  obtain ⟨m', e', hm', hv, h', rfl⟩ := HasValue.exists_finite hy hq
  have hscaled : ((m * m' : Nat) : ℚ) * 2 ^ (e + e' - b.exponent)
      = m * 2 ^ e * (m' * 2 ^ e') * 2 ^ (-b.exponent) := by
    rw [sub_eq_add_neg, zpow_add₀ (by norm_num), zpow_add₀ (by norm_num)]
    push_cast
    ring
  have hproduct : UnpackedFloat.mul .binary64 x.toModel.unpack y.toModel.unpack
      = .finite .positive b.mantissa b.exponent hpos := by
    rw [hu, hv]
    apply roundWithAccuracy_eq hb hpos (represents_exact _) (Nat.mul_pos hm hm')
      (h.bits_mul h' hm hm')
    rw [hscaled]
    apply hround
  rw [toFloat_of_positive hpos hsign, ← hproduct]
  rfl

end

/-! ### Powers of ten -/

theorem checked_exactlyRepresentablePowersOfTen :
  ∀ k : Fin 23, (Binary.ofFloat? (Float.exactlyRepresentablePowersOfTen.getD k 0)).any
    (fun b => !b.negative && b.numerator == 10 ^ k.val * b.denominator) = true
  := by
  decide +kernel

/-- The floats in the table of powers of ten are the powers of ten. -/
theorem denotes_exactlyRepresentablePowersOfTen {k : Nat}
    (hk : k < Float.exactlyRepresentablePowersOfTen.size) :
  Denotes Float.exactlyRepresentablePowersOfTen[k] (10 ^ k)
  := by
  have hchecked := checked_exactlyRepresentablePowersOfTen ⟨k, hk⟩
  rw [Array.getD_eq_getD_getElem?, Array.getElem?_eq_getElem hk, Option.getD_some,
    Option.any_eq_true] at hchecked
  obtain ⟨b, hform, hb⟩ := hchecked
  rw [Bool.and_eq_true, Bool.not_eq_true', beq_iff_eq] at hb
  have hdenominator : (b.denominator : ℚ) ≠ 0 := by
    simp [Binary.denominator]
  apply denotes_iff.mpr
  use b, hform
  rw [Binary.toRat_eq_div hb.1, hb.2]
  push_cast
  apply mul_div_cancel_right₀ _ hdenominator

/-! ### Numerals -/

/-- A natural number up to `2 ^ 53` is that of a float. -/
theorem denotes_toUInt64 {m : Nat} (hle : m ≤ 2 ^ 53) :
  Denotes m.toUInt64.toFloat m
  := by
  have hnat : m.toUInt64.toNat = m := by
    rw [Nat.toUInt64, UInt64.toNat_ofNat']
    omega
  have hrepresentable : IsRepresentable m := by
    have habs : |(m : Int)| ≤ 2 ^ 53 := by
      rw [Nat.abs_cast]
      exact_mod_cast hle
    exact_mod_cast isRepresentable_intCast habs
  have hnormalize : HasValue (.ofUInt64 .binary64 m.toUInt64) m := by
    rw [UnpackedFloat.ofUInt64, hnat]
    apply hasValue_normalize hrepresentable
    rw [zpow_zero, mul_one, Int.cast_natCast]
  apply hnormalize.denotes

/-- A number that rounds to a float is not too large. -/
theorem lt_of_roundsTo {b : Binary} (hb : b.IsCanonical) {n : Nat}
    (hround : RoundsTo (n * 2 ^ (-b.exponent)) b.mantissa) :
  n < 10 ^ 309
  := by
  have hmantissa : ((b.mantissa + 1 : Nat) : ℚ) ≤ (2 ^ 53 : Nat) := by
    exact_mod_cast hb.mantissa_lt
  push_cast at hmantissa
  have hpow : (2 : ℚ) ^ b.exponent ≤ 2 ^ 971 := by
    rw [← zpow_natCast]
    apply zpow_le_zpow_right₀ (by norm_num) hb.exponent_le
  have hlimit : 2 ^ 53 * 2 ^ 971 < 10 ^ 309 := by decide +kernel
  have hlt : (n : ℚ) < 10 ^ 309 := by
    calc
      (n : ℚ) ≤ (b.mantissa + 1 / 2) * 2 ^ b.exponent := hround.le
      _ ≤ 2 ^ 53 * 2 ^ 971 := by
        gcongr
        linarith
      _ < 10 ^ 309 := by exact_mod_cast hlimit
  exact_mod_cast hlt

section

variable {b : Binary} (hb : b.IsCanonical) (hpos : 0 < b.mantissa) (hsign : b.negative = false)
  {m k : Nat} (hm : 0 < m) (hround : RoundsTo ((m * 10 ^ k : Nat) * 2 ^ (-b.exponent)) b.mantissa)

include hb hm hround

theorem digitCount_add_le :
  digitCount m + k ≤ 309
  := by
  have hlt := digitCount_le (lt_of_roundsTo hb hround)
  rwa [digitCount_of_pos (by positivity), toDigits_mul_pow hm, List.length_append,
    List.length_replicate, ← digitCount_of_pos hm] at hlt

include hpos hsign

theorem ofScientific_eq :
  Float.ofScientific m false k = b.toFloat
  := by
  have hdigits := digitCount_add_le hb hm hround
  rw [Float.ofScientific]
  split
  · next h =>
    apply mul_eq_toFloat hb hpos hsign (denotes_toUInt64 h.1.le)
      (denotes_exactlyRepresentablePowersOfTen _) (by positivity) (by positivity)
    exact_mod_cast hround
  · have hshift : 0 < m <<< 53 * 10 ^ k := by
      rw [Nat.shiftLeft_eq]
      positivity
    have hbits : 2 ^ 52 ≤ m <<< 53 * 10 ^ k ∨ (-53 + 0 : Int) ≤ -1074 := by
      left
      calc
        2 ^ 52 ≤ 1 * 2 ^ 53 * 1 := by norm_num
        _ ≤ m <<< 53 * 10 ^ k := by
          rw [Nat.shiftLeft_eq]
          gcongr
          · exact hm
          · exact Nat.one_le_pow _ _ (by decide)
    have hscaled : ((m <<< 53 * 10 ^ k : Nat) : ℚ) * 2 ^ (-53 + 0 - b.exponent)
        = (m * 10 ^ k : Nat) * 2 ^ (-b.exponent) := by
      rw [Nat.shiftLeft_eq, sub_eq_add_neg, zpow_add₀ (by norm_num)]
      push_cast
      norm_num
      ring
    have hlarge : ¬ (2 : Int) ^ 11 < Int.ofNat k := by
      simp only [Int.ofNat_eq_natCast]
      omega
    have hsmall : ¬ Int.ofNat k < -((2 : Int) ^ 11 + m.log2) := by
      simp only [Int.ofNat_eq_natCast]
      omega
    have hnonneg : 0 ≤ Int.ofNat k := Int.natCast_nonneg k
    have hunpacked : UnpackedFloat.ofScientific .binary64 m (Int.ofNat k)
        = .finite .positive b.mantissa b.exponent hpos := by
      rw [UnpackedFloat.ofScientific, dif_neg hm.ne', if_neg hlarge, if_neg hsmall,
        if_pos hnonneg]
      apply roundWithAccuracy_eq hb hpos (represents_exact _) hshift hbits
      rw [hscaled]
      apply hround
    rw [toFloat_of_positive hpos hsign, ← hunpacked]
    rfl

/-- The float nearest to a number is the one to which it rounds. -/
theorem nearest_eq :
  nearest m k = b.toFloat
  := by
  have hdigits := digitCount_add_le hb hm hround
  have hlarge : ¬ 400 < (digitCount m : Int) + k := by omega
  have hsmall : ¬ (digitCount m : Int) + k < -400 := by omega
  have hnonneg : ¬ (k : Int) < 0 := by omega
  rw [nearest, if_neg hm.ne', if_neg hlarge, if_neg hsmall, decide_eq_false hnonneg,
    Int.natAbs_natCast]
  apply ofScientific_eq hb hpos hsign hm hround

end

end FieldFormula.Decimal
