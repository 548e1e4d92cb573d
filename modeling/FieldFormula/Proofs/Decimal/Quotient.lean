import FieldFormula.Proofs.Decimal.Numeral

/-!
# The floats that decimal fractions write

A numeral with a fraction writes a quotient by a power of ten.  The division of two floats computes
the quotient of their mantissas to enough bits, keeps what is known of the remainder, and rounds
once.  So a numeral writes the float to which its number rounds, whether it has a fraction or not.

* `represents_quotient`: a quotient and its remainder have the bits of the exact quotient.
* `div_eq_toFloat`: the quotient of two floats is rounded once.
* `nearest_eq_toFloat`: the float nearest to a decimal is the one to which it rounds.
-/

namespace FieldFormula.Decimal

open Float.Model (UnpackedFloat)
open Float.Model.UnpackedFloat (ExtendedMantissa Sign accuracyOfFraction)

/-! ### Quotients of natural numbers -/

/-- A quotient and its remainder have the bits of the exact quotient. -/
theorem represents_quotient (n : Nat) {d : Nat} (hd : 0 < d) :
  Represents (.ofMantissaAndAccuracy (n / d) (accuracyOfFraction (n % d) d)) (n / d : ℚ)
  := by
  have hcast : (0 : ℚ) < d := by exact_mod_cast hd
  have hdiv : (n : ℚ) / d = (n / d : Nat) + (n % d : Nat) / d := by
    have hsum : ((n / d : Nat) : ℚ) * d + (n % d : Nat) = n := by
      exact_mod_cast Nat.div_add_mod' n d
    rw [← hsum]
    field_simp
  have hlt : ((n % d : Nat) : ℚ) / d < 1 := by
    rw [div_lt_one hcast]
    exact_mod_cast Nat.mod_lt n hd
  rw [hdiv, accuracyOfFraction]
  split
  · next hzero =>
    rw [hzero, Nat.cast_zero, zero_div, add_zero]
    apply represents_exact
  · next hne =>
    have hpos : (0 : ℚ) < (n % d : Nat) / d := by
      have hrest : 0 < n % d := Nat.pos_of_ne_zero hne
      positivity
    obtain hhalf | hhalf | hhalf := Nat.lt_trichotomy (2 * (n % d)) d
    · have hbelow : ((n % d : Nat) : ℚ) / d < 1 / 2 := by
        rw [div_lt_div_iff₀ hcast (by norm_num)]
        exact_mod_cast (by omega : n % d * 2 < 1 * d)
      rw [compare_lt_iff_lt.mpr hhalf]
      constructor <;> linarith
    · have heq : ((n % d : Nat) : ℚ) / d = 1 / 2 := by
        rw [div_eq_div_iff hcast.ne' (by norm_num)]
        exact_mod_cast (by omega : n % d * 2 = 1 * d)
      rw [compare_eq_iff_eq.mpr hhalf, heq]
      rfl
    · have habove : 1 / 2 < ((n % d : Nat) : ℚ) / d := by
        rw [div_lt_div_iff₀ (by norm_num) hcast]
        exact_mod_cast (by omega : 1 * d < n % d * 2)
      rw [compare_gt_iff_gt.mpr hhalf]
      constructor <;> linarith

/-- A quotient that is shifted far enough has as many bits as a canonical mantissa. -/
theorem le_shiftLeft_div {m n k : Nat} (hm : 0 < m) (hn : 0 < n) (hk : n.log2 + 53 ≤ m.log2 + k) :
  2 ^ 52 ≤ m <<< k / n
  := by
  have hlow : 2 ^ m.log2 ≤ m := Nat.log2_self_le hm.ne'
  have hhigh : n < 2 ^ (n.log2 + 1) := Nat.lt_log2_self
  rw [Nat.le_div_iff_mul_le hn, Nat.shiftLeft_eq]
  calc
    2 ^ 52 * n ≤ 2 ^ 52 * 2 ^ (n.log2 + 1) := by gcongr
    _ = 2 ^ (n.log2 + 53) := by ring
    _ ≤ 2 ^ (m.log2 + k) := Nat.pow_le_pow_right (by decide) hk
    _ = 2 ^ m.log2 * 2 ^ k := pow_add 2 m.log2 k
    _ ≤ m * 2 ^ k := by gcongr

/-! ### Quotients of floats -/

/-- Mantissas are divided in the last place of the quotient that the format keeps. -/
theorem divCore_eq {m n k : Nat} {e f target : Int}
    (htarget : min (e - f) (max (m.log2 + e - (n.log2 + f) - 53) (-1074)) = target)
    (hk : e - f - target = k) :
  UnpackedFloat.divCore .binary64 m e n f
    = (m <<< k / n, target, accuracyOfFraction (m <<< k % n) n)
  := by
  have hexponent : min (e - f) (Float.Model.Format.binary64.targetExponent
      (Float.Model.totalExponent m e - Float.Model.totalExponent n f)) = target := by
    rw [← htarget, Float.Model.Format.targetExponent, Float.Model.totalExponent,
      Float.Model.totalExponent]
    have hbits : (Float.Model.Format.binary64.mantissaBits : Int) = 53 := rfl
    have hmin : Float.Model.Format.binary64.minExponent = -1074 := rfl
    rw [hbits, hmin]
    congr 2
    ring
  have hshift : (e - f - target).toNat = k := by omega
  simp only [UnpackedFloat.divCore, hexponent, hshift]

section

variable {b : Binary} (hb : b.IsCanonical) (htwo : 2 ≤ b.mantissa)

include htwo

/-- A quotient without bits rounds to less than two units. -/
theorem div_pos_of_roundsTo {m n : Nat} (hn : 0 < n) {t : Int} (ht : t ≤ 0)
    (hround : RoundsTo (m / n * 2 ^ t) b.mantissa) :
  0 < m / n
  := by
  rw [Nat.pos_iff_ne_zero]
  intro hzero
  have hlt : (m : ℚ) / n < 1 := by
    rw [div_lt_one (by positivity)]
    exact_mod_cast Nat.lt_of_div_eq_zero hn hzero
  have hquotient : (m : ℚ) / n * 2 ^ t ≤ 1 := by
    apply mul_le_one₀ hlt.le (by positivity)
    apply zpow_le_one_of_nonpos₀ (by norm_num) ht
  have hlow := hround.low
  have hmantissa : (2 : ℚ) ≤ b.mantissa := by exact_mod_cast htwo
  split at hlow <;> linarith

include hb

/-- The quotient of two mantissas is rounded once. -/
theorem unpackedDiv_eq {m n : Nat} {e f : Int} (hm : 0 < m) (hn : 0 < n)
    (hround : RoundsTo (m * 2 ^ e / (n * 2 ^ f) * 2 ^ (-b.exponent)) b.mantissa) (s s' : Sign) :
  UnpackedFloat.div .binary64 (.finite s m e hm) (.finite s' n f hn)
    = .finite (s * s') b.mantissa b.exponent (by omega)
  := by
  obtain ⟨target, htarget⟩ : ∃ target,
      min (e - f) (max (m.log2 + e - (n.log2 + f) - 53 : Int) (-1074)) = target := ⟨_, rfl⟩
  obtain ⟨k, hk⟩ : ∃ k : Nat, e - f - target = k := ⟨(e - f - target).toNat, by omega⟩
  have hscaled : ((m <<< k : Nat) : ℚ) / n * 2 ^ (target - b.exponent)
      = m * 2 ^ e / (n * 2 ^ f) * 2 ^ (-b.exponent) := by
    have hsplit : target - b.exponent = e + -f + -(k : Int) + -b.exponent := by omega
    rw [Nat.shiftLeft_eq, hsplit, zpow_add₀ (by norm_num), zpow_add₀ (by norm_num),
      zpow_add₀ (by norm_num), zpow_neg _ f, zpow_neg _ (k : Int), zpow_natCast]
    push_cast
    field_simp
  rw [← hscaled] at hround
  have hbits : 2 ^ 52 ≤ m <<< k / n ∨ target ≤ -1074 := by
    by_cases hsmall : target ≤ -1074
    · exact Or.inr hsmall
    · left
      apply le_shiftLeft_div hm hn
      omega
  have hpos : 0 < m <<< k / n := by
    obtain hlarge | hsmall := hbits
    · omega
    · have hle := hb.le_exponent
      apply div_pos_of_roundsTo htwo hn (by omega) hround
  simp only [UnpackedFloat.div, divCore_eq htarget hk]
  exact roundWithAccuracy_eq hb (by omega) (represents_quotient _ hn) hpos hbits hround _

/-- The quotient of two positive floats is rounded once. -/
theorem div_eq_toFloat (hsign : b.negative = false) {x y : Float} {p q : ℚ} (hx : Denotes x p)
    (hy : Denotes y q) (hp : 0 < p) (hq : 0 < q)
    (hround : RoundsTo (p / q * 2 ^ (-b.exponent)) b.mantissa) :
  x / y = b.toFloat
  := by
  obtain ⟨m, e, hm, hu, h, rfl⟩ := HasValue.exists_finite hx hp
  obtain ⟨m', e', hm', hv, h', rfl⟩ := HasValue.exists_finite hy hq
  have hquotient := unpackedDiv_eq hb htwo hm hm' hround .positive .positive
  rw [← hu, ← hv] at hquotient
  rw [toFloat_of_positive (by omega) hsign]
  exact congrArg (fun u => Float.ofModel (Float.Model.pack u)) hquotient

end

/-! ### Decimals -/

/-- Decimals that round to a float are bounded by the smallest and the largest float. -/
theorem RoundsTo.bounds {b : Binary} (hb : b.IsCanonical) (hpos : 0 < b.mantissa) {x : ℚ}
    (hround : RoundsTo (x * 2 ^ (-b.exponent)) b.mantissa) :
  1 < x * 10 ^ 324 ∧ x < 10 ^ 309
  := by
  have hmantissa : (1 : ℚ) ≤ b.mantissa := by exact_mod_cast hpos
  have hmantissa' : ((b.mantissa + 1 : Nat) : ℚ) ≤ (2 ^ 53 : Nat) := by
    exact_mod_cast hb.mantissa_lt
  push_cast at hmantissa'
  constructor
  · have hlimit : 2 * 2 ^ 1074 < 10 ^ 324 := by decide +kernel
    have hunit : ((2 : ℚ) ^ 1074)⁻¹ ≤ 2 ^ b.exponent := by
      rw [← zpow_natCast, ← zpow_neg]
      apply zpow_le_zpow_right₀ (by norm_num) hb.le_exponent
    have hhalf : (1 / 2 : ℚ) ≤ b.mantissa - (if b.mantissa = 2 ^ 52 then 1 / 4 else 1 / 2) := by
      split <;> linarith
    calc
      (1 : ℚ) = 1 / 2 * ((2 : ℚ) ^ 1074)⁻¹ * (2 * 2 ^ 1074) := by field_simp
      _ < 1 / 2 * ((2 : ℚ) ^ 1074)⁻¹ * 10 ^ 324 := by
        gcongr
        exact_mod_cast hlimit
      _ ≤ (b.mantissa - (if b.mantissa = 2 ^ 52 then 1 / 4 else 1 / 2)) * 2 ^ b.exponent
          * 10 ^ 324 := by gcongr
      _ ≤ x * 10 ^ 324 := by
        gcongr
        apply hround.ge
  · have hlimit : 2 ^ 53 * 2 ^ 971 < 10 ^ 309 := by decide +kernel
    have hunit : (2 : ℚ) ^ b.exponent ≤ 2 ^ 971 := by
      rw [← zpow_natCast]
      apply zpow_le_zpow_right₀ (by norm_num) hb.exponent_le
    calc
      x ≤ (b.mantissa + 1 / 2) * 2 ^ b.exponent := hround.le
      _ ≤ 2 ^ 53 * 2 ^ 971 := by
        gcongr
        linarith
      _ < 10 ^ 309 := by exact_mod_cast hlimit

section

variable {b : Binary} (hb : b.IsCanonical) {m k : Nat}
  (hround : RoundsTo (m * 10 ^ (-(k : Int)) * 2 ^ (-b.exponent)) b.mantissa)

include hb hround

/-- A decimal that rounds to a float has about as many digits as places. -/
theorem digitCount_sub_bounds (hpos : 0 < b.mantissa) :
  k < digitCount m + 324 ∧ digitCount m ≤ k + 309
  := by
  obtain ⟨hlow, hhigh⟩ := hround.bounds hb hpos
  rw [zpow_neg, zpow_natCast, ← div_eq_mul_inv] at hlow hhigh
  rw [div_mul_eq_mul_div, one_lt_div (by positivity)] at hlow
  rw [div_lt_iff₀ (by positivity)] at hhigh
  have hlow : 10 ^ k < m * 10 ^ 324 := by exact_mod_cast hlow
  have hhigh : m < 10 ^ 309 * 10 ^ k := by exact_mod_cast hhigh
  constructor
  · apply (Nat.pow_lt_pow_iff_right (by decide : 1 < 10)).mp
    apply hlow.trans
    rw [pow_add]
    gcongr
    apply lt_pow_digitCount
  · apply digitCount_le
    rwa [add_comm, pow_add]

/-- The float of a decimal fraction is the one to which the fraction rounds. -/
theorem ofScientific_neg_eq (htwo : 2 ≤ b.mantissa) (hsign : b.negative = false) (hm : 0 < m)
    (hk : 0 < k) :
  Float.ofScientific m true k = b.toFloat
  := by
  obtain ⟨hplaces, -⟩ := digitCount_sub_bounds hb hround (by omega)
  have hlog := digitCount_le_log2 m
  rw [zpow_neg, zpow_natCast, ← div_eq_mul_inv] at hround
  rw [Float.ofScientific]
  split
  · next h =>
    exact div_eq_toFloat hb htwo hsign (denotes_toUInt64 h.1.le)
      (denotes_exactlyRepresentablePowersOfTen _) (by positivity) (by positivity) hround
  · next h =>
    have hquotient : RoundsTo ((m : ℚ) * 2 ^ (0 : Int) / ((10 ^ k : Nat) * 2 ^ (0 : Int))
        * 2 ^ (-b.exponent)) b.mantissa := by
      rw [zpow_zero, mul_one, mul_one, Nat.cast_pow]
      exact_mod_cast hround
    have hsmall : ¬ Int.negOfNat k < -((2 : Int) ^ 11 + m.log2) := by
      rw [Int.negOfNat_eq, Int.ofNat_eq_natCast]
      omega
    have hlarge : ¬ (2 : Int) ^ 11 < Int.negOfNat k := by
      rw [Int.negOfNat_eq, Int.ofNat_eq_natCast]
      omega
    have hunpacked : UnpackedFloat.ofScientific .binary64 m (Int.negOfNat k)
        = .finite .positive b.mantissa b.exponent (by omega) := by
      have hneg : ¬ 0 ≤ Int.negOfNat k := by
        rw [Int.negOfNat_eq, Int.ofNat_eq_natCast]
        omega
      have hplaces : (-Int.negOfNat k).toNat = k := by
        rw [Int.negOfNat_eq, neg_neg]
        rfl
      rw [UnpackedFloat.ofScientific, dif_neg hm.ne', if_neg hlarge, if_neg hsmall, if_neg hneg]
      simp only [hplaces]
      exact unpackedDiv_eq hb htwo hm (Nat.pow_pos (by decide)) hquotient .positive .positive
    rw [toFloat_of_positive (by omega) hsign, ← hunpacked]
    rfl

end

/-- The float nearest to a decimal is the one to which it rounds. -/
theorem nearest_eq_toFloat {b : Binary} (hb : b.IsCanonical) (htwo : 2 ≤ b.mantissa)
    (hsign : b.negative = false) {m : Nat} (hm : 0 < m) {e : Int}
    (hround : RoundsTo (m * 10 ^ e * 2 ^ (-b.exponent)) b.mantissa) :
  nearest m e = b.toFloat
  := by
  obtain ⟨k, rfl | rfl⟩ := e.eq_nat_or_neg
  · apply nearest_eq hb (by omega) hsign hm
    rw [zpow_natCast] at hround
    exact_mod_cast hround
  · obtain rfl | hk := Nat.eq_zero_or_pos k
    · apply nearest_eq hb (by omega) hsign hm
      rw [Nat.cast_zero, neg_zero, zpow_zero, mul_one] at hround
      rwa [pow_zero, mul_one]
    · have hbounds := digitCount_sub_bounds hb hround (by omega)
      rw [nearest, if_neg hm.ne', if_neg (by omega), if_neg (by omega), decide_eq_true (by omega),
        Int.natAbs_neg, Int.natAbs_natCast]
      apply ofScientific_neg_eq hb hround htwo hsign hm hk

end FieldFormula.Decimal
