import FieldFormula.Proofs.Decimal.Nearest

/-!
# Exact arithmetic on floats

A finite float stands for a rational number, and zero has two floats.  Where the sum, the
difference or the product of two such numbers is again that of a float, arithmetic on floats
computes it without an error.  All integers up to `2 ^ 53` are numbers of floats.

* `Denotes`: the rational number of a finite float.
* `denotes_add`, `denotes_sub`, `denotes_mul`: exact sums, differences and products.
* `isRepresentable_intCast`: integers up to `2 ^ 53` are numbers of floats.
-/

namespace FieldFormula.Decimal

open Float.Model (UnpackedFloat)
open Float.Model.UnpackedFloat (Sign)

/-! ### Numbers of floats -/

/-- The rational number of an unpacked float in canonical form. -/
inductive HasValue : UnpackedFloat → ℚ → Prop
  | zero (s : Sign) : HasValue (.zero s) 0
  | finite (s : Sign) (m : Nat) (e : Int) (hm : 0 < m)
      (h : Binary.IsCanonical ⟨Binary.isMinus s, m, e⟩) :
      HasValue (.finite s m e hm) ((s.apply m : Int) * 2 ^ e)

/-- The float is finite and stands for the rational number. -/
def Denotes (x : Float) (q : ℚ) : Prop :=
  HasValue x.toModel.unpack q

/-- There is a canonical form of which the number is the magnitude, up to its sign. -/
def IsRepresentable (q : ℚ) : Prop :=
  ∃ b : Binary, b.IsCanonical ∧ (b.mantissa : ℚ) * 2 ^ b.exponent = |q|

/-- The sign has no part in being canonical. -/
theorem Binary.IsCanonical.congr {b c : Binary} (hb : b.IsCanonical)
    (hmantissa : c.mantissa = b.mantissa) (hexponent : c.exponent = b.exponent) :
  c.IsCanonical
  := by
  obtain ⟨hlt, hle, hge, hnormal⟩ := hb
  rw [← hmantissa, ← hexponent] at *
  use hlt, hle, hge, hnormal

theorem isCanonical_zero (negative : Bool) :
  Binary.IsCanonical ⟨negative, 0, -1074⟩
  := by
  constructor <;> simp

/-- The rational number of a binary form. -/
def Binary.toRat (b : Binary) : ℚ :=
  (b.sign.apply b.mantissa : Int) * 2 ^ b.exponent

theorem Binary.toRat_of_mantissa {b : Binary} (h : b.mantissa = 0) :
  b.toRat = 0
  := by
  cases hs : b.sign <;> simp [toRat, h, hs, Sign.apply]

theorem hasValue_iff {u : UnpackedFloat} {q : ℚ} :
  HasValue u q ↔ ∃ b : Binary, b.IsCanonical ∧ u = b.unpacked ∧ b.toRat = q
  := by
  constructor
  · intro h
    cases h with
    | zero s =>
      use ⟨Binary.isMinus s, 0, -1074⟩, isCanonical_zero _, Binary.unpacked_of_ofUnpacked? rfl
      apply Binary.toRat_of_mantissa rfl
    | finite s m e hm h =>
      use ⟨Binary.isMinus s, m, e⟩, h, Binary.unpacked_of_ofUnpacked? rfl
      rw [Binary.toRat, Binary.sign_isMinus]
  · rintro ⟨b, hb, rfl, rfl⟩
    unfold Binary.unpacked
    split
    · next h =>
      rw [Binary.toRat_of_mantissa h]
      apply HasValue.zero
    · apply HasValue.finite
      rw [Binary.isMinus_sign]
      apply hb

/-- A float denotes a number exactly when its binary form does. -/
theorem denotes_iff {x : Float} {q : ℚ} :
  Denotes x q ↔ ∃ b, Binary.ofFloat? x = some b ∧ b.toRat = q
  := by
  rw [Denotes, hasValue_iff]
  apply exists_congr
  intro b
  rw [Binary.ofFloat?_eq]
  constructor
  · rintro ⟨hb, hunpack, hq⟩
    rw [hunpack, Binary.ofUnpacked?_unpacked hb]
    use rfl, hq
  · rintro ⟨hform, hq⟩
    rw [← Binary.ofFloat?_eq] at hform
    use Binary.isCanonical_of_ofFloat? hform
    rw [Binary.ofFloat?_eq] at hform
    use Binary.unpacked_of_ofUnpacked? hform, hq

theorem Binary.IsCanonical.denotes {b : Binary} (hb : b.IsCanonical) :
  Denotes b.toFloat b.toRat
  := denotes_iff.mpr ⟨b, ofFloat?_eq_some_iff.mpr ⟨hb, rfl⟩, rfl⟩

/-- Packing keeps the number. -/
theorem HasValue.denotes {u : UnpackedFloat} {q : ℚ} (h : HasValue u q) :
  Denotes (.ofModel (.pack u)) q
  := by
  obtain ⟨b, hb, rfl, rfl⟩ := hasValue_iff.mp h
  apply hb.denotes

/-! ### Numbers as fractions -/

/-- An integer power of a positive base as a fraction of natural powers. -/
theorem zpow_eq_div {a : ℚ} (ha : 0 < a) (e : Int) :
  a ^ e = a ^ e.toNat / a ^ (-e).toNat
  := by
  rw [← zpow_natCast, ← zpow_natCast, ← zpow_sub₀ ha.ne', Int.toNat_sub_toNat_neg]

/-- A binary number is its numerator over its denominator. -/
theorem Binary.toRat_eq_signedNumerator_div (b : Binary) :
  b.toRat = b.signedNumerator / b.denominator
  := by
  rw [toRat, sign, zpow_eq_div (by norm_num), signedNumerator, numerator, denominator]
  cases b.negative <;> simp [Sign.apply, mul_div_assoc, neg_div]

theorem Binary.toRat_eq_div {b : Binary} (hsign : b.negative = false) :
  b.toRat = b.numerator / b.denominator
  := by
  rw [toRat_eq_signedNumerator_div, signedNumerator, hsign]
  simp

theorem Binary.denominator_pos (b : Binary) :
  0 < b.denominator
  := Nat.pow_pos (by decide)

/-- The numerator of an integer is a multiple of the denominator. -/
theorem Binary.signedNumerator_eq {b : Binary} {k : Int} (h : b.toRat = k) :
  b.signedNumerator = k * b.denominator
  := by
  have hdenominator : (b.denominator : ℚ) ≠ 0 := by exact_mod_cast b.denominator_pos.ne'
  rw [toRat_eq_signedNumerator_div, div_eq_iff hdenominator] at h
  exact_mod_cast h

/-- Whether a float is an integer can be read off its binary form. -/
theorem denotes_of_any {x : Float} {k : Int}
    (h : (Binary.ofFloat? x).any (fun b => b.signedNumerator == k * b.denominator) = true) :
  Denotes x k
  := by
  obtain ⟨b, hform, hnumerator⟩ := (Option.any_eq_true _ _).mp h
  have hdenominator : (b.denominator : ℚ) ≠ 0 := by exact_mod_cast b.denominator_pos.ne'
  apply denotes_iff.mpr ⟨b, hform, _⟩
  rw [b.toRat_eq_signedNumerator_div, div_eq_iff hdenominator]
  exact_mod_cast beq_iff_eq.mp hnumerator

/-- An integer is not changed by dropping a fraction. -/
theorem Binary.truncate_eq {b : Binary} {k : Int} (h : b.toRat = k) :
  b.truncate = k
  := by
  have hdenominator : (b.denominator : Int) ≠ 0 := by exact_mod_cast b.denominator_pos.ne'
  rw [truncate, signedNumerator_eq h, Int.mul_tdiv_cancel _ hdenominator]

/-- An integer is recognized as one. -/
theorem Binary.isInteger_eq {b : Binary} {k : Int} (h : b.toRat = k) :
  b.isInteger = true
  := by
  have habs : b.numerator = b.signedNumerator.natAbs := by
    rw [signedNumerator]
    cases b.negative <;> simp
  rw [isInteger, habs, signedNumerator_eq h, Int.natAbs_mul, Int.natAbs_natCast,
    Nat.mul_mod_left, beq_self_eq_true]

/-- Dropping a fraction does not lead away from zero. -/
theorem Binary.abs_truncate_le (b : Binary) :
  |(b.truncate : ℚ)| ≤ |b.toRat|
  := by
  have hdenominator : |(b.denominator : ℚ)| = b.denominator := abs_of_nonneg (Nat.cast_nonneg _)
  have hnatAbs : b.truncate.natAbs = b.signedNumerator.natAbs / b.denominator := by
    apply Int.natAbs_tdiv
  rw [toRat_eq_signedNumerator_div, abs_div, hdenominator, ← Int.cast_abs, ← Int.cast_abs,
    Int.abs_eq_natAbs, Int.abs_eq_natAbs, hnatAbs, Int.cast_natCast, Int.cast_natCast]
  apply Nat.cast_div_le

/-- An integer is not changed by rounding it down. -/
theorem Binary.floor_eq {b : Binary} {k : Int} (h : b.toRat = k) :
  b.floor = k
  := by
  have hdenominator : (b.denominator : Int) ≠ 0 := by exact_mod_cast b.denominator_pos.ne'
  rw [floor, signedNumerator_eq h, Int.mul_fdiv_cancel _ hdenominator]

/-! ### Rounding of exact results -/

theorem abs_apply (s : Sign) (m : Nat) :
  |((s.apply m : Int) : ℚ)| = m
  := by
  cases s <;> simp [Sign.apply]

theorem Binary.abs_toRat (b : Binary) :
  |b.toRat| = b.mantissa * 2 ^ b.exponent
  := by
  rw [toRat, abs_mul, abs_apply, abs_of_pos (by positivity : (0 : ℚ) < 2 ^ b.exponent)]

section

variable {q : ℚ} (hq : IsRepresentable q) {s : Sign} {m : Nat} {e : Int} (hm : 0 < m)
  (h : ((s.apply m : Int) : ℚ) * 2 ^ e = q)

include hq hm h

/-- The canonical form of a number to which a mantissa and an exponent belong. -/
theorem exists_isCanonical :
  ∃ (b : Binary) (hpos : 0 < b.mantissa), b.IsCanonical
    ∧ (m : ℚ) * 2 ^ (e - b.exponent) = b.mantissa
    ∧ HasValue (.finite s b.mantissa b.exponent hpos) q
  := by
  obtain ⟨b, hb, hmagnitude⟩ := hq
  have hvalue : (b.mantissa : ℚ) * 2 ^ b.exponent = m * 2 ^ e := by
    rw [hmagnitude, ← h, abs_mul, abs_apply, abs_of_pos (by positivity : (0 : ℚ) < 2 ^ e)]
  have hscaled : (m : ℚ) * 2 ^ (e - b.exponent) = b.mantissa := by
    rw [zpow_sub₀ (by norm_num), ← mul_div_assoc, ← hvalue]
    apply mul_div_cancel_right₀
    positivity
  have hpos : 0 < b.mantissa := by
    have hcast : (0 : ℚ) < b.mantissa := by
      rw [← hscaled]
      positivity
    exact_mod_cast hcast
  have hsigned : ((s.apply b.mantissa : Int) : ℚ) * 2 ^ b.exponent = q := by
    rw [← h]
    cases s <;> simp [Sign.apply, hvalue]
  use b, hpos, hb, hscaled
  rw [← hsigned]
  apply HasValue.finite
  exact hb.congr rfl rfl

/-- A number of a float is not changed by rounding. -/
theorem hasValue_round :
  HasValue (.round .binary64 s m e) q
  := by
  obtain ⟨b, hpos, hb, hscaled, hvalue⟩ := exists_isCanonical hq hm h
  rw [round_eq hb hpos hm (by rw [hscaled]; apply roundsTo_self)]
  apply hvalue

/-- A number of a float is not changed by rounding, as long as the mantissa has as many bits as
that of the float. -/
theorem hasValue_roundWithAccuracy (hbits : 2 ^ 52 ≤ m ∨ e ≤ -1074) :
  HasValue (.roundWithAccuracy .binary64 s m e .exact) q
  := by
  obtain ⟨b, hpos, hb, hscaled, hvalue⟩ := exists_isCanonical hq hm h
  rw [roundWithAccuracy_eq hb hpos (represents_exact m) hm hbits
    (by rw [hscaled]; apply roundsTo_self)]
  apply hvalue

end

theorem hasValue_normalize {q : ℚ} (hq : IsRepresentable q) {m e : Int} (h : (m : ℚ) * 2 ^ e = q)
    (s : Sign) :
  HasValue (.normalize .binary64 m e s) q
  := by
  obtain hneg | rfl | hpos := Int.lt_trichotomy m 0
  · have hcompare : compare m 0 = .lt := compare_lt_iff_lt.mpr hneg
    have hvalue : ((Sign.negative.apply ((-m).toNat : Nat) : Int) : ℚ) * 2 ^ e = q := by
      rw [Sign.apply, Int.toNat_of_nonneg (by omega), neg_neg, h]
    rw [UnpackedFloat.normalize, hcompare]
    apply hasValue_round hq (by omega) hvalue
  · rw [Int.cast_zero, zero_mul] at h
    rw [← h]
    apply HasValue.zero
  · have hcompare : compare m 0 = .gt := compare_gt_iff_gt.mpr hpos
    have hvalue : ((Sign.positive.apply (m.toNat : Nat) : Int) : ℚ) * 2 ^ e = q := by
      rw [Sign.apply, Int.toNat_of_nonneg (by omega), h]
    rw [UnpackedFloat.normalize, hcompare]
    apply hasValue_round hq (by omega) hvalue

/-! ### Exact operations -/

theorem apply_neg (s : Sign) (n : Int) :
  (-s).apply n = -s.apply n
  := by
  cases s
  · apply (neg_neg n).symm
  · rfl

theorem apply_mul (s s' : Sign) (n n' : Int) :
  (s * s').apply (n * n') = s.apply n * s'.apply n'
  := by
  cases s <;> cases s'
  · apply (neg_mul_neg n n').symm
  · apply (neg_mul n n').symm
  · apply (mul_neg n n').symm
  · rfl

theorem HasValue.neg {u : UnpackedFloat} {q : ℚ} (h : HasValue u q) :
  HasValue u.neg (-q)
  := by
  cases h with
  | zero s =>
    rw [neg_zero]
    apply HasValue.zero
  | finite s m e hm h =>
    have hneg : -(((s.apply m : Int) : ℚ) * 2 ^ e) = ((-s).apply m : Int) * 2 ^ e := by
      rw [apply_neg, Int.cast_neg, neg_mul]
    rw [hneg]
    apply HasValue.finite
    exact h.congr rfl rfl

/-- A mantissa that is moved to a smaller exponent. -/
theorem apply_shiftLeft_mul (s : Sign) (m : Nat) {e target : Int} (hle : target ≤ e) :
  ((s.apply (m <<< (e - target).toNat : Nat) : Int) : ℚ) * 2 ^ target = (s.apply m : Int) * 2 ^ e
  := by
  have hpow : (2 : ℚ) ^ e = 2 ^ (e - target).toNat * 2 ^ target := by
    rw [← zpow_natCast, ← zpow_add₀ (by norm_num)]
    congr 1
    omega
  rw [Nat.shiftLeft_eq, hpow]
  cases s <;> simp [Sign.apply] <;> ring

theorem HasValue.add {u v : UnpackedFloat} {p q : ℚ} (hu : HasValue u p) (hv : HasValue v q)
    (hsum : IsRepresentable (p + q)) :
  HasValue (.add .binary64 u v) (p + q)
  := by
  cases hu with
  | zero s =>
    rw [zero_add]
    cases hv with
    | zero s' =>
      rw [UnpackedFloat.add]
      split <;> apply HasValue.zero
    | finite s' m e hm h => apply HasValue.finite _ _ _ hm h
  | finite s m e hm h =>
    cases hv with
    | zero s' =>
      rw [add_zero]
      apply HasValue.finite _ _ _ hm h
    | finite s' m' e' hm' h' =>
      rw [UnpackedFloat.add]
      apply hasValue_normalize hsum
      rw [Int.cast_add, add_mul, apply_shiftLeft_mul s m (min_le_left e e'),
        apply_shiftLeft_mul s' m' (min_le_right e e')]

/-- The product of two canonical mantissas has as many bits as a canonical mantissa. -/
theorem Binary.IsCanonical.bits_mul {b c : Binary} (hb : b.IsCanonical) (hc : c.IsCanonical)
    (hbpos : 0 < b.mantissa) (hcpos : 0 < c.mantissa) :
  2 ^ 52 ≤ b.mantissa * c.mantissa ∨ b.exponent + c.exponent ≤ -1074
  := by
  obtain hlarge | hsmall := hb.normal
  · left
    apply hlarge.trans (Nat.le_mul_of_pos_right _ hcpos)
  · obtain hlarge | hsmall' := hc.normal
    · left
      apply hlarge.trans (Nat.le_mul_of_pos_left _ hbpos)
    · right
      omega

theorem HasValue.mul {u v : UnpackedFloat} {p q : ℚ} (hu : HasValue u p) (hv : HasValue v q)
    (hproduct : IsRepresentable (p * q)) :
  HasValue (.mul .binary64 u v) (p * q)
  := by
  cases hu with
  | zero s =>
    rw [zero_mul]
    cases hv <;> apply HasValue.zero
  | finite s m e hm h =>
    cases hv with
    | zero s' =>
      rw [mul_zero]
      apply HasValue.zero
    | finite s' m' e' hm' h' =>
      apply hasValue_roundWithAccuracy hproduct (Nat.mul_pos hm hm') _ (h.bits_mul h' hm hm')
      rw [Nat.cast_mul, apply_mul, Int.cast_mul, zpow_add₀ (by norm_num), mul_mul_mul_comm]

theorem unpackedSub_eq_add_neg (u v : UnpackedFloat) :
  UnpackedFloat.sub .binary64 u v = .add .binary64 u v.neg
  := by
  cases u <;> cases v <;>
    simp [UnpackedFloat.sub, UnpackedFloat.add, UnpackedFloat.neg, apply_neg, Int.sub_eq_add_neg]

section

variable {x y : Float} {p q : ℚ} (hx : Denotes x p) (hy : Denotes y q)

include hx

theorem denotes_neg :
  Denotes (-x) (-p)
  := by
  apply HasValue.denotes
  apply HasValue.neg hx

include hy

theorem denotes_add (h : IsRepresentable (p + q)) :
  Denotes (x + y) (p + q)
  := by
  apply HasValue.denotes
  apply HasValue.add hx hy h

theorem denotes_sub (h : IsRepresentable (p - q)) :
  Denotes (x - y) (p - q)
  := by
  apply HasValue.denotes
  rw [unpackedSub_eq_add_neg, sub_eq_add_neg]
  apply HasValue.add hx (HasValue.neg hy)
  rwa [← sub_eq_add_neg]

theorem denotes_mul (h : IsRepresentable (p * q)) :
  Denotes (x * y) (p * q)
  := by
  apply HasValue.denotes
  apply HasValue.mul hx hy h

end

/-! ### Integers -/

/-- A mantissa below `2 ^ 53` is moved to the exponent that a canonical form asks for. -/
theorem isRepresentable_mul_two_pow {m : Nat} {e : Int} (hlt : m < 2 ^ 53) (hle : -1074 ≤ e)
    (hge : e ≤ 971) {q : ℚ} (hq : |q| = m * 2 ^ e) :
  IsRepresentable q
  := by
  obtain rfl | hm := Nat.eq_zero_or_pos m
  · use ⟨false, 0, -1074⟩, isCanonical_zero _
    rw [hq]
    simp
  · have hlog : m.log2 < 53 := (Nat.log2_lt hm.ne').mpr hlt
    obtain ⟨k, hk⟩ : ∃ k : Nat, (k : Int) = min (52 - m.log2 : Int) (e + 1074) := by
      use (min (52 - m.log2 : Int) (e + 1074)).toNat
      omega
    have hlog' : (m * 2 ^ k).log2 = m.log2 + k := log2_mul_two_pow hm k
    have hcanonical : Binary.IsCanonical ⟨false, m * 2 ^ k, e - k⟩ := by
      constructor
      · rw [← Nat.log2_lt (by positivity), hlog']
        omega
      · dsimp only
        omega
      · dsimp only
        omega
      · rw [← Nat.le_log2 (by positivity), hlog']
        dsimp only
        omega
    use ⟨false, m * 2 ^ k, e - k⟩, hcanonical
    rw [hq, zpow_sub₀ (by norm_num), zpow_natCast]
    push_cast
    field_simp

/-- Integers up to `2 ^ 53` are numbers of floats. -/
theorem isRepresentable_intCast {k : Int} (h : |k| ≤ 2 ^ 53) :
  IsRepresentable k
  := by
  rw [Int.abs_eq_natAbs] at h
  have habs : |(k : ℚ)| = k.natAbs := by
    rw [← Int.cast_abs, Int.abs_eq_natAbs, Int.cast_natCast]
  obtain hlt | heq : k.natAbs < 2 ^ 53 ∨ k.natAbs = 2 ^ 53 := by omega
  · apply isRepresentable_mul_two_pow (e := 0) hlt (by omega) (by omega)
    rw [habs, zpow_zero, mul_one]
  · apply isRepresentable_mul_two_pow (m := 2 ^ 52) (e := 1) (by norm_num) (by omega) (by omega)
    rw [habs, heq]
    norm_num

end FieldFormula.Decimal
