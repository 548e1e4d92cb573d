import FieldFormula.Proofs.Decimal.Binary

/-!
# Rounding to the nearest float

The results of float arithmetic are rounded to a mantissa of at most 53 bits.  Rounding shifts
a mantissa to the right and keeps a bit for the half and a bit for the rest.  So it finds the
nearest mantissa, the even one of two that are equally near, and it does so on both sides of a
power of two.

* `RoundsTo`: the rationals that are nearest to a mantissa.
* `Represents.roundedMantissa`: the mantissa and the two bits suffice to round.
* `roundWithAccuracy_eq`: rounding yields every canonical form to which the number rounds.
-/

namespace FieldFormula.Decimal

open Float.Model (UnpackedFloat)
open Float.Model.UnpackedFloat (Accuracy ExtendedMantissa Sign)

/-! ### Mantissas with a half and a rest -/

/-- The rationals between a mantissa and the next that have the bits of an extended mantissa:
the bit for the half and the bit for a rest. -/
def Represents : ExtendedMantissa → ℚ → Prop
  | ⟨m, false, false⟩, x => x = m
  | ⟨m, false, true⟩, x => m < x ∧ x < m + 1 / 2
  | ⟨m, true, false⟩, x => x = m + 1 / 2
  | ⟨m, true, true⟩, x => m + 1 / 2 < x ∧ x < m + 1

theorem represents_exact (m : Nat) :
  Represents (.ofMantissaAndAccuracy m .exact) m
  := by
  rw [ExtendedMantissa.ofMantissaAndAccuracy, Represents]

namespace Represents

variable {em : ExtendedMantissa} {x : ℚ}

theorem mantissa_le (h : Represents em x) :
  (em.mantissa : ℚ) ≤ x
  := by
  obtain ⟨m, r, s⟩ := em
  cases r <;> cases s <;> simp only [Represents] at h <;> linarith

theorem lt_mantissa (h : Represents em x) :
  x < em.mantissa + 1
  := by
  obtain ⟨m, r, s⟩ := em
  cases r <;> cases s <;> simp only [Represents] at h <;> linarith

theorem shiftRightOne (h : Represents em x) :
  Represents em.shiftRightOne (x / 2)
  := by
  obtain ⟨m, r, s⟩ := em
  have hm : ((m / 2 : Nat) : ℚ) * 2 + (m % 2 : Nat) = m := by
    exact_mod_cast Nat.div_add_mod' m 2
  obtain hbit | hbit : m % 2 = 0 ∨ m % 2 = 1 := by omega
  all_goals
    rw [hbit] at hm
    push_cast at hm
    cases r <;> cases s <;>
      simp [Represents, ExtendedMantissa.shiftRightOne, hbit] at h ⊢ <;> grind

theorem shiftRight (h : Represents em x) (k : Nat) :
  Represents (em >>> k) (x / 2 ^ k)
  := by
  induction k with
  | zero =>
    rw [pow_zero, div_one]
    apply h
  | succ k ih =>
    rw [pow_succ, ← div_div]
    apply ih.shiftRightOne

end Represents

/-! ### The nearest mantissa -/

/-- The rational `x` rounds to the mantissa `n`.  Below `2 ^ 52` mantissas may be half as far
apart, so only the numbers less than a quarter away count there. -/
structure RoundsTo (x : ℚ) (n : Nat) : Prop where
  low : (n : ℚ) - (if n = 2 ^ 52 then 1 / 4 else 1 / 2) ≤ x
  high : x ≤ n + 1 / 2
  odd : n % 2 = 1 → (n : ℚ) - 1 / 2 < x ∧ x < n + 1 / 2

section

variable {x : ℚ} {t : Int} {m : Nat} (h : RoundsTo (x * 2 ^ (-t)) m)

include h

/-- A number is at most half a unit above the float to which it rounds. -/
theorem RoundsTo.le :
  x ≤ (m + 1 / 2) * 2 ^ t
  := by
  have hhigh := h.high
  rwa [zpow_neg, ← div_eq_mul_inv, div_le_iff₀ (by positivity)] at hhigh

/-- A number is at most half a unit below the float to which it rounds. -/
theorem RoundsTo.ge :
  (m - (if m = 2 ^ 52 then 1 / 4 else 1 / 2)) * 2 ^ t ≤ x
  := by
  have hlow := h.low
  rwa [zpow_neg, ← div_eq_mul_inv, le_div_iff₀ (by positivity)] at hlow

end

/-- Only positive numbers round to a positive mantissa. -/
theorem RoundsTo.pos {x : ℚ} {n : Nat} (h : RoundsTo x n) (hn : 0 < n) :
  0 < x
  := by
  have hone : (1 : ℚ) ≤ n := by exact_mod_cast hn
  have hlow := h.low
  split at hlow <;> linarith

theorem roundsTo_self (n : Nat) :
  RoundsTo n n
  := by
  constructor
  · split <;> linarith
  · linarith
  · intro
    constructor <;> linarith

/-- The mantissa and the two bits suffice to find the nearest mantissa. -/
theorem Represents.roundedMantissa {em : ExtendedMantissa} {x : ℚ} (h : Represents em x)
    {n : Nat} (hlow : (n : ℚ) - 1 / 2 ≤ x) (hhigh : x ≤ n + 1 / 2)
    (hodd : n % 2 = 1 → (n : ℚ) - 1 / 2 < x ∧ x < n + 1 / 2) :
  em.roundedMantissa = n
  := by
  have hmn : em.mantissa ≤ n := by
    have hlt : (em.mantissa : ℚ) < n + 1 := by linarith [h.mantissa_le]
    exact_mod_cast Nat.lt_succ_iff.mp (by exact_mod_cast hlt)
  have hnm : n ≤ em.mantissa + 1 := by
    have hlt : (n : ℚ) < em.mantissa + 2 := by linarith [h.lt_mantissa]
    exact_mod_cast Nat.lt_succ_iff.mp (by exact_mod_cast hlt)
  obtain ⟨m, r, s⟩ := em
  obtain rfl | rfl : n = m ∨ n = m + 1 := by
    dsimp only at hmn hnm
    omega
  all_goals
    push_cast at hlow hhigh hodd
    cases r <;> cases s <;>
      simp only [Represents, ExtendedMantissa.roundedMantissa, ExtendedMantissa.accuracy,
        Accuracy.roundToNearestEven] at h ⊢ <;> grind

/-- The mantissa found is a nearest one, and an even one if there are two. -/
theorem Represents.near_roundedMantissa {em : ExtendedMantissa} {x : ℚ} (h : Represents em x) :
  (em.roundedMantissa : ℚ) - 1 / 2 ≤ x ∧ x ≤ em.roundedMantissa + 1 / 2
    ∧ (em.roundedMantissa % 2 = 1 →
      (em.roundedMantissa : ℚ) - 1 / 2 < x ∧ x < em.roundedMantissa + 1 / 2)
  := by
  obtain ⟨m, r, s⟩ := em
  have hm : m % 2 = 0 ∨ m % 2 = 1 := by omega
  cases r <;> cases s <;>
    simp only [Represents, ExtendedMantissa.roundedMantissa, ExtendedMantissa.accuracy,
      Accuracy.roundToNearestEven] at h ⊢
  · grind
  · grind
  · obtain hm | hm := hm
    · rw [hm]
      grind
    · rw [hm]
      push_cast
      grind
  · push_cast
    grind

/-- A number with 53 digits before the point is rounded to 53 digits, or to the least number with
one more. -/
theorem Represents.le_roundedMantissa {em : ExtendedMantissa} {x : ℚ} (h : Represents em x)
    (hlow : 2 ^ 52 ≤ x) (hhigh : x < 2 ^ 53) :
  2 ^ 52 ≤ em.roundedMantissa ∧ em.roundedMantissa ≤ 2 ^ 53
  := by
  obtain ⟨hnear, hnear', -⟩ := h.near_roundedMantissa
  constructor
  · have hlt : ((2 ^ 52 : Nat) : ℚ) < em.roundedMantissa + 1 := by
      push_cast
      linarith
    exact Nat.lt_succ_iff.mp (by exact_mod_cast hlt)
  · have hlt : (em.roundedMantissa : ℚ) < (2 ^ 53 : Nat) + 1 := by
      push_cast
      linarith
    exact Nat.lt_succ_iff.mp (by exact_mod_cast hlt)

/-- A number with 53 digits before the point rounds to a mantissa with as many, where the last one
is dropped if there has come one more. -/
theorem Represents.exists_roundsTo {em : ExtendedMantissa} {x : ℚ} (h : Represents em x)
    (hlow : 2 ^ 52 ≤ x) (hhigh : x < 2 ^ 53) :
  ∃ n k : Nat, 2 ^ 52 ≤ n ∧ n < 2 ^ 53 ∧ k ≤ 1 ∧ RoundsTo (x / 2 ^ k) n
  := by
  obtain ⟨hrlow, hrhigh⟩ := h.le_roundedMantissa hlow hhigh
  obtain ⟨hnear, hnear', hodd⟩ := h.near_roundedMantissa
  generalize em.roundedMantissa = r at hrlow hrhigh hnear hnear' hodd
  obtain hlt | rfl := Nat.lt_or_eq_of_le hrhigh
  · use r, 0, hrlow, hlt, Nat.zero_le 1
    rw [pow_zero, div_one]
    constructor
    · split
      · next heq =>
        rw [heq]
        push_cast
        linarith
      · apply hnear
    · apply hnear'
    · apply hodd
  · use 2 ^ 52, 1, le_rfl, by norm_num, le_rfl
    push_cast at hnear hnear'
    constructor
    · rw [if_pos rfl]
      push_cast
      linarith
    · push_cast
      linarith
    · intro hodd
      contradiction

/-! ### Rounding to the target exponent -/

/-- The exponent that the first digit of a mantissa asks for. -/
theorem targetExponent_eq (m : Nat) (e : Int) :
  Float.Model.Format.binary64.targetExponent (Float.Model.totalExponent m e)
    = max (m.log2 + e - 52) (-1074)
  := by
  have hbits : (Float.Model.Format.binary64.mantissaBits : Int) = 53 := rfl
  have hmin : Float.Model.Format.binary64.minExponent = -1074 := rfl
  rw [Float.Model.Format.targetExponent, Float.Model.totalExponent, hbits, hmin]
  congr 1
  omega

/-- A canonical form keeps its exponent. -/
theorem Binary.IsCanonical.max_log2 {b : Binary} (hb : b.IsCanonical) (hpos : 0 < b.mantissa) :
  max (b.mantissa.log2 + b.exponent - 52) (-1074) = b.exponent
  := by
  have hlog : b.mantissa.log2 < 53 := (Nat.log2_lt hpos.ne').mpr hb.mantissa_lt
  have hle := hb.le_exponent
  obtain hnormal | hsmall := hb.normal
  · have hlow : 52 ≤ b.mantissa.log2 := (Nat.le_log2 hpos.ne').mpr hnormal
    omega
  · omega

/-- Powers of two around a number with `m` as its integer part, scaled by a power of two. -/
theorem pow_log2_le {m : Nat} {x : ℚ} (hpos : 0 < m) (hlow : m ≤ x) (hhigh : x < m + 1) (k : Int) :
  (2 : ℚ) ^ (m.log2 + k) ≤ x * 2 ^ k ∧ x * 2 ^ k < (2 : ℚ) ^ (m.log2 + 1 + k)
  := by
  have htwo : (2 : ℚ) ≠ 0 := by norm_num
  have hk : (0 : ℚ) < 2 ^ k := by positivity
  have hle : ((2 ^ m.log2 : Nat) : ℚ) ≤ m := by
    exact_mod_cast Nat.log2_self_le hpos.ne'
  have hlt : ((m + 1 : Nat) : ℚ) ≤ (2 ^ (m.log2 + 1) : Nat) := by
    exact_mod_cast Nat.lt_log2_self
  push_cast at hle hlt
  rw [zpow_add₀ htwo, zpow_add₀ htwo, zpow_natCast]
  constructor
  · gcongr
    linarith
  · have hpow : (2 : ℚ) ^ ((m.log2 : Int) + 1) = 2 ^ (m.log2 + 1) := by
      exact_mod_cast rfl
    rw [hpow]
    gcongr
    linarith

/-- A mantissa with its first digit at the place `2 ^ k` above the least digit that is kept. -/
theorem div_two_pow_log2_bounds {m : Nat} (hm : 2 ^ 52 ≤ m) :
  (2 : ℚ) ^ 52 ≤ m / 2 ^ (m.log2 - 52) ∧ (m : ℚ) / 2 ^ (m.log2 - 52) < 2 ^ 53
  := by
  have hne : m ≠ 0 := by omega
  obtain ⟨k, hk⟩ := Nat.exists_eq_add_of_le ((Nat.le_log2 hne).mpr hm)
  have hlow : ((2 ^ 52 * 2 ^ k : Nat) : ℚ) ≤ m := by
    rw [← pow_add, ← hk]
    exact_mod_cast Nat.log2_self_le hne
  have hhigh : (m : ℚ) < (2 ^ 53 * 2 ^ k : Nat) := by
    rw [← pow_add, show 53 + k = m.log2 + 1 by omega]
    exact_mod_cast Nat.lt_log2_self
  push_cast at hlow hhigh
  rw [hk, Nat.add_sub_cancel_left, le_div_iff₀ (by positivity), div_lt_iff₀ (by positivity)]
  use hlow, hhigh

/-- A long mantissa without the digits after the first 53 is rounded to 53 digits, or to the least
number with one more. -/
theorem roundedMantissa_bounds {m : Nat} (hm : 2 ^ 52 ≤ m) :
  2 ^ 52 ≤ (ExtendedMantissa.ofMantissaAndAccuracy m .exact >>> (m.log2 - 52)).roundedMantissa
    ∧ (ExtendedMantissa.ofMantissaAndAccuracy m .exact >>> (m.log2 - 52)).roundedMantissa ≤ 2 ^ 53
  := by
  obtain ⟨hlow, hhigh⟩ := div_two_pow_log2_bounds hm
  exact ((represents_exact m).shiftRight (m.log2 - 52)).le_roundedMantissa hlow hhigh

/-- The exponent to which a number is shifted is that of the form to which it rounds, or just
below it where that form is a power of two. -/
theorem targetExponent_cases {b : Binary} (hb : b.IsCanonical) {m : Nat} {e : Int} {x : ℚ}
    (hpos : 0 < m) (hlow : m ≤ x) (hhigh : x < m + 1)
    (hround : RoundsTo (x * 2 ^ (e - b.exponent)) b.mantissa) :
  max (m.log2 + e - 52) (-1074) = b.exponent
    ∨ (max (m.log2 + e - 52) (-1074) = b.exponent - 1 ∧ b.mantissa = 2 ^ 52)
  := by
  obtain ⟨negative, n, t⟩ := b
  obtain ⟨hlt, hle, -, hnormal⟩ := hb
  dsimp only at hlt hle hnormal hround ⊢
  obtain ⟨hlog, hlog'⟩ := pow_log2_le hpos hlow hhigh (e - t)
  obtain ⟨hw, hw', -⟩ := hround
  have hbelow : ∀ k : Nat, n < 2 ^ k → (m.log2 : Int) + (e - t) < k := by
    intro k hk
    have hcast : ((n + 1 : Nat) : ℚ) ≤ (2 ^ k : Nat) := by exact_mod_cast hk
    push_cast at hcast
    apply (zpow_lt_zpow_iff_right₀ (by norm_num : (1 : ℚ) < 2)).mp
    rw [zpow_natCast]
    linarith
  have habove : ∀ k : Nat, (2 : ℚ) ^ k ≤ x * 2 ^ (e - t) → (k : Int) < m.log2 + 1 + (e - t) := by
    intro k hk
    apply (zpow_lt_zpow_iff_right₀ (by norm_num : (1 : ℚ) < 2)).mp
    rw [zpow_natCast]
    linarith
  have htop := hbelow 53 hlt
  obtain hsmall | heq | hgt := Nat.lt_trichotomy n (2 ^ 52)
  · have hlow := hbelow 52 hsmall
    omega
  · have hcast : (n : ℚ) = 2 ^ 52 := by exact_mod_cast heq
    rw [if_pos heq, hcast] at hw
    have hlow := habove 51 (by linarith)
    omega
  · have hcast : (2 : ℚ) ^ 52 + 1 ≤ n := by exact_mod_cast hgt
    rw [if_neg hgt.ne'] at hw
    have hlow := habove 52 (by linarith)
    omega

theorem mantissa_ofMantissaAndAccuracy (m : Nat) (acc : Accuracy) :
  (ExtendedMantissa.ofMantissaAndAccuracy m acc).mantissa = m
  := by
  fun_cases ExtendedMantissa.ofMantissaAndAccuracy m acc <;> rfl

/-- The shift to the exponent that the first digit asks for. -/
theorem shiftToTargetExponent_eq {m : Nat} {e target : Int} (acc : Accuracy)
    (htarget : max (m.log2 + e - 52) (-1074) = target) (hle : e ≤ target) :
  UnpackedFloat.shiftToTargetExponent .binary64 m e acc
    = (ExtendedMantissa.ofMantissaAndAccuracy m acc >>> (target - e).toNat, target)
  := by
  have hexponent : e + ((target - e).toNat : Int) = target := by omega
  simp only [UnpackedFloat.shiftToTargetExponent, targetExponent_eq, htarget,
    UnpackedFloat.shiftToExponent, hexponent]

/-- The rounded mantissa is shifted once more, in case it has got a bit too many. -/
theorem roundWithAccuracy_of_roundedMantissa {m r n : Nat} {e target target' : Int}
    {acc : Accuracy} (htarget : max (m.log2 + e - 52) (-1074) = target) (hle : e ≤ target)
    (hr : (ExtendedMantissa.ofMantissaAndAccuracy m acc
      >>> (target - e).toNat).roundedMantissa = r)
    (htarget' : max (r.log2 + target - 52) (-1074) = target') (hle' : target ≤ target')
    (hn : (ExtendedMantissa.ofMantissaAndAccuracy r .exact
      >>> (target' - target).toNat).mantissa = n)
    (hpos : 0 < n) (s : Sign) :
  UnpackedFloat.roundWithAccuracy .binary64 s m e acc = .finite s n target' hpos
  := by
  subst hr hn
  simp only [UnpackedFloat.roundWithAccuracy, shiftToTargetExponent_eq acc htarget hle,
    shiftToTargetExponent_eq .exact htarget' hle', dif_neg hpos.ne']

/-- Rounding yields every canonical form to which the number rounds, as long as the mantissa
has as many bits as the form. -/
theorem roundWithAccuracy_eq {b : Binary} (hb : b.IsCanonical) (hpos : 0 < b.mantissa) {m : Nat}
    {e : Int} {acc : Accuracy} {x : ℚ} (hrep : Represents (.ofMantissaAndAccuracy m acc) x)
    (hm : 0 < m) (hbits : 2 ^ 52 ≤ m ∨ e ≤ -1074)
    (hround : RoundsTo (x * 2 ^ (e - b.exponent)) b.mantissa) (s : Sign) :
  UnpackedFloat.roundWithAccuracy .binary64 s m e acc = .finite s b.mantissa b.exponent hpos
  := by
  have hlow := hrep.mantissa_le
  have hhigh := hrep.lt_mantissa
  rw [mantissa_ofMantissaAndAccuracy] at hlow hhigh
  have hcases := targetExponent_cases hb hm hlow hhigh hround
  have hsecond := hb.max_log2 hpos
  obtain ⟨negative, n, t⟩ := b
  dsimp only at hpos hround hcases hsecond ⊢
  obtain ⟨target, htarget⟩ : ∃ target, max (m.log2 + e - 52 : Int) (-1074) = target := ⟨_, rfl⟩
  have hle : e ≤ target := by
    obtain hnormal | hsmall := hbits
    · have hlog := (Nat.le_log2 hm.ne').mpr hnormal
      omega
    · omega
  have hscale : x / 2 ^ (target - e).toNat = x * 2 ^ (e - target) := by
    rw [div_eq_mul_inv, ← zpow_natCast, ← zpow_neg]
    congr 2
    omega
  have hscaled := hrep.shiftRight (target - e).toNat
  rw [hscale] at hscaled
  rw [htarget] at hcases
  obtain rfl | ⟨rfl, rfl⟩ := hcases
  · have hnear : (n : ℚ) - 1 / 2 ≤ x * 2 ^ (e - target) := by
      apply le_trans _ hround.low
      split <;> linarith
    have hr := hscaled.roundedMantissa hnear hround.high hround.odd
    apply roundWithAccuracy_of_roundedMantissa htarget hle hr hsecond le_rfl
    rw [sub_self]
    rfl
  · -- the number lies below a power of two, to which the mantissa is rounded up
    have hdouble : x * 2 ^ (e - (t - 1)) = 2 * (x * 2 ^ (e - t)) := by
      rw [show e - (t - 1) = e - t + 1 by omega, zpow_add_one₀ (by norm_num)]
      ring
    have hbelow : x * 2 ^ (e - t) < 2 ^ 52 := by
      have hlt := (pow_log2_le hm hlow hhigh (e - t)).2
      apply hlt.trans_le
      rw [← zpow_natCast]
      apply zpow_le_zpow_right₀ (by norm_num)
      push_cast
      omega
    have hquarter := hround.low
    rw [if_pos rfl] at hquarter
    push_cast at hquarter
    have hr : (ExtendedMantissa.ofMantissaAndAccuracy m acc
        >>> (t - 1 - e).toNat).roundedMantissa = 2 ^ 53 := by
      apply hscaled.roundedMantissa
      · push_cast
        linarith
      · push_cast
        linarith
      · intro hodd
        contradiction
    have hlog : Nat.log2 (2 ^ 53) = 53 := Nat.log2_two_pow
    have hle' := hb.le_exponent
    dsimp only at hle'
    apply roundWithAccuracy_of_roundedMantissa htarget hle hr
    · rw [hlog]
      omega
    · omega
    · rw [show (t - (t - 1)).toNat = 1 by omega]
      rfl

theorem log2_mul_two_pow {m : Nat} (hm : 0 < m) (k : Nat) :
  (m * 2 ^ k).log2 = m.log2 + k
  := by
  induction k with
  | zero => rw [pow_zero, mul_one, add_zero]
  | succ k ih =>
    have hpos : 0 < m * 2 ^ k := by positivity
    rw [pow_succ', mul_left_comm, Nat.log2_two_mul hpos.ne', ih, add_assoc]

/-- Rounding a mantissa of any size yields every canonical form to which the number rounds. -/
theorem round_eq {b : Binary} (hb : b.IsCanonical) (hpos : 0 < b.mantissa) {m : Nat} {e : Int}
    (hm : 0 < m) (hround : RoundsTo (m * 2 ^ (e - b.exponent)) b.mantissa) (s : Sign) :
  UnpackedFloat.round .binary64 s m e = .finite s b.mantissa b.exponent hpos
  := by
  obtain ⟨k, hk⟩ : ∃ k : Nat, (e - max (m.log2 + e - 52 : Int) (-1074)).toNat = k := ⟨_, rfl⟩
  have hshift : m <<< k = m * 2 ^ k := Nat.shiftLeft_eq m k
  have hlog : (m * 2 ^ k).log2 = m.log2 + k := log2_mul_two_pow hm k
  have hbits : 2 ^ 52 ≤ m * 2 ^ k ∨ e - k ≤ -1074 := by
    rw [← Nat.le_log2 (by positivity), hlog]
    omega
  have hscale : ((m * 2 ^ k : Nat) : ℚ) * 2 ^ (e - k - b.exponent) = m * 2 ^ (e - b.exponent) := by
    rw [show e - b.exponent = k + (e - k - b.exponent) by ring, zpow_add₀ (by norm_num),
      zpow_natCast]
    push_cast
    ring
  simp only [UnpackedFloat.round, targetExponent_eq, UnpackedFloat.decreaseExponent, hk, hshift]
  apply roundWithAccuracy_eq hb hpos (represents_exact _) (by positivity) hbits
  rw [hscale]
  apply hround

end FieldFormula.Decimal
