import FieldFormula.Value
import FieldFormula.Proofs.Decimal.Comparison
import FieldFormula.Proofs.Decimal.Positional
import FieldFormula.Proofs.Decimal.Precision
import FieldFormula.Proofs.Decimal.Quotient

/-!
# Floats written and read back

A float from `1e-6` up to below `1e21` is written without an exponent, as a decimal that rounds to
the float.  So what is written is read as the same float.

* `RoundsTo.le_of_lt`: rounding keeps the order.
* `bounds_shortest`: the shortest decimal lies within the bounds within which the float lies.
* `exists_numberText_eq`: what is written is read as the same float.
-/

namespace FieldFormula.Decimal

open Float.Model (UnpackedFloat)
open Float.Model.UnpackedFloat (Sign)

/-! ### Rounding and order -/

section

variable {b c : Binary} (hb : b.IsCanonical) (hc : c.IsCanonical)
  (hlt : (b.mantissa : ℚ) * 2 ^ b.exponent < c.mantissa * 2 ^ c.exponent)

include hb hc hlt

/-- Of two floats, the smaller one has a smaller exponent, or else the same exponent and a smaller
mantissa. -/
theorem exponent_lt_or_mantissa_lt :
  (b.exponent < c.exponent ∧ 2 ^ 52 ≤ c.mantissa)
    ∨ (b.exponent = c.exponent ∧ b.mantissa < c.mantissa)
  := by
  obtain h | h | h := Int.lt_trichotomy b.exponent c.exponent
  · left
    use h
    apply hc.normal.resolve_right
    have hle := hb.le_exponent
    omega
  · right
    use h
    rw [h] at hlt
    exact_mod_cast lt_of_mul_lt_mul_right hlt (by positivity)
  · cases hlt.not_gt (mul_zpow_lt_of_exponent_lt hc hb h)

/-- Between two floats there is room for what rounds to either. -/
theorem half_unit_le :
  (b.mantissa + 1 / 2 : ℚ) * 2 ^ b.exponent
    ≤ (c.mantissa - (if c.mantissa = 2 ^ 52 then 1 / 4 else 1 / 2)) * 2 ^ c.exponent
  := by
  obtain ⟨hexponent, hnormal⟩ | ⟨hexponent, hmantissa⟩ := exponent_lt_or_mantissa_lt hb hc hlt
  · have hhigh : (b.mantissa : ℚ) + 1 ≤ 2 ^ 53 := by exact_mod_cast hb.mantissa_lt
    have hlow : (2 : ℚ) ^ 52 - 1 / 4
        ≤ c.mantissa - (if c.mantissa = 2 ^ 52 then 1 / 4 else 1 / 2) := by
      split
      · next heq =>
        rw [heq]
        norm_num
      · next hne =>
        have hgt : (2 : ℚ) ^ 52 + 1 ≤ c.mantissa := by
          exact_mod_cast Nat.lt_of_le_of_ne hnormal (Ne.symm hne)
        linarith
    calc
      (b.mantissa + 1 / 2 : ℚ) * 2 ^ b.exponent ≤ (2 ^ 53 - 1 / 2) * 2 ^ b.exponent := by
        gcongr
        linarith
      _ = (2 ^ 52 - 1 / 4) * 2 ^ (b.exponent + 1) := by
        rw [zpow_add_one₀ (by norm_num)]
        ring
      _ ≤ (c.mantissa - (if c.mantissa = 2 ^ 52 then 1 / 4 else 1 / 2)) * 2 ^ c.exponent := by
        gcongr
        · norm_num
        · omega
  · rw [hexponent]
    gcongr
    have hsucc : (b.mantissa : ℚ) + 1 ≤ c.mantissa := by exact_mod_cast hmantissa
    split <;> linarith

section

variable {x : ℚ} (hx : RoundsTo (x * 2 ^ (-b.exponent)) b.mantissa)

include hx

/-- Rounding keeps the order. -/
theorem RoundsTo.le_of_lt {y : ℚ} (hy : RoundsTo (y * 2 ^ (-c.exponent)) c.mantissa) :
  x ≤ y
  := hx.le.trans ((half_unit_le hb hc hlt).trans hy.ge)

/-- What rounds to a float is less than the next float. -/
theorem RoundsTo.lt_of_lt :
  x < c.mantissa * 2 ^ c.exponent
  := by
  apply (hx.le.trans (half_unit_le hb hc hlt)).trans_lt
  gcongr
  split <;> linarith

end

end

/-! ### Bounds of the shortest decimal -/

/-- The form of the smallest float that is written without an exponent. -/
def smallestForm : Binary := ⟨false, 4722366482869645, -72⟩

/-- The form of the first float that is too large to be written without an exponent. -/
def limitForm : Binary := ⟨false, 7629394531250000, 17⟩

theorem ofFloat?_smallest : Binary.ofFloat? 1e-6 = some smallestForm := by
  decide +kernel

theorem ofFloat?_limit : Binary.ofFloat? 1e21 = some limitForm := by
  decide +kernel

theorem denotes_smallest : Denotes 1e-6 smallestForm.toRat :=
  denotes_iff.mpr ⟨_, ofFloat?_smallest, rfl⟩

theorem denotes_limit : Denotes 1e21 limitForm.toRat :=
  denotes_iff.mpr ⟨_, ofFloat?_limit, rfl⟩

/-- Canonical forms of the same magnitude differ in the sign at most. -/
theorem eq_of_mul_zpow_eq {b c : Binary} (hb : b.IsCanonical) (hc : c.IsCanonical)
    (h : (b.mantissa : ℚ) * 2 ^ b.exponent = c.mantissa * 2 ^ c.exponent) :
  b.mantissa = c.mantissa ∧ b.exponent = c.exponent
  := by
  have hcompare := compare_mul_zpow hb hc
  rw [compare_eq_iff_eq.mpr h, eq_comm, Ordering.then_eq_eq, compare_eq_iff_eq,
    compare_eq_iff_eq] at hcompare
  use hcompare.2, hcompare.1

theorem shortest_congr {b c : Binary} (hmantissa : b.mantissa = c.mantissa)
    (hexponent : b.exponent = c.exponent) (tie : Tie) :
  shortest tie b = shortest tie c
  := by
  have haround : Interval.around b = Interval.around c := by
    rw [Interval.around, hmantissa, hexponent, Interval.around]
  rw [shortest, haround, shortest]

section

variable {x : Float} {b : Binary} (hform : Binary.ofFloat? x = some b)

include hform

theorem smallest_le_iff :
  1e-6 ≤ x.abs ↔ (smallestForm.mantissa : ℚ) * 2 ^ smallestForm.exponent
    ≤ b.mantissa * 2 ^ b.exponent
  := by
  have hx : Denotes x b.toRat := denotes_iff.mpr ⟨b, hform, rfl⟩
  rw [le_iff denotes_smallest (denotes_abs hx), b.abs_toRat]
  rfl

theorem lt_limit_iff :
  x.abs < 1e21 ↔ (b.mantissa : ℚ) * 2 ^ b.exponent < limitForm.mantissa * 2 ^ limitForm.exponent
  := by
  have hx : Denotes x b.toRat := denotes_iff.mpr ⟨b, hform, rfl⟩
  rw [lt_iff (denotes_abs hx) denotes_limit, b.abs_toRat]
  rfl

/-- The shortest decimal lies within the bounds within which the float lies. -/
theorem bounds_shortest (hlow : 1e-6 ≤ x.abs) (hhigh : x.abs < 1e21) (tie : Tie) :
  (10 : ℚ) ^ (-6 : Int) ≤ (shortest tie b).significand * 10 ^ (shortest tie b).exponent
    ∧ ((shortest tie b).significand * 10 ^ (shortest tie b).exponent : ℚ) < 10 ^ (21 : Int)
  := by
  have hb := Binary.isCanonical_of_ofFloat? hform
  have hsmallest := Binary.isCanonical_of_ofFloat? ofFloat?_smallest
  have hlimit := Binary.isCanonical_of_ofFloat? ofFloat?_limit
  rw [smallest_le_iff hform] at hlow
  rw [lt_limit_iff hform] at hhigh
  have hpos : 0 < b.mantissa := by
    rw [Nat.pos_iff_ne_zero]
    intro hzero
    rw [hzero, Nat.cast_zero, zero_mul] at hlow
    norm_num [smallestForm] at hlow
  have hround := roundsTo_shortest hb hpos tie
  constructor
  · obtain hlt | heq := hlow.lt_or_eq
    · apply RoundsTo.le_of_lt hsmallest hb hlt _ hround
      have hcontains : (Interval.around smallestForm).contains 1 (-6) = true := by
        decide +kernel
      rw [contains_iff (by decide), Nat.cast_one, one_mul] at hcontains
      apply hcontains
    · obtain ⟨hmantissa, hexponent⟩ := eq_of_mul_zpow_eq hsmallest hb heq
      have hshortest : shortest tie smallestForm = ⟨10, -7⟩ := by
        cases tie <;> decide +kernel
      rw [← shortest_congr hmantissa hexponent, hshortest]
      norm_num
  · apply (RoundsTo.lt_of_lt hb hlimit hhigh hround).trans_eq
    norm_num [limitForm]

/-- A float of at least `1e-6` has more than one bit. -/
theorem two_le_mantissa (hlow : 1e-6 ≤ x.abs) :
  2 ≤ b.mantissa
  := by
  have hb := Binary.isCanonical_of_ofFloat? hform
  have hsmallest := Binary.isCanonical_of_ofFloat? ofFloat?_smallest
  rw [smallest_le_iff hform] at hlow
  have htwo : 2 ≤ smallestForm.mantissa := by decide
  obtain hlt | heq := hlow.lt_or_eq
  · obtain ⟨-, hnormal⟩ | ⟨-, hmantissa⟩ := exponent_lt_or_mantissa_lt hsmallest hb hlt
    · omega
    · omega
  · rw [← (eq_of_mul_zpow_eq hsmallest hb heq).1]
    apply htwo

end

/-- A decimal between `10 ^ (-6)` and `10 ^ 21` is written without an exponent. -/
theorem positional_of_bounds {n : Nat} {e : Int} (hn : 0 < n)
    (hlow : (10 : ℚ) ^ (-6 : Int) ≤ n * 10 ^ e) (hhigh : (n * 10 ^ e : ℚ) < 10 ^ (21 : Int)) :
  Value.layout.positional (digitCount n - 1 + e) = true
  := by
  have hone : 1 ≤ digitCount n := by
    rw [digitCount_of_pos hn]
    apply Nat.length_toDigits_pos
  have hbelow : ((10 ^ (digitCount n - 1) : Nat) : ℚ) ≤ n := by
    exact_mod_cast pow_digitCount_le hn
  have habove : (n : ℚ) < (10 ^ digitCount n : Nat) := by
    exact_mod_cast lt_pow_digitCount n
  rw [Nat.cast_pow, ← zpow_natCast] at hbelow habove
  have hfirst : (10 : ℚ) ^ (((digitCount n - 1 : Nat) : Int) + e) < 10 ^ (21 : Int) := by
    rw [zpow_add₀ (by norm_num)]
    apply lt_of_le_of_lt _ hhigh
    gcongr
    exact_mod_cast hbelow
  have hlast : (10 : ℚ) ^ (-6 : Int) < 10 ^ ((digitCount n : Int) + e) := by
    rw [zpow_add₀ (by norm_num)]
    apply hlow.trans_lt
    gcongr
    exact_mod_cast habove
  rw [zpow_lt_zpow_iff_right₀ (by norm_num)] at hfirst hlast
  simp only [Value.layout, Bool.and_eq_true, decide_eq_true_eq]
  omega

/-! ### Floats read back -/

theorem neg_toFloat {b : Binary} (hb : b.IsCanonical) :
  -b.toFloat = Binary.toFloat { b with negative := !b.negative }
  := by
  have hneg : -b.toFloat = .ofModel (.pack b.toFloat.toModel.unpack.neg) := rfl
  rw [hneg, Binary.unpack_toFloat hb, Binary.toFloat, Binary.unpacked, Binary.unpacked]
  cases hsign : b.negative <;> split <;> simp [UnpackedFloat.neg, Binary.sign, hsign] <;> rfl

/-- The digits of a decimal that rounds to a float are read as the float. -/
theorem IsPositional.value_eq_toFloat {whole fraction : List Char}
    (hshape : IsPositional whole fraction) {x : ℚ} (hpos : 0 < x)
    (hvalue : (digitsValue (whole ++ fraction) : ℚ) * 10 ^ (-(fraction.length : Int)) = x)
    {b : Binary} (hb : b.IsCanonical) (htwo : 2 ≤ b.mantissa) (hsign : b.negative = false)
    (hround : RoundsTo (x * 2 ^ (-b.exponent)) b.mantissa) :
  value (positionalText whole fraction) = b.toFloat
  := by
  have hdigits : 0 < digitsValue (whole ++ fraction) := by
    rw [Nat.pos_iff_ne_zero]
    intro hzero
    rw [hzero, Nat.cast_zero, zero_mul] at hvalue
    linarith
  rw [hshape.value_eq]
  apply nearest_eq_toFloat hb htwo hsign hdigits
  rw [hvalue]
  apply hround

/-- A float from `1e-6` up to below `1e21` is written with its sign and without an exponent, and the
decimal that is written is nearest to the float. -/
theorem exists_numberText_eq {x : Float} (hlow : 1e-6 ≤ x.abs) (hhigh : x.abs < 1e21) :
  ∃ (negative : Bool) (whole fraction : List Char),
    (Value.numberText x).toList
      = (if negative then ['-'] else []) ++ positionalText whole fraction
    ∧ IsPositional whole fraction
    ∧ x = if negative then -value (positionalText whole fraction)
      else value (positionalText whole fraction)
  := by
  obtain ⟨p, hx, -⟩ := exists_denotes_of_abs_lt denotes_limit hhigh
  obtain ⟨b, hform, rfl⟩ := denotes_iff.mp hx
  obtain ⟨hb, htoFloat⟩ := Binary.ofFloat?_eq_some_iff.mp hform
  have htwo := two_le_mantissa hform hlow
  have hround := roundsTo_shortest hb (by omega) Value.layout.tie
  have hbounds := bounds_shortest hform hlow hhigh Value.layout.tie
  obtain ⟨n, e, hshortest⟩ : ∃ n e, shortest Value.layout.tie b = ⟨n, e⟩ := ⟨_, _, rfl⟩
  rw [hshortest] at hround hbounds
  dsimp only at hround hbounds
  have hn : 0 < n := by
    rw [Nat.pos_iff_ne_zero]
    rintro rfl
    have hpos := hround.pos (by omega)
    simp at hpos
  have hpositional := positional_of_bounds hn hbounds.1 hbounds.2
  obtain ⟨whole, fraction, hdecimal, hshape, hvalue⟩ :=
    isPlainText_decimal rfl hn hpositional
  obtain ⟨negative, m, t⟩ := b
  have hpositive : Binary.IsCanonical ⟨false, m, t⟩ := hb.congr rfl rfl
  have hvalue : value (positionalText whole fraction) = Binary.toFloat ⟨false, m, t⟩ := by
    apply hshape.value_eq_toFloat (by positivity) hvalue hpositive htwo rfl hround
  have hm : m ≠ 0 := by
    dsimp only at htwo
    omega
  use negative, whole, fraction
  refine ⟨?_, hshape, ?_⟩
  · rw [Value.numberText, String.toList_ofList, Layout.render, hform]
    cases negative <;> simp [hm, hshortest, hdecimal]
  · rw [hvalue, neg_toFloat hpositive, htoFloat]
    cases negative <;> rfl

end FieldFormula.Decimal
