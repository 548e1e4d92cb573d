import FieldFormula.Proofs.Decimal.Counts
import FieldFormula.Proofs.Decimal.RoundTrip

/-!
# Integers as floats, written

An integer is rounded to a float, and below `10 ^ 21` the float is written as an integer that has
the same float.  Of all integers with this float the one that is written ends in as many zeros as
any other, and it is the nearest to the float among those that do so.  There is only one such
integer, so the others are not written as their own digits.

* `le_abs_of_denotes_ofInt`: the float of an integer is not below the power of two of its first
  digit.
* `ofInt_eq_toFloat_iff`: the integers that have the float of a binary form.
* `IsShortestInteger`: the integers that are shortest among those with the same float.
* `exists_numberText_ofInt`: the float of an integer is written as such an integer.
* `numberText_ofInt_eq_iff`: an integer is written as its own digits exactly when it is shortest.
-/

namespace FieldFormula.Decimal

open Float.Model (UnpackedFloat)
open Float.Model.UnpackedFloat (Sign)

/-! ### Numbers of floats -/

theorem Binary.toFloat_inj {b c : Binary} (hb : b.IsCanonical) (hc : c.IsCanonical)
    (h : b.toFloat = c.toFloat) :
  b = c
  := by
  have hform : ofFloat? b.toFloat = some b := ofFloat?_eq_some_iff.mpr ⟨hb, rfl⟩
  have hform' : ofFloat? b.toFloat = some c := ofFloat?_eq_some_iff.mpr ⟨hc, h⟩
  exact Option.some.inj (hform.symm.trans hform')

/-- A float stands for one number only. -/
theorem Denotes.eq {x : Float} {p q : ℚ} (hp : Denotes x p) (hq : Denotes x q) :
  p = q
  := by
  obtain ⟨b, hb, rfl⟩ := denotes_iff.mp hp
  obtain ⟨c, hc, rfl⟩ := denotes_iff.mp hq
  rw [Option.some.inj (hb.symm.trans hc)]

/-- Infinity stands for no number. -/
theorem not_denotes_of_infinity {x : Float} {s : Sign} (h : x.toModel.unpack = .infinity s)
    (q : ℚ) :
  ¬ Denotes x q
  := by
  intro hq
  rw [Denotes, h] at hq
  cases hq

theorem unpack_neg_of_infinity {x : Float} {s : Sign} (h : x.toModel.unpack = .infinity s) :
  (-x).toModel.unpack = .infinity (-s)
  := by
  have hneg : -x = .ofModel (.pack x.toModel.unpack.neg) := rfl
  rw [hneg, h]
  cases s <;> rfl

/-! ### Integers with a sign -/

theorem ofInt_neg_natCast {n : Nat} (hn : 0 < n) :
  Float.ofInt (-n) = -Float.ofNat n
  := by
  obtain ⟨m, rfl⟩ := Nat.exists_eq_add_of_lt hn
  rw [Nat.zero_add]
  rfl

/-- Every integer is a natural number with a sign. -/
theorem exists_apply_natAbs (k : Int) :
  ∃ s : Sign, s.apply k.natAbs = k
  := by
  obtain h | h := k.natAbs_eq
  · use .positive, h.symm
  · use .negative, h.symm

theorem dvd_apply_iff {d n : Nat} (s : Sign) :
  (d : Int) ∣ s.apply n ↔ d ∣ n
  := by
  cases s with
  | negative => rw [Sign.apply, Int.dvd_neg, Int.natCast_dvd_natCast]
  | positive => exact Int.natCast_dvd_natCast

theorem abs_apply_sub_apply (s : Sign) (m n : Int) :
  |s.apply m - s.apply n| = |m - n|
  := by
  cases s with
  | negative => rw [Sign.apply, Sign.apply, neg_sub_neg, abs_sub_comm]
  | positive => rfl

/-- The float of a large integer is not below the power of two of its first digit. -/
theorem le_abs_of_denotes_ofInt {k : Int} (hk : 2 ^ 53 ≤ k.natAbs) {q : ℚ}
    (hq : Denotes (Float.ofInt k) q) :
  2 ^ k.natAbs.log2 ≤ |q|
  := by
  obtain ⟨s, hs⟩ := exists_apply_natAbs k
  obtain hinfinity | ⟨p, hp, hdenotes⟩ := ofNat_of_le hk
  · cases s with
    | positive =>
      rw [← hs] at hq
      cases not_denotes_of_infinity hinfinity q hq
    | negative =>
      rw [← hs, Sign.apply, ofInt_neg_natCast (by omega)] at hq
      cases not_denotes_of_infinity (unpack_neg_of_infinity hinfinity) q hq
  · apply hp.trans
    cases s with
    | positive =>
      rw [← hs] at hq
      rw [hq.eq hdenotes]
      apply le_abs_self
    | negative =>
      rw [← hs, Sign.apply, ofInt_neg_natCast (by omega)] at hq
      rw [hq.eq (denotes_neg hdenotes), abs_neg]
      apply le_abs_self

theorem denotes_ofInt_zero : Denotes (Float.ofInt 0) (0 : Int) :=
  denotes_float_ofInt (by norm_num)

/-! ### Integers with a float -/

section

variable {b : Binary} (hb : b.IsCanonical) (hpos : 0 < b.mantissa)

include hb hpos

/-- An integer that rounds to a float has this float. -/
theorem Binary.Attracts.ofInt_eq {n : Nat} (h : b.Attracts n) :
  Float.ofInt (b.sign.apply n) = b.toFloat
  := by
  have hcount : digitCount n ≤ 309 := digitCount_le (lt_of_roundsTo hb h)
  obtain ⟨negative, m, t⟩ := b
  have hcanonical : IsCanonical ⟨false, m, t⟩ := hb.congr rfl rfl
  have hn : 0 < n := h.pos hpos
  have hnat : Float.ofNat n = toFloat ⟨false, m, t⟩ := by
    rw [ofNat_eq_nearest hn (by omega)]
    exact nearest_zero_eq hcanonical hpos rfl h
  cases negative with
  | false => exact hnat
  | true =>
    have hneg : -toFloat ⟨false, m, t⟩ = toFloat ⟨true, m, t⟩ := neg_toFloat hcanonical
    rw [← hneg, ← hnat]
    exact ofInt_neg_natCast hn

end

/-- An integer other than zero that is not too large has the float of a binary form to which it
rounds. -/
theorem exists_attracts {k : Int} (hk : k ≠ 0) (hlog : k.natAbs.log2 < 1023) :
  ∃ b : Binary, b.IsCanonical ∧ 0 < b.mantissa ∧ b.sign.apply k.natAbs = k
    ∧ b.Attracts k.natAbs ∧ ∃ whole : Nat, (b.mantissa : ℚ) * 2 ^ b.exponent = whole
  := by
  obtain ⟨b, hb, hpos, -, hround, whole, hwhole⟩ := exists_roundsTo (Int.natAbs_pos.mpr hk) hlog
  have hcanonical : ∀ negative, Binary.IsCanonical ⟨negative, b.mantissa, b.exponent⟩ :=
    fun negative => hb.congr rfl rfl
  obtain h | h := k.natAbs_eq
  · use ⟨false, b.mantissa, b.exponent⟩, hcanonical false, hpos, h.symm, hround, whole
  · use ⟨true, b.mantissa, b.exponent⟩, hcanonical true, hpos, h.symm, hround, whole

section

variable {b : Binary} (hb : b.IsCanonical) (hpos : 0 < b.mantissa) {whole : Nat}
  (hwhole : (b.mantissa : ℚ) * 2 ^ b.exponent = whole) (hlt : whole < 10 ^ 21)

include hb hpos hwhole hlt

/-- The integers with the float of a binary form are those that round to it, with its sign. -/
theorem ofInt_eq_toFloat_iff {k : Int} :
  Float.ofInt k = b.toFloat ↔ ∃ n, b.Attracts n ∧ b.sign.apply n = k
  := by
  constructor
  · intro h
    have hdenotes := hb.denotes
    rw [← h] at hdenotes
    have habs := b.abs_toRat
    rw [hwhole] at habs
    obtain rfl | hk := eq_or_ne k 0
    -- zero has the float zero
    · rw [hdenotes.eq denotes_ofInt_zero, Int.cast_zero, abs_zero, ← hwhole, zero_eq_mul] at habs
      have hpositive : (0 : ℚ) < b.mantissa * 2 ^ b.exponent := by positivity
      cases hpositive.ne' (mul_eq_zero.mpr habs)
    · obtain hlog | hlog := Nat.lt_or_ge k.natAbs.log2 1023
      · obtain ⟨c, hc, hcpos, hsign, hround, -⟩ := exists_attracts hk hlog
        have hfloat := hround.ofInt_eq hc hcpos
        rw [hsign, h] at hfloat
        obtain rfl := Binary.toFloat_inj hb hc hfloat
        use k.natAbs
      -- the float of an integer that is too large is too large
      · have hlarge : 2 ^ 53 ≤ k.natAbs := (Nat.le_log2 (Int.natAbs_ne_zero.mpr hk)).mp (by omega)
        have hle := le_abs_of_denotes_ofInt hlarge hdenotes
        have hpow : (2 : ℚ) ^ 70 ≤ 2 ^ k.natAbs.log2 :=
          pow_le_pow_right₀ (by norm_num) (by omega)
        have hcast : (whole : ℚ) < 10 ^ 21 := by exact_mod_cast hlt
        rw [habs] at hle
        linarith
  · rintro ⟨n, hround, rfl⟩
    exact hround.ofInt_eq hb hpos

end

/-! ### Shortest integers -/

/-- Of the integers with the same float, the integer ends in as many zeros as any other, and it is
nearest to the number of the float among those that end in as many. -/
structure IsShortestInteger (k : Int) : Prop where
  zeros : ∀ (m : Int) (e : Nat), Float.ofInt m = Float.ofInt k → 10 ^ e ∣ m → 10 ^ e ∣ k
  nearest : ∀ (m : Int) (q : ℚ), Denotes (Float.ofInt k) q → Float.ofInt m = Float.ofInt k →
    (∀ e : Nat, 10 ^ e ∣ k → 10 ^ e ∣ m) → |k - q| ≤ |m - q|

section

variable {b : Binary} (hb : b.IsCanonical) (hpos : 0 < b.mantissa) {whole : Nat}
  (hwhole : (b.mantissa : ℚ) * 2 ^ b.exponent = whole) (hlt : whole < 10 ^ 21)

include hb hpos hwhole hlt

theorem isShortestInteger_apply_iff {n : Nat} (hround : b.Attracts n) :
  IsShortestInteger (b.sign.apply n) ↔ b.IsShortest whole n
  := by
  have hdenotes := hb.denotes
  rw [← hround.ofInt_eq hb hpos, Binary.toRat_eq_apply hwhole] at hdenotes
  have hfloat : ∀ {k : Int}, Float.ofInt k = Float.ofInt (b.sign.apply n)
      ↔ ∃ m, b.Attracts m ∧ b.sign.apply m = k := by
    intro k
    rw [hround.ofInt_eq hb hpos]
    apply ofInt_eq_toFloat_iff hb hpos hwhole hlt
  have hdvd : ∀ {e m : Nat}, (10 : Int) ^ e ∣ b.sign.apply m ↔ 10 ^ e ∣ m := by
    intro e m
    exact_mod_cast dvd_apply_iff (d := 10 ^ e) b.sign
  have hdistance : ∀ m : Nat, |((b.sign.apply m : Int) : ℚ) - (b.sign.apply whole : Int)|
      = (|(m : Int) - whole| : Int) := by
    intro m
    rw [← abs_apply_sub_apply b.sign]
    push_cast
    rfl
  constructor
  · intro h
    constructor
    · exact hround
    · intro m e hm hzeros
      exact hdvd.mp (h.zeros _ e (hfloat.mpr ⟨m, hm, rfl⟩) (hdvd.mpr hzeros))
    · intro m hm hzeros
      have hnear := h.nearest _ _ hdenotes (hfloat.mpr ⟨m, hm, rfl⟩)
        fun e he => hdvd.mpr (hzeros e (hdvd.mp he))
      rw [hdistance, hdistance] at hnear
      exact_mod_cast hnear
  · intro h
    constructor
    · intro k e hk hzeros
      obtain ⟨m, hm, rfl⟩ := hfloat.mp hk
      exact hdvd.mpr (h.zeros m e hm (hdvd.mp hzeros))
    · intro k q hq hk hzeros
      obtain ⟨m, hm, rfl⟩ := hfloat.mp hk
      rw [hq.eq hdenotes, hdistance, hdistance]
      exact_mod_cast h.nearest m hm fun e he => hdvd.mp (hzeros e (hdvd.mpr he))

end

section

variable {k : Int} (hk : k.natAbs < 10 ^ 21 - 65536)

include hk

/-- An integer other than zero that is written without an exponent has the float of a binary form
to which it rounds. -/
theorem exists_attracts_of_lt (hne : k ≠ 0) :
  ∃ (b : Binary) (whole : Nat), b.IsCanonical ∧ 0 < b.mantissa
    ∧ (b.mantissa : ℚ) * 2 ^ b.exponent = whole ∧ whole < 10 ^ 21 ∧ b.Attracts k.natAbs
    ∧ b.sign.apply k.natAbs = k
  := by
  have hlog : k.natAbs.log2 < 70 := (Nat.log2_lt (Int.natAbs_ne_zero.mpr hne)).mpr (by omega)
  obtain ⟨b, hb, hpos, hsign, hround, whole, hwhole⟩ := exists_attracts hne (by omega)
  use b, whole, hb, hpos, hwhole, whole_lt_of_lt hwhole hround hb hk, hround, hsign

/-- The float of an integer is written as a shortest integer with the same float. -/
theorem exists_numberText_ofInt :
  ∃ m : Int, Value.numberText (Float.ofInt k) = toString m ∧ Float.ofInt m = Float.ofInt k
    ∧ IsShortestInteger m
  := by
  obtain rfl | hne := eq_or_ne k 0
  · use 0
    refine ⟨numberText_of_denotes denotes_ofInt_zero (by norm_num), rfl, ?_⟩
    constructor
    · intro m e _ _
      exact dvd_zero _
    · intro m q hq _ _
      rw [hq.eq denotes_ofInt_zero, sub_self, abs_zero]
      exact abs_nonneg _
  · obtain ⟨b, whole, hb, hpos, hwhole, hlt, hround, hsign⟩ := exists_attracts_of_lt hk hne
    obtain ⟨n, htext, hshortest, -⟩ := exists_numberText_toFloat hb hwhole hpos hlt
    have hfloat := hround.ofInt_eq hb hpos
    rw [hsign] at hfloat
    use b.sign.apply n
    rw [hfloat]
    use htext, hshortest.attracts.ofInt_eq hb hpos
    exact (isShortestInteger_apply_iff hb hpos hwhole hlt hshortest.attracts).mpr hshortest

/-- Only one integer is shortest among those with the same float. -/
theorem IsShortestInteger.eq {m : Int} (hm : IsShortestInteger m) (hshortest : IsShortestInteger k)
    (h : Float.ofInt m = Float.ofInt k) :
  m = k
  := by
  obtain rfl | hne := eq_or_ne k 0
  -- zero is nearest to zero, and it ends in any number of zeros
  · have hzero := denotes_ofInt_zero
    rw [← h] at hzero
    have hnear := hm.nearest 0 _ hzero h.symm fun e _ => dvd_zero _
    rw [sub_self, abs_zero, abs_nonpos_iff, sub_eq_zero] at hnear
    exact_mod_cast hnear
  · obtain ⟨b, whole, hb, hpos, hwhole, hlt, hround, hsign⟩ := exists_attracts_of_lt hk hne
    have hfloat := hround.ofInt_eq hb hpos
    rw [hsign, ← h, ofInt_eq_toFloat_iff hb hpos hwhole hlt] at hfloat
    obtain ⟨n, hround', rfl⟩ := hfloat
    rw [← hsign] at hshortest ⊢
    rw [isShortestInteger_apply_iff hb hpos hwhole hlt hround] at hshortest
    rw [isShortestInteger_apply_iff hb hpos hwhole hlt hround'] at hm
    rw [hm.eq hb hwhole hshortest]

/-- An integer is written as its own digits exactly when it is shortest. -/
theorem numberText_ofInt_eq_iff :
  Value.numberText (Float.ofInt k) = toString k ↔ IsShortestInteger k
  := by
  obtain ⟨m, htext, hfloat, hshortest⟩ := exists_numberText_ofInt hk
  rw [htext]
  constructor
  · intro h
    rwa [← Int.repr_inj.mp h]
  · intro hshortest'
    rw [hshortest.eq hk hshortest' hfloat]

end

/-- An integer up to `2 ^ 53` is the only one with its float. -/
theorem isShortestInteger_of_abs_le {k : Int} (hk : |k| ≤ 2 ^ 53) :
  IsShortestInteger k
  := by
  have hlt : k.natAbs < 10 ^ 21 - 65536 := by
    rw [Int.abs_eq_natAbs] at hk
    omega
  rw [← numberText_ofInt_eq_iff hlt]
  exact numberText_of_denotes (denotes_float_ofInt hk) hk

end FieldFormula.Decimal
