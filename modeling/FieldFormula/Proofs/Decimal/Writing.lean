import FieldFormula.Value
import FieldFormula.Proofs.Decimal.Grids
import FieldFormula.Proofs.Decimal.Numeral

/-!
# Natural numbers as floats, written

A natural number is rounded to a float that is an integer, and below `10 ^ 21` this integer is
written as the digits of a number that rounds to it.  Up to `2 ^ 53` these are the digits of the
integer itself, as neighbours are at most two apart there.

* `exists_roundsTo`: every natural number rounds to an integer that is a float.
* `lt_of_roundsTo_of_lt`, `whole_lt_of_lt`: numbers and the integers to which they round lie on the
  same side of `10 ^ 21`, as long as the numbers keep half a unit away from it.
* `exists_decimal_eq`: an integer below `10 ^ 21` is written as digits that round to it.
* `numberText_of_denotes`: an integer up to `2 ^ 53` is written as its own digits.
-/

namespace FieldFormula.Decimal

open Float.Model (UnpackedFloat)
open Float.Model.UnpackedFloat (Sign)

/-! ### Digits around a point -/

/-- An integer is written as its digits. -/
theorem decimal_eq_toDigits {l : Layout} (htail : l.integerTail = []) {n e : Nat} (hn : 0 < n)
    (hpositional : l.positional (digitCount (n * 10 ^ e) - 1) = true) :
  l.decimal ⟨n, e⟩ = Nat.toDigits 10 (n * 10 ^ e)
  := by
  have hdigits : digitCount (n * 10 ^ e) = (Nat.toDigits 10 n).length + e := by
    rw [digitCount_of_pos (by positivity), toDigits_mul_pow hn, List.length_append,
      List.length_replicate]
  have hlength := length_significantDigits_le n
  have hlast : ((Nat.toDigits 10 n).length : Int) - 1 + e = digitCount (n * 10 ^ e) - 1 := by
    rw [hdigits]
    push_cast
    ring
  have hone : 1 ≤ (Nat.toDigits 10 n).length := Nat.length_toDigits_pos
  have hfill : ((digitCount (n * 10 ^ e) : Int) - 1 + 1 - (significantDigits n).length).toNat
      = (Nat.toDigits 10 n).length + e - (significantDigits n).length := by
    rw [hdigits]
    omega
  simp only [Layout.decimal, hlast, hpositional, if_true, Layout.plain]
  rw [if_neg (by omega), if_pos (by omega), htail, List.append_nil, hfill,
    significantDigits_fill hn]

/-! ### Natural numbers that round to a float -/

/-- A natural number with more than 53 bits rounds to a multiple of a power of two. -/
theorem exists_roundsTo_of_le {n : Nat} (hle : 2 ^ 53 ≤ n) (hlog : n.log2 < 1023) :
  ∃ m k : Nat, Binary.IsCanonical ⟨false, m, k⟩ ∧ 0 < m ∧ RoundsTo (n * 2 ^ (-(k : Int))) m
  := by
  have hlow : 53 ≤ n.log2 := (Nat.le_log2 (by omega)).mpr hle
  obtain ⟨hbelow, habove⟩ := div_two_pow_log2_bounds (m := n) (by omega)
  obtain ⟨m, k, hmlow, hmhigh, hk, hround⟩ :=
    ((represents_exact n).shiftRight (n.log2 - 52)).exists_roundsTo hbelow habove
  use m, n.log2 - 52 + k
  refine ⟨?_, by omega, ?_⟩
  · constructor <;> dsimp only <;> omega
  · rwa [zpow_neg, zpow_natCast, ← div_eq_mul_inv, pow_add, ← div_div]

/-- A natural number up to `2 ^ 53` is that of a float. -/
theorem exists_mul_eq {n : Nat} (hn : 0 < n) (hle : n ≤ 2 ^ 53) :
  ∃ b : Binary, b.IsCanonical ∧ 0 < b.mantissa ∧ b.negative = false
    ∧ (b.mantissa : ℚ) * 2 ^ b.exponent = n
  := by
  have habs : |(n : Int)| ≤ 2 ^ 53 := by
    rw [Nat.abs_cast]
    exact_mod_cast hle
  obtain ⟨b, hb, hvalue⟩ := isRepresentable_intCast habs
  rw [Int.cast_natCast, Nat.abs_cast] at hvalue
  have hpos : 0 < b.mantissa := by
    rw [Nat.pos_iff_ne_zero]
    intro hzero
    rw [hzero, Nat.cast_zero, zero_mul] at hvalue
    have hcast : n = 0 := by exact_mod_cast hvalue.symm
    omega
  use ⟨false, b.mantissa, b.exponent⟩, hb.congr rfl rfl, hpos, rfl, hvalue

/-- Every natural number that is not too large rounds to an integer that is a float. -/
theorem exists_roundsTo {n : Nat} (hn : 0 < n) (hlog : n.log2 < 1023) :
  ∃ b : Binary, b.IsCanonical ∧ 0 < b.mantissa ∧ b.negative = false
    ∧ RoundsTo (n * 2 ^ (-b.exponent)) b.mantissa
    ∧ ∃ whole : Nat, (b.mantissa : ℚ) * 2 ^ b.exponent = whole
  := by
  obtain hsmall | hlarge := Nat.lt_or_ge n (2 ^ 53)
  · obtain ⟨b, hb, hpos, hsign, hvalue⟩ := exists_mul_eq hn hsmall.le
    use b, hb, hpos, hsign, roundsTo_whole hvalue, n
  · obtain ⟨m, k, hb, hpos, hround⟩ := exists_roundsTo_of_le hlarge hlog
    use ⟨false, m, k⟩, hb, hpos, rfl, hround, m * 2 ^ k
    rw [zpow_natCast]
    push_cast
    rfl

section

variable {b : Binary} {whole : Nat} (hwhole : (b.mantissa : ℚ) * 2 ^ b.exponent = whole) {n : Nat}
  (hround : RoundsTo (n * 2 ^ (-b.exponent)) b.mantissa) (hb : b.IsCanonical)

include hwhole hround hb

/-- As `10 ^ 21` is itself a float, no number rounds to a smaller one without being smaller. -/
theorem lt_of_roundsTo_of_lt (hlt : whole < 10 ^ 21) :
  n < 10 ^ 21
  := by
  obtain ht | ht := lt_or_ge 0 b.exponent
  · obtain ⟨k, hk, hexponent, rfl, hlarge⟩ := exists_whole_eq hwhole hb ht
    have hle := two_mul_le hwhole hround hexponent
    have hk : k < 18 := by
      by_contra hk
      have hpow : 2 ^ 18 ≤ 2 ^ k := Nat.pow_le_pow_right (by decide) (by omega)
      have hmul := Nat.mul_le_mul hlarge hpow
      omega
    have hsplit : 5 ^ 21 * 2 ^ (21 - k) * 2 ^ k = 10 ^ 21 := by
      rw [mul_assoc, ← pow_add, Nat.sub_add_cancel (by omega)]
      norm_num
    rw [← hsplit] at hlt ⊢
    have hnext := Nat.mul_le_mul_right (2 ^ k) (Nat.succ_le_of_lt (Nat.lt_of_mul_lt_mul_right hlt))
    have hpos : 0 < 2 ^ k := by positivity
    rw [Nat.succ_mul] at hnext
    omega
  · rwa [eq_of_roundsTo hwhole hround ht]

/-- Numbers that are more than half a unit below `10 ^ 21` round to an integer below it. -/
theorem whole_lt_of_lt (hlt : n < 10 ^ 21 - 65536) :
  whole < 10 ^ 21
  := by
  obtain ht | ht := lt_or_ge 0 b.exponent
  · obtain ⟨k, hk, hexponent, rfl, hlarge⟩ := exists_whole_eq hwhole hb ht
    have hle := four_mul_le hwhole hround hexponent
    obtain hk | rfl | hk := Nat.lt_trichotomy k 17
    · have hpow : 2 ^ k ≤ 2 ^ 16 := Nat.pow_le_pow_right (by decide) (by omega)
      have hmul := Nat.mul_le_mul hb.mantissa_lt.le hpow
      omega
    · split at hle <;> omega
    -- the multiples of the unit that are in question are too large for the number
    · have hpow : 2 ^ 18 ≤ 2 ^ k := Nat.pow_le_pow_right (by decide) (by omega)
      have hmul := Nat.mul_le_mul_right (2 ^ k) hlarge
      split at hle <;> omega
  · rw [← eq_of_roundsTo hwhole hround ht]
    omega

/-- Up to `2 ^ 53` a multiple of ten rounds to no other integer. -/
theorem eq_of_ten_dvd (hle : whole ≤ 2 ^ 53) (hdvd : 10 ∣ n) :
  n = whole
  := by
  obtain ht | ht := lt_or_ge 0 b.exponent
  -- the only integer with a larger unit is `2 ^ 53`, and no multiple of ten is near to it
  · obtain ⟨k, hk, hexponent, rfl, hlarge⟩ := exists_whole_eq hwhole hb ht
    have hk : k = 1 := by
      by_contra hne
      have hpow : 2 ^ 2 ≤ 2 ^ k := Nat.pow_le_pow_right (by decide) (by omega)
      have hmul := Nat.mul_le_mul hlarge hpow
      omega
    subst hk
    have habove := two_mul_le hwhole hround hexponent
    have hbelow := four_mul_le hwhole hround hexponent
    split at hbelow <;> omega
  · apply eq_of_roundsTo hwhole hround ht

end

/-! ### Floats that are integers -/

section

variable {b : Binary} (hb : b.IsCanonical) (hpos : 0 < b.mantissa) {whole : Nat}
  (hwhole : (b.mantissa : ℚ) * 2 ^ b.exponent = whole)

include hb hpos hwhole

/-- An integer below `10 ^ 21` is written as the digits of the shortest integer that rounds to it,
and up to `2 ^ 53` this is the integer itself. -/
theorem exists_decimal_eq (hlt : whole < 10 ^ 21) :
  ∃ n : Nat, Value.layout.decimal (shortest Value.layout.tie b) = Nat.toDigits 10 n
    ∧ b.IsShortest whole n ∧ (whole ≤ 2 ^ 53 → n = whole)
  := by
  obtain ⟨n, e, hshortest, hisShortest⟩ := exists_isShortest hb hpos hwhole Value.layout.tie
  have hround := hisShortest.attracts
  have hn : 0 < n := Nat.pos_of_mul_pos_right (hround.pos hpos)
  have hlimit := lt_of_roundsTo_of_lt hwhole hround hb hlt
  have hdigits := digitCount_le hlimit
  use n * 10 ^ e
  refine ⟨?_, hisShortest, ?_⟩
  · rw [hshortest]
    apply decimal_eq_toDigits rfl hn
    simp only [Value.layout, Bool.and_eq_true, decide_eq_true_eq]
    omega
  · intro hle
    by_cases hten : 10 ∣ n * 10 ^ e
    · exact eq_of_ten_dvd hwhole hround hb hle hten
    · -- the integer itself is nearest to itself, and it needs no zeros at its end
      have hself := hisShortest.nearest whole (attracts_whole hwhole) (by
        intro e' hdvd
        obtain rfl | he := Nat.eq_zero_or_pos e'
        · exact one_dvd whole
        · cases hten ((dvd_pow_self 10 he.ne').trans hdvd))
      rw [sub_self, abs_zero, abs_nonpos_iff, sub_eq_zero] at hself
      exact_mod_cast hself

end

/-- The digits of an integer with its sign. -/
theorem toList_toString (k : Int) :
  (toString k).toList = (if k < 0 then ['-'] else []) ++ Nat.toDigits 10 k.natAbs
  := by
  cases k with
  | ofNat n =>
    rw [if_neg (by simp)]
    apply String.toList_ofList
  | negSucc n =>
    rw [if_pos (Int.negSucc_lt_zero n)]
    have hrepr : toString (Int.negSucc n) = "-" ++ Nat.repr (n + 1) := rfl
    simp [hrepr, Nat.repr, Int.natAbs_negSucc]

/-- The digits of a positive number with a sign. -/
theorem toList_toString_apply {n : Nat} (hn : 0 < n) (b : Binary) :
  (toString (b.sign.apply n)).toList = (if b.negative then ['-'] else []) ++ Nat.toDigits 10 n
  := by
  rw [toList_toString, Binary.sign]
  cases b.negative with
  | false => simp [Sign.apply]
  | true => simp [Sign.apply, hn]

section

variable {b : Binary} (hb : b.IsCanonical) {whole : Nat}
  (hwhole : (b.mantissa : ℚ) * 2 ^ b.exponent = whole)

include hwhole

/-- The number of a float that is an integer. -/
theorem Binary.toRat_eq_apply :
  b.toRat = (b.sign.apply whole : Int)
  := by
  rw [toRat, sign]
  split <;> simp [Sign.apply, ← hwhole]

include hb

/-- A float that is an integer below `10 ^ 21` is written as the shortest integer that rounds to it,
and up to `2 ^ 53` this is the integer itself. -/
theorem exists_numberText_toFloat (hpos : 0 < b.mantissa) (hlt : whole < 10 ^ 21) :
  ∃ n : Nat, Value.numberText b.toFloat = toString (b.sign.apply n) ∧ b.IsShortest whole n
    ∧ (whole ≤ 2 ^ 53 → n = whole)
  := by
  obtain ⟨n, hdecimal, hshortest, hexact⟩ := exists_decimal_eq hb hpos hwhole hlt
  use n
  refine ⟨?_, hshortest, hexact⟩
  have hform : Binary.ofFloat? b.toFloat = some b := Binary.ofFloat?_eq_some_iff.mpr ⟨hb, rfl⟩
  rw [← String.toList_inj, toList_toString_apply (hshortest.attracts.pos hpos), Value.numberText,
    String.toList_ofList, Layout.render, hform]
  cases hsign : b.negative <;> simp [hpos.ne', hdecimal, hsign]

end

/-- The magnitude of a float that is an integer. -/
theorem Binary.eq_natAbs_of_toRat_eq {b : Binary} {k : Int} (h : b.toRat = k) :
  (b.mantissa : ℚ) * 2 ^ b.exponent = k.natAbs
  := by
  rw [Nat.cast_natAbs, Int.cast_abs, ← h, abs_toRat]

/-- An integer up to `2 ^ 53` is written as its own digits. -/
theorem numberText_of_denotes {x : Float} {k : Int} (hx : Denotes x k) (hk : |k| ≤ 2 ^ 53) :
  Value.numberText x = toString k
  := by
  obtain ⟨b, hform, hvalue⟩ := denotes_iff.mp hx
  obtain ⟨hb, rfl⟩ := Binary.ofFloat?_eq_some_iff.mp hform
  obtain hzero | hpos := Nat.eq_zero_or_pos b.mantissa
  · have hk : k = 0 := by
      rw [Binary.toRat_of_mantissa hzero] at hvalue
      exact_mod_cast hvalue.symm
    rw [Value.numberText, Layout.render, hform, hk]
    simp [hzero, Value.layout]
    rfl
  · have hwhole := Binary.eq_natAbs_of_toRat_eq hvalue
    rw [Int.abs_eq_natAbs] at hk
    obtain ⟨n, htext, -, hexact⟩ := exists_numberText_toFloat hb hwhole hpos (by omega)
    rw [Binary.toRat_eq_apply hwhole] at hvalue
    rw [htext, hexact (by omega), Int.cast_inj.mp hvalue]

end FieldFormula.Decimal
