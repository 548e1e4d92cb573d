import FieldFormula.Proofs.Decimal.Comparison
import FieldFormula.Proofs.Decimal.Reading

/-!
# Floats of counts

The float made of a natural number is exact up to `2 ^ 53`.  From there on it is at least `2 ^ 53`,
or infinite, so a number below `2 ^ 53` is compared with any count as if all counts were exact.

* `denotes_ofNat`, `ofNat_add_ofNat`: counts up to `2 ^ 53` are exact, and added exactly.
* `lt_ofNat_iff`: comparison with a count.
-/

namespace FieldFormula.Decimal

open Float.Model (UnpackedFloat)
open Float.Model.UnpackedFloat (Sign ExtendedMantissa)

/-- A natural number up to `2 ^ 53` is that of the float made of it. -/
theorem denotes_ofNat {n : Nat} (hn : n ≤ 2 ^ 53) :
  Denotes (Float.ofNat n) n
  := by
  have hbound : |(n : Int)| ≤ 2 ^ 53 := by
    rw [Nat.abs_cast]
    exact_mod_cast hn
  exact_mod_cast denotes_float_ofInt hbound

/-- Counts with a sum up to `2 ^ 53` are added exactly. -/
theorem ofNat_add_ofNat {m n : Nat} (h : m + n ≤ 2 ^ 53) :
  (Float.ofNat m + Float.ofNat n == Float.ofNat (m + n)) = true
  := by
  have hrepresentable : IsRepresentable (m + n : ℚ) := by
    have hbound : |((m + n : Nat) : Int)| ≤ 2 ^ 53 := by
      rw [Nat.abs_cast]
      exact_mod_cast h
    exact_mod_cast isRepresentable_intCast hbound
  have hm : Denotes (Float.ofNat m) m := denotes_ofNat (by omega)
  have hn : Denotes (Float.ofNat n) n := denotes_ofNat (by omega)
  rw [beq_iff (denotes_add hm hn hrepresentable) (denotes_ofNat h), Nat.cast_add]

/-! ### Large counts -/

/-- A long mantissa is rounded to one of 53 digits, and its exponent grows with the digits that are
dropped. -/
theorem exists_roundWithAccuracy_eq {m : Nat} (hm : 2 ^ 52 ≤ m) {e : Int}
    (he : -1074 ≤ m.log2 + e - 52) (s : Sign) :
  ∃ n t hn, UnpackedFloat.roundWithAccuracy .binary64 s m e .exact = .finite s n t hn
    ∧ 2 ^ 52 ≤ n ∧ n < 2 ^ 53 ∧ m.log2 + e - 52 ≤ t
  := by
  have hlog : 52 ≤ m.log2 := (Nat.le_log2 (by omega)).mpr hm
  have htarget : max (m.log2 + e - 52 : Int) (-1074) = m.log2 + e - 52 := max_eq_left he
  have hshift : (m.log2 + e - 52 - e).toNat = m.log2 - 52 := by omega
  obtain ⟨hge, hle⟩ := roundedMantissa_bounds hm
  obtain ⟨r, hr⟩ : ∃ r, (ExtendedMantissa.ofMantissaAndAccuracy m .exact
      >>> (m.log2 - 52)).roundedMantissa = r := ⟨_, rfl⟩
  rw [hr] at hge hle
  rw [← hshift] at hr
  obtain rfl | hlt := hle.eq_or_lt
  · -- the digits have become one more, and the last one is dropped again
    have htarget' : max ((2 ^ 53 : Nat).log2 + (m.log2 + e - 52) - 52 : Int) (-1074)
        = m.log2 + e - 51 := by
      rw [Nat.log2_two_pow]
      omega
    have hn : (ExtendedMantissa.ofMantissaAndAccuracy (2 ^ 53) .exact
        >>> (m.log2 + e - 51 - (m.log2 + e - 52)).toNat).mantissa = 2 ^ 52 := by
      rw [show (m.log2 + e - 51 - (m.log2 + e - 52)).toNat = 1 by omega]
      rfl
    have hround := roundWithAccuracy_of_roundedMantissa htarget (by omega) hr htarget'
      (by omega) hn (by decide) s
    exact ⟨_, _, _, hround, le_rfl, by decide, by omega⟩
  · have htarget' : max (r.log2 + (m.log2 + e - 52) - 52 : Int) (-1074) = m.log2 + e - 52 := by
      have hlow : 52 ≤ r.log2 := (Nat.le_log2 (by omega)).mpr hge
      have hhigh : r.log2 < 53 := (Nat.log2_lt (by omega)).mpr hlt
      omega
    have hn : (ExtendedMantissa.ofMantissaAndAccuracy r .exact
        >>> (m.log2 + e - 52 - (m.log2 + e - 52)).toNat).mantissa = r := by
      rw [sub_self]
      apply mantissa_ofMantissaAndAccuracy
    have hround := roundWithAccuracy_of_roundedMantissa htarget (by omega) hr htarget'
      le_rfl hn (by omega) s
    exact ⟨_, _, _, hround, hge, hlt, le_rfl⟩

/-- A mantissa with an exponent that is too large is packed as infinity. -/
theorem pack_of_lt_exponent {s : Sign} {m : Nat} {t : Int} (hm : 0 < m) (ht : 971 < t) :
  Float.Model.pack (.finite s m t hm) = .pack (.infinity s)
  := by
  have hfield : (2 : Nat) ^ 11 ≤ (t + (1023 : Nat) + (52 : Nat)).toNat + 1 := by omega
  have hpack : UnpackedFloat.pack .binary64 (.finite s m t hm)
      = UnpackedFloat.pack .binary64 (.infinity s) := if_pos hfield
  simp only [Float.Model.pack, hpack]

/-- The unpacked float of a large count before it is packed. -/
theorem exists_ofNat_eq {n : Nat} (hn : 2 ^ 53 ≤ n) :
  ∃ m t hm, Float.ofNat n = .ofModel (.pack (.finite .positive m t hm))
    ∧ 2 ^ 52 ≤ m ∧ m < 2 ^ 53 ∧ (n.log2 : Int) ≤ 52 + t
  := by
  have hpos : 0 < n := by omega
  have hlarge : 53 ≤ n.log2 := (Nat.le_log2 hpos.ne').mpr hn
  have hshift : n <<< 53 * 10 ^ 0 = n * 2 ^ 53 := by
    rw [pow_zero, mul_one, Nat.shiftLeft_eq]
  have hlog : (n <<< 53 * 10 ^ 0).log2 = n.log2 + 53 := by
    rw [hshift, log2_mul_two_pow hpos]
  have hbits : 2 ^ 52 ≤ n <<< 53 * 10 ^ 0 := by omega
  have htarget : -1074 ≤ ((n <<< 53 * 10 ^ 0).log2 : Int) + (-53 + 0) - 52 := by omega
  obtain ⟨m, t, hm, hround, hlow, hhigh, ht⟩ :=
    exists_roundWithAccuracy_eq hbits htarget .positive
  refine ⟨m, t, hm, ?_, hlow, hhigh, by omega⟩
  have hunpacked : UnpackedFloat.ofScientific .binary64 n (Int.ofNat 0)
      = .finite .positive m t hm := by
    have hsmall : ¬ Int.ofNat 0 < -((2 : Int) ^ 11 + n.log2) := by
      rw [Int.ofNat_eq_natCast]
      omega
    rw [UnpackedFloat.ofScientific, dif_neg hpos.ne', if_neg (by decide), if_neg hsmall,
      if_pos (by decide)]
    apply hround
  have hnot : ¬ (n < 2 ^ 53 ∧ 0 ≤ 22) := by omega
  rw [← hunpacked]
  apply dif_neg hnot

/-- The float of a large count is infinite or not below the power of two of its first digit. -/
theorem ofNat_of_le {n : Nat} (hn : 2 ^ 53 ≤ n) :
  (Float.ofNat n).toModel.unpack = .infinity .positive
    ∨ ∃ q : ℚ, 2 ^ n.log2 ≤ q ∧ Denotes (Float.ofNat n) q
  := by
  obtain ⟨m, t, hm, heq, hlow, hhigh, ht⟩ := exists_ofNat_eq hn
  have hlarge : 53 ≤ n.log2 := (Nat.le_log2 (by omega)).mpr hn
  obtain hle | hlt := le_or_gt t 971
  · right
    let b : Binary := ⟨false, m, t⟩
    have hleast : -1074 ≤ t := by omega
    have hb : b.IsCanonical := ⟨hhigh, hleast, hle, Or.inl hlow⟩
    have hrat : b.toRat = m * 2 ^ t := rfl
    use b.toRat
    constructor
    · have hmantissa : (2 : ℚ) ^ (52 : Int) ≤ m := by exact_mod_cast hlow
      rw [hrat]
      calc
        (2 : ℚ) ^ n.log2 = 2 ^ (n.log2 : Int) := (zpow_natCast 2 n.log2).symm
        _ ≤ 2 ^ (52 + t) := zpow_le_zpow_right₀ (by norm_num) ht
        _ = 2 ^ (52 : Int) * 2 ^ t := zpow_add₀ (by norm_num) 52 t
        _ ≤ (m : ℚ) * 2 ^ t := by gcongr
    · rw [heq, ← toFloat_of_positive (b := b) hm rfl]
      apply hb.denotes
  · left
    rw [heq, pack_of_lt_exponent hm hlt]
    rfl

/-- A number below `2 ^ 53`, or a number of any size and a count up to `2 ^ 53`, are compared
without regard to rounding. -/
theorem lt_ofNat_iff {x : Float} {k : Int} (hx : Denotes x k) {n : Nat}
    (h : k < 2 ^ 53 ∨ n ≤ 2 ^ 53) :
  x < Float.ofNat n ↔ k < n
  := by
  obtain hle | hlt := le_or_gt n (2 ^ 53)
  · rw [lt_iff hx (denotes_ofNat hle)]
    exact_mod_cast Iff.rfl
  · have hk : k < 2 ^ 53 := h.resolve_right (by omega)
    apply iff_of_true _ (by omega)
    obtain hinfinity | ⟨q, hq, hdenotes⟩ := ofNat_of_le hlt.le
    · have hcompare : x < Float.ofNat n
          ↔ (x.toModel.unpack.compare (Float.ofNat n).toModel.unpack == some .lt) = true :=
        decide_eq_true_iff
      rw [hcompare, hinfinity]
      rw [Denotes] at hx
      generalize x.toModel.unpack = u at hx
      generalize (k : ℚ) = q at hx
      cases hx <;> rfl
    · rw [lt_iff hx hdenotes]
      have hlarge : 53 ≤ n.log2 := (Nat.le_log2 (by omega)).mpr hlt.le
      have hpow : (2 : ℚ) ^ 53 ≤ 2 ^ n.log2 := pow_le_pow_right₀ (by norm_num) hlarge
      have hk : (k : ℚ) < 2 ^ 53 := by exact_mod_cast hk
      linarith

end FieldFormula.Decimal
