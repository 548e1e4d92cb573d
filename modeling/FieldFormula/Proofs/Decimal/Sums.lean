import FieldFormula.Proofs.Decimal.Counts

/-!
# The sign of a sum

The sum of two floats is below zero if the sum of their numbers is.  A sum with a short mantissa is
exact, as both numbers are multiples of the smaller unit, and the rounding of a long mantissa keeps
its sign, also where the sum becomes infinite.

* `HasValue.add_of_neg`: a sum below zero is exact, or its mantissa is long.
* `add_lt_zero`: a sum below zero is a float below zero.
-/

namespace FieldFormula.Decimal

open Float.Model (UnpackedFloat)
open Float.Model.UnpackedFloat (Sign)

/-! ### Unpacked floats -/

/-- The number of an unpacked float is one of a float. -/
theorem HasValue.isRepresentable {u : UnpackedFloat} {q : ℚ} (h : HasValue u q) :
  IsRepresentable q
  := by
  obtain ⟨b, hb, -, rfl⟩ := hasValue_iff.mp h
  use b, hb, b.abs_toRat.symm

/-- The unpacked float is negative, and its mantissa has 53 bits.  Its exponent may be too large
for a finite float. -/
def IsLongNegative (u : UnpackedFloat) : Prop :=
  ∃ m t hm, u = .finite .negative m t hm ∧ 2 ^ 52 ≤ m ∧ m < 2 ^ 53 ∧ -1074 ≤ t

/-- A negative mantissa with more than 53 bits stays negative when it is rounded. -/
theorem isLongNegative_normalize {m e : Int} (hm : m ≤ -2 ^ 53) (he : -1074 ≤ e) (s : Sign) :
  IsLongNegative (.normalize .binary64 m e s)
  := by
  have hcompare : compare m 0 = .lt := compare_lt_iff_lt.mpr (by omega)
  obtain ⟨n, hn⟩ : ∃ n, (-m).toNat = n := ⟨_, rfl⟩
  have hlarge : 2 ^ 53 ≤ n := by omega
  have hlog : 53 ≤ n.log2 := (Nat.le_log2 (by omega)).mpr hlarge
  have hshift : (e - max (n.log2 + e - 52 : Int) (-1074)).toNat = 0 := by omega
  obtain ⟨r, t, hr, hround, hlow, hhigh, ht⟩ :=
    exists_roundWithAccuracy_eq (m := n) (by omega) (e := e) (by omega) .negative
  refine ⟨r, t, hr, ?_, hlow, hhigh, by omega⟩
  simp only [UnpackedFloat.normalize, hcompare, UnpackedFloat.round, targetExponent_eq,
    UnpackedFloat.decreaseExponent, hn, hshift]
  rw [Nat.shiftLeft_zero, Nat.cast_zero, sub_zero]
  exact hround

/-- A sum below zero is exact, or its mantissa is long. -/
theorem HasValue.add_of_neg {u v : UnpackedFloat} {p q : ℚ} (hu : HasValue u p)
    (hv : HasValue v q) (hneg : p + q < 0) :
  HasValue (.add .binary64 u v) (p + q) ∨ IsLongNegative (.add .binary64 u v)
  := by
  by_cases hsum : IsRepresentable (p + q)
  · exact Or.inl (hu.add hv hsum)
  · right
    cases hu with
    | zero s =>
      rw [zero_add] at hsum
      cases hsum hv.isRepresentable
    | finite s m e hm h =>
      cases hv with
      | zero s' =>
        rw [add_zero] at hsum
        cases hsum (HasValue.finite s m e hm h).isRepresentable
      | finite s' m' e' hm' h' =>
        -- both numbers are multiples of the smaller unit
        have hle : -1074 ≤ min e e' := le_min h.le_exponent h'.le_exponent
        have hge : min e e' ≤ 971 := (min_le_left e e').trans h.exponent_le
        obtain ⟨n, hn⟩ : ∃ n, s.apply (m <<< (e - min e e').toNat : Nat)
            + s'.apply (m' <<< (e' - min e e').toNat : Nat) = n := ⟨_, rfl⟩
        have hvalue : (n : ℚ) * 2 ^ min e e'
            = (s.apply m : Int) * 2 ^ e + (s'.apply m' : Int) * 2 ^ e' := by
          rw [← hn, Int.cast_add, add_mul, apply_shiftLeft_mul s m (min_le_left e e'),
            apply_shiftLeft_mul s' m' (min_le_right e e')]
        rw [← hvalue] at hneg hsum
        have hunit : (0 : ℚ) < 2 ^ min e e' := by positivity
        have hnegative : n < 0 := by exact_mod_cast neg_of_mul_neg_left hneg hunit.le
        have hlong : 2 ^ 53 ≤ n.natAbs := by
          by_contra! hshort
          apply hsum (isRepresentable_mul_two_pow hshort hle hge _)
          rw [abs_mul, abs_of_pos hunit, Nat.cast_natAbs, Int.cast_abs]
        rw [UnpackedFloat.add]
        simp only [UnpackedFloat.decreaseExponent, hn]
        apply isLongNegative_normalize (by omega) hle

/-! ### Floats -/

theorem ofModel_lt_zero_of_isLongNegative {u : UnpackedFloat} (h : IsLongNegative u) :
  Float.ofModel (.pack u) < 0.0 ∧ ¬ 0.0 ≤ Float.ofModel (.pack u)
  := by
  obtain ⟨m, t, hm, rfl, hlow, hhigh, hle⟩ := h
  obtain hge | hlt := le_or_gt t 971
  · have hvalue := (HasValue.finite .negative m t hm ⟨hhigh, hle, hge, Or.inl hlow⟩).denotes
    have hneg : ((Sign.negative.apply m : Int) : ℚ) * 2 ^ t < 0 := by
      have hpos : (0 : ℚ) < m * 2 ^ t := by positivity
      rw [Sign.apply, Int.cast_neg, Int.cast_natCast, neg_mul]
      linarith
    rw [lt_iff hvalue denotes_zero, le_iff denotes_zero hvalue]
    use hneg, hneg.not_ge
  · rw [pack_of_lt_exponent hm hlt]
    decide +kernel

/-- A sum below zero is a float below zero. -/
theorem add_lt_zero {x y : Float} {p q : ℚ} (hx : Denotes x p) (hy : Denotes y q)
    (hneg : p + q < 0) :
  x + y < 0.0 ∧ ¬ 0.0 ≤ x + y
  := by
  obtain hexact | hlong := HasValue.add_of_neg hx hy hneg
  · have hsum : Denotes (x + y) (p + q) := hexact.denotes
    rw [lt_iff hsum denotes_zero, le_iff denotes_zero hsum]
    use hneg, hneg.not_ge
  · exact ofModel_lt_zero_of_isLongNegative hlong

end FieldFormula.Decimal
