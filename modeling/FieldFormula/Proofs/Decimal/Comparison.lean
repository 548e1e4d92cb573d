import FieldFormula.Proofs.Decimal.Exact

/-!
# Comparing floats

Floats are compared by their signs, their exponents and their mantissas, in this order.  As the
forms of finite floats are canonical, a larger exponent belongs to a larger number, so floats are
compared as the rational numbers for which they stand.

* `compare_eq`: unpacked floats are compared as rational numbers.
* `lt_iff`, `le_iff`, `beq_iff`: the order and the equality of finite floats.
* `exists_denotes_of_abs_lt`: a float whose magnitude is below that of another is finite.
-/

namespace FieldFormula.Decimal

open Float.Model (UnpackedFloat)
open Float.Model.UnpackedFloat (Sign)

/-! ### Canonical forms -/

section

variable {b c : Binary} (hb : b.IsCanonical) (hc : c.IsCanonical)

include hb hc

/-- A larger exponent belongs to a larger magnitude. -/
theorem mul_zpow_lt_of_exponent_lt (h : b.exponent < c.exponent) :
  (b.mantissa : ℚ) * 2 ^ b.exponent < c.mantissa * 2 ^ c.exponent
  := by
  have hnormal : 2 ^ 52 ≤ c.mantissa := by
    apply hc.normal.resolve_right
    have hle := hb.le_exponent
    omega
  have hlow : (2 : ℚ) ^ 52 ≤ c.mantissa := by exact_mod_cast hnormal
  have hhigh : (b.mantissa : ℚ) < 2 ^ 53 := by exact_mod_cast hb.mantissa_lt
  calc
    (b.mantissa : ℚ) * 2 ^ b.exponent < 2 ^ 53 * 2 ^ b.exponent := by gcongr
    _ = 2 ^ 52 * 2 ^ (b.exponent + 1) := by
      rw [zpow_add_one₀ (by norm_num)]
      ring
    _ ≤ c.mantissa * 2 ^ c.exponent := by
      gcongr
      · norm_num
      · omega

/-- Magnitudes are compared by their exponents first and by their mantissas second. -/
theorem compare_mul_zpow :
  compare ((b.mantissa : ℚ) * 2 ^ b.exponent) (c.mantissa * 2 ^ c.exponent)
    = (compare b.exponent c.exponent).then (compare b.mantissa c.mantissa)
  := by
  obtain hlt | heq | hgt := Int.lt_trichotomy b.exponent c.exponent
  · rw [compare_lt_iff_lt.mpr hlt, compare_lt_iff_lt.mpr (mul_zpow_lt_of_exponent_lt hb hc hlt)]
    rfl
  · rw [compare_eq_iff_eq.mpr heq, heq]
    have hpos : (0 : ℚ) < 2 ^ c.exponent := by positivity
    obtain hlt | heq | hgt := Nat.lt_trichotomy b.mantissa c.mantissa
    · rw [compare_lt_iff_lt.mpr hlt, compare_lt_iff_lt.mpr]
      · rfl
      · gcongr
    · rw [heq, compare_eq_iff_eq.mpr rfl, compare_eq_iff_eq.mpr rfl]
      rfl
    · rw [compare_gt_iff_gt.mpr hgt, compare_gt_iff_gt.mpr]
      · rfl
      · gcongr
  · rw [compare_gt_iff_gt.mpr hgt, compare_gt_iff_gt.mpr (mul_zpow_lt_of_exponent_lt hc hb hgt)]
    rfl

end

/-! ### Unpacked floats -/

theorem compare_neg (p q : ℚ) :
  compare (-p) (-q) = (compare p q).swap
  := by
  obtain hlt | rfl | hgt := lt_trichotomy p q
  · rw [compare_lt_iff_lt.mpr hlt, compare_gt_iff_gt.mpr (neg_lt_neg hlt)]
    rfl
  · rw [compare_eq_iff_eq.mpr rfl, compare_eq_iff_eq.mpr rfl]
    rfl
  · rw [compare_gt_iff_gt.mpr hgt, compare_lt_iff_lt.mpr (neg_lt_neg hgt)]
    rfl

/-- Unpacked floats are compared as rational numbers. -/
theorem compare_eq {u v : UnpackedFloat} {p q : ℚ} (hu : HasValue u p) (hv : HasValue v q) :
  u.compare v = some (compare p q)
  := by
  have hpos : ∀ {m : Nat} {e : Int}, 0 < m → (0 : ℚ) < m * 2 ^ e := fun hm => by positivity
  cases hu with
  | zero s =>
    cases hv with
    | zero s' => rw [compare_eq_iff_eq.mpr rfl, UnpackedFloat.compare]
    | finite s' m' e' hm' h' =>
      have hlt := hpos (e := e') hm'
      cases s' with
      | negative =>
        rw [compare_gt_iff_gt.mpr (by simpa [Sign.apply] using hlt), UnpackedFloat.compare]
      | positive =>
        rw [compare_lt_iff_lt.mpr (by simpa [Sign.apply] using hlt), UnpackedFloat.compare]
  | finite s m e hm h =>
    have hlt := hpos (e := e) hm
    cases hv with
    | zero s' =>
      cases s with
      | negative =>
        rw [compare_lt_iff_lt.mpr (by simpa [Sign.apply] using hlt), UnpackedFloat.compare]
      | positive =>
        rw [compare_gt_iff_gt.mpr (by simpa [Sign.apply] using hlt), UnpackedFloat.compare]
    | finite s' m' e' hm' h' =>
      have hlt' := hpos (e := e') hm'
      have hmagnitude := compare_mul_zpow h h'
      dsimp only at hmagnitude
      cases s <;> cases s' <;>
        simp only [Sign.apply, Int.cast_neg, Int.cast_natCast, neg_mul, UnpackedFloat.compare]
      · rw [compare_neg, hmagnitude]
      · rw [compare_lt_iff_lt.mpr (by linarith)]
      · rw [compare_gt_iff_gt.mpr (by linarith)]
      · rw [hmagnitude]

/-! ### Floats -/

section

variable {x y : Float} {p q : ℚ} (hx : Denotes x p) (hy : Denotes y q)

include hx hy

theorem lt_iff :
  x < y ↔ p < q
  := by
  have hcompare : x < y ↔ (x.toModel.unpack.compare y.toModel.unpack == some .lt) = true :=
    decide_eq_true_iff
  rw [hcompare, compare_eq hx hy, beq_iff_eq, Option.some_inj, compare_lt_iff_lt]

theorem le_iff :
  x ≤ y ↔ p ≤ q
  := by
  have hcompare : x ≤ y ↔ (x.toModel.unpack.compare y.toModel.unpack).any (·.isLE) = true :=
    decide_eq_true_iff
  rw [hcompare, compare_eq hx hy, Option.any_some, ← not_lt, ← compare_gt_iff_gt]
  cases compare p q <;> simp

theorem beq_iff :
  (x == y) = true ↔ p = q
  := by
  have hcompare : (x == y) = (x.toModel.unpack.compare y.toModel.unpack == some .eq) := rfl
  rw [hcompare, compare_eq hx hy, beq_iff_eq, Option.some_inj, compare_eq_iff_eq]

end

theorem HasValue.abs {u : UnpackedFloat} {q : ℚ} (h : HasValue u q) :
  HasValue u.abs |q|
  := by
  cases h with
  | zero s =>
    rw [abs_zero]
    apply HasValue.zero
  | finite s m e hm h =>
    rw [abs_mul, abs_apply, abs_of_pos (by positivity : (0 : ℚ) < 2 ^ e)]
    apply HasValue.finite .positive m e hm
    exact h.congr rfl rfl

theorem denotes_abs {x : Float} {q : ℚ} (h : Denotes x q) :
  Denotes x.abs |q|
  := h.abs.denotes

/-! ### Finite floats -/

theorem unpack_of_ofFloat?_eq_none {x : Float} (h : Binary.ofFloat? x = none) :
  x.toModel.unpack = .notANumber ∨ ∃ s, x.toModel.unpack = .infinity s
  := by
  rw [Binary.ofFloat?_eq] at h
  cases hunpack : x.toModel.unpack with
  | notANumber => exact Or.inl rfl
  | infinity s => exact Or.inr ⟨s, rfl⟩
  | zero s | finite s m e hm =>
    rw [hunpack] at h
    contradiction

/-- Finite floats are not undefined. -/
theorem isNaN_eq_false {x : Float} {q : ℚ} (h : Denotes x q) :
  x.isNaN = false
  := by
  have hunpack : x.isNaN = x.toModel.unpack.isNaN := rfl
  rw [Denotes] at h
  rw [hunpack]
  generalize x.toModel.unpack = u at h
  cases h <;> rfl

/-- Floats that stand for numbers are finite. -/
theorem isFinite_eq_true {x : Float} {q : ℚ} (h : Denotes x q) :
  x.isFinite = true
  := by
  have hunpack : x.isFinite = x.toModel.unpack.isFinite := rfl
  rw [Denotes] at h
  rw [hunpack]
  generalize x.toModel.unpack = u at h
  cases h <;> rfl

/-- A float whose magnitude is below that of a finite float is finite. -/
theorem exists_denotes_of_abs_lt {x y : Float} {q : ℚ} (hy : Denotes y q) (h : x.abs < y) :
  ∃ p, Denotes x p ∧ |p| < q
  := by
  cases hform : Binary.ofFloat? x with
  | some b =>
    have hx : Denotes x b.toRat := denotes_iff.mpr ⟨b, hform, rfl⟩
    use b.toRat, hx, (lt_iff (denotes_abs hx) hy).mp h
  | none =>
    have hcompare : (x.abs.toModel.unpack.compare y.toModel.unpack == some .lt) = true :=
      decide_eq_true_iff.mp h
    have habs : x.abs.toModel = .pack x.toModel.unpack.abs := rfl
    rw [Denotes] at hy
    rw [habs] at hcompare
    generalize y.toModel.unpack = v at hy hcompare
    obtain hunpack | ⟨s, hunpack⟩ := unpack_of_ofFloat?_eq_none hform
    · have hnan : (Float.Model.pack .notANumber).unpack = .notANumber := rfl
      rw [hunpack, UnpackedFloat.abs, hnan] at hcompare
      contradiction
    · have hinfinity : (Float.Model.pack (.infinity .positive)).unpack = .infinity .positive := rfl
      rw [hunpack, UnpackedFloat.abs, hinfinity] at hcompare
      cases hy <;> contradiction

/-- A float equal to a finite float is finite. -/
theorem denotes_of_beq {x y : Float} {q : ℚ} (hy : Denotes y q) (h : (x == y) = true) :
  Denotes x q
  := by
  cases hform : Binary.ofFloat? x with
  | some b =>
    have hx : Denotes x b.toRat := denotes_iff.mpr ⟨b, hform, rfl⟩
    rwa [← (beq_iff hx hy).mp h]
  | none =>
    have hcompare : (x.toModel.unpack.compare y.toModel.unpack == some .eq) = true := h
    rw [Denotes] at hy
    generalize y.toModel.unpack = v at hy hcompare
    obtain hunpack | ⟨s, hunpack⟩ := unpack_of_ofFloat?_eq_none hform
    · rw [hunpack] at hcompare
      contradiction
    · rw [hunpack] at hcompare
      cases s <;> cases hy <;> contradiction

end FieldFormula.Decimal
