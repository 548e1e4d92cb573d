import FieldFormula.Decimal.Shortest
import FieldFormula.Proofs.Decimal.Digits
import FieldFormula.Proofs.Decimal.Exact

/-!
# The interval around a float

The shortest decimal of a float is searched for in the interval of the numbers that round to the
float, on grids of multiples of a power of ten.  A grid has a hit if one of the two neighbours of the
float lies in the interval, and the hit is the nearer one if both do.

* `contains_iff`: the interval around a float holds the decimals that round to it.
* `Interval.neighbour?_cases`: the hit on a grid.
* `middle_around`, `magnitude_around`: the interval around an integer.
-/

namespace FieldFormula.Decimal

/-! ### Intervals -/

/-- Both sides of a comparison with a decimal over one denominator. -/
theorem div_eq_scaled (a n : Nat) (e t : Int) :
  (a : ℚ) / 4 = (a * 2 ^ t.toNat * 10 ^ (-e).toNat : Nat) / (4 * (2 ^ t.toNat * 10 ^ (-e).toNat))
    ∧ (n : ℚ) * 10 ^ e * 2 ^ (-t)
      = (n * 10 ^ e.toNat * (4 * 2 ^ (-t).toNat) : Nat) / (4 * (2 ^ t.toNat * 10 ^ (-e).toNat))
  := by
  rw [zpow_eq_div (by norm_num : (0 : ℚ) < 10), zpow_eq_div (by norm_num : (0 : ℚ) < 2), neg_neg]
  push_cast
  constructor
  · field_simp
  · field_simp

theorem le_scaled_iff (a n : Nat) (e t : Int) :
  a * 2 ^ t.toNat * 10 ^ (-e).toNat ≤ n * 10 ^ e.toNat * (4 * 2 ^ (-t).toNat)
    ↔ (a : ℚ) / 4 ≤ n * 10 ^ e * 2 ^ (-t)
  := by
  obtain ⟨ha, hn⟩ := div_eq_scaled a n e t
  rw [ha, hn, div_le_div_iff_of_pos_right (by positivity), Nat.cast_le]

theorem scaled_le_iff (a n : Nat) (e t : Int) :
  n * 10 ^ e.toNat * (4 * 2 ^ (-t).toNat) ≤ a * 2 ^ t.toNat * 10 ^ (-e).toNat
    ↔ n * 10 ^ e * 2 ^ (-t) ≤ (a : ℚ) / 4
  := by
  obtain ⟨ha, hn⟩ := div_eq_scaled a n e t
  rw [ha, hn, div_le_div_iff_of_pos_right (by positivity), Nat.cast_le]

theorem Interval.contains_of_closed {i : Interval} (h : i.closed = true) (n : Nat) (e : Int) :
  i.contains n e = true
    ↔ i.low * 10 ^ (-e).toNat ≤ n * 10 ^ e.toNat * i.denominator
      ∧ n * 10 ^ e.toNat * i.denominator ≤ i.high * 10 ^ (-e).toNat
  := by
  simp [contains, h]

theorem Interval.contains_of_open {i : Interval} (h : i.closed = false) (n : Nat) (e : Int) :
  i.contains n e = true
    ↔ i.low * 10 ^ (-e).toNat < n * 10 ^ e.toNat * i.denominator
      ∧ n * 10 ^ e.toNat * i.denominator < i.high * 10 ^ (-e).toNat
  := by
  simp [contains, h]

/-- The interval around a float holds the decimals that round to it. -/
theorem contains_iff {b : Binary} (hpos : 0 < b.mantissa) (n : Nat) (e : Int) :
  (Interval.around b).contains n e = true
    ↔ RoundsTo (n * 10 ^ e * 2 ^ (-b.exponent)) b.mantissa
  := by
  obtain ⟨negative, m, t⟩ := b
  dsimp only at hpos ⊢
  have hlow : (((4 * m - if m = 2 ^ 52 then 1 else 2 : Nat) : Nat) : ℚ) / 4
      = m - if m = 2 ^ 52 then 1 / 4 else 1 / 2 := by
    split
    · rw [Nat.cast_sub (by omega)]
      push_cast
      ring
    · rw [Nat.cast_sub (by omega)]
      push_cast
      ring
  have hhigh : ((4 * m + 2 : Nat) : ℚ) / 4 = m + 1 / 2 := by
    push_cast
    ring
  obtain heven | hodd : m % 2 = 0 ∨ m % 2 = 1 := by omega
  · have hclosed : (Interval.around ⟨negative, m, t⟩).closed = true := by
      simp [Interval.around, heven]
    rw [Interval.contains_of_closed hclosed]
    dsimp only [Interval.around, Nat.pow_eq]
    rw [le_scaled_iff, scaled_le_iff, hlow, hhigh]
    constructor
    · rintro ⟨hlow, hhigh⟩
      use hlow, hhigh
      intro hodd
      omega
    · rintro ⟨hlow, hhigh, -⟩
      use hlow, hhigh
  · have hopen : (Interval.around ⟨negative, m, t⟩).closed = false := by
      simp [Interval.around, hodd]
    have hne : m ≠ 2 ^ 52 := by omega
    rw [if_neg hne, if_neg hne] at hlow
    rw [Interval.contains_of_open hopen, ← not_le, ← not_le]
    dsimp only [Interval.around, Nat.pow_eq]
    rw [if_neg hne, le_scaled_iff, scaled_le_iff, hlow, hhigh, not_le, not_le]
    constructor
    · intro h
      constructor
      · rw [if_neg hne]
        apply h.1.le
      · apply h.2.le
      · intro
        apply h
    · intro h
      apply h.odd hodd

/-! ### Neighbours on a grid -/

namespace Interval

/-- The hit on a grid is the floor of the middle or the next multiple, whichever is nearer if both
lie in the interval. -/
theorem neighbour?_cases {tie : Tie} {i : Interval} {e : Int} {n : Nat}
    (h : i.neighbour? tie e = some n) :
  let numerator := i.middle * 10 ^ (-e).toNat
  let divisor := i.denominator * 10 ^ e.toNat
  let floor := numerator / divisor
  (n = floor ∧ i.contains floor e = true
      ∧ (i.contains (floor + 1) e = true → 2 * (numerator % divisor) ≤ divisor))
    ∨ (n = floor + 1 ∧ i.contains (floor + 1) e = true
      ∧ (i.contains floor e = true → divisor ≤ 2 * (numerator % divisor)))
  := by
  intro numerator divisor floor
  unfold neighbour? at h
  dsimp only [Nat.pow_eq] at h
  split at h
  · next hfloor hnext =>
    left
    use (Option.some.inj h).symm, hfloor
    intro hcontains
    rw [hcontains] at hnext
    contradiction
  · next hfloor hnext =>
    right
    use (Option.some.inj h).symm, hnext
    intro hcontains
    rw [hcontains] at hfloor
    contradiction
  · next hfloor hnext =>
    obtain hlt | heq | hgt := Nat.lt_trichotomy (2 * (numerator % divisor)) divisor
    · rw [compare_lt_iff_lt.mpr hlt] at h
      exact Or.inl ⟨(Option.some.inj h).symm, hfloor, fun _ => hlt.le⟩
    · rw [compare_eq_iff_eq.mpr heq] at h
      cases tie with
      | up => exact Or.inr ⟨(Option.some.inj h).symm, hnext, fun _ => heq.ge⟩
      | even =>
        dsimp only at h
        split at h
        · exact Or.inl ⟨(Option.some.inj h).symm, hfloor, fun _ => heq.le⟩
        · exact Or.inr ⟨(Option.some.inj h).symm, hnext, fun _ => heq.ge⟩
    · rw [compare_gt_iff_gt.mpr hgt] at h
      exact Or.inr ⟨(Option.some.inj h).symm, hnext, fun _ => hgt.le⟩
  · contradiction

theorem contains_of_neighbour? {tie : Tie} {i : Interval} {e : Int} {n : Nat}
    (h : i.neighbour? tie e = some n) :
  i.contains n e = true
  := by
  obtain ⟨rfl, hcontains, -⟩ | ⟨rfl, hcontains, -⟩ := neighbour?_cases h
  · exact hcontains
  · exact hcontains

end Interval

/-! ### Intervals around integers -/

section

variable {b : Binary} {whole : Nat} (hwhole : (b.mantissa : ℚ) * 2 ^ b.exponent = whole)

include hwhole

theorem middle_around :
  (Interval.around b).middle = whole * (Interval.around b).denominator
  := by
  rw [zpow_eq_div (by norm_num), ← mul_div_assoc, div_eq_iff (by positivity)] at hwhole
  have hnat : b.mantissa * 2 ^ b.exponent.toNat = whole * 2 ^ (-b.exponent).toNat := by
    exact_mod_cast hwhole
  dsimp only [Interval.around, Nat.pow_eq]
  rw [mul_assoc, hnat]
  ring

theorem roundsTo_whole :
  RoundsTo (whole * 2 ^ (-b.exponent)) b.mantissa
  := by
  rw [← hwhole, mul_assoc, ← zpow_add₀ (by norm_num), add_neg_cancel, zpow_zero, mul_one]
  apply roundsTo_self

variable (hpos : 0 < b.mantissa)

include hpos

theorem whole_pos :
  0 < whole
  := by
  have hcast : (0 : ℚ) < whole := by
    rw [← hwhole]
    positivity
  exact_mod_cast hcast

theorem magnitude_around :
  (Interval.around b).magnitude = digitCount whole
  := by
  have hden : 0 < (Interval.around b).denominator := by
    simp [Interval.around]
  rw [Interval.magnitude, middle_around hwhole, Nat.mul_div_cancel _ hden,
    if_neg (whole_pos hwhole hpos).ne']

end

end FieldFormula.Decimal
