import FieldFormula.Proofs.Decimal.Shortest

/-!
# Seventeen digits

Decimals of seventeen digits lie less than a unit in the last binary place apart, as `2 ^ 53` is
below `10 ^ 16`.  So one of the two neighbours of a float on this grid rounds to the float, and the
search for its shortest decimal ends there at the latest.

* `zpow_magnitude_le`: the first digit of a float.
* `roundsTo_or_roundsTo`: on a fine grid, a neighbour of a float rounds to it.
* `Interval.search_first`: the search ends at the first grid with a hit.
* `roundsTo_shortest`: the shortest decimal of a float rounds to it.
-/

namespace FieldFormula.Decimal

/-! ### The first digit -/

namespace Interval

/-- The power of ten that the first digit of the middle counts is at most the middle. -/
theorem zpow_magnitude_le {i : Interval} (hmiddle : 0 < i.middle) (hden : 0 < i.denominator) :
  (10 : ℚ) ^ (i.magnitude - 1) ≤ i.middle / i.denominator
  := by
  rw [le_div_iff₀ (by exact_mod_cast hden), magnitude]
  split
  · next hzero =>
    have hlt : i.middle < i.denominator := Nat.lt_of_div_eq_zero hden hzero
    obtain ⟨q, hq⟩ : ∃ q, (i.denominator + i.middle - 1) / i.middle - 1 = q := ⟨_, rfl⟩
    have hone : 1 ≤ q := by
      have hle : 2 ≤ (i.denominator + i.middle - 1) / i.middle := by
        rw [Nat.le_div_iff_mul_le hmiddle]
        omega
      omega
    rw [hq, sub_sub_cancel_left, zpow_neg, zpow_natCast, inv_mul_le_iff₀ (by positivity)]
    -- a number with so many digits, and no more, is the greatest below the inverse
    have hbelow : i.denominator ≤ (q + 1) * i.middle := by
      have hlast := Nat.lt_mul_div_succ (i.denominator + i.middle - 1) hmiddle
      have hsucc : (i.denominator + i.middle - 1) / i.middle = q + 1 := by omega
      rw [hsucc, mul_comm] at hlast
      have hexpand : (q + 1 + 1) * i.middle = (q + 1) * i.middle + i.middle := by ring
      omega
    have hdigits : q + 1 ≤ 10 ^ digitCount q := lt_pow_digitCount q
    have hmul := hbelow.trans (Nat.mul_le_mul_right i.middle hdigits)
    exact_mod_cast hmul
  · next hne =>
    have hpos : 0 < i.middle / i.denominator := Nat.pos_of_ne_zero hne
    have hcount : 1 ≤ digitCount (i.middle / i.denominator) := by
      rw [digitCount_of_pos hpos]
      apply Nat.length_toDigits_pos
    have hpow := pow_digitCount_le hpos
    have hmul := (Nat.mul_le_mul_right i.denominator hpow).trans (Nat.div_mul_le_self _ _)
    rw [← Nat.cast_one, ← Nat.cast_sub hcount, zpow_natCast]
    exact_mod_cast hmul

/-! ### The search -/

/-- The floor of the middle on a grid. -/
theorem floor_bounds (i : Interval) (hden : 0 < i.denominator) (e : Int) :
  let n := i.middle * 10 ^ (-e).toNat / (i.denominator * 10 ^ e.toNat)
  (n * 10 ^ e : ℚ) ≤ i.middle / i.denominator
    ∧ (i.middle / i.denominator : ℚ) < (n + 1 : Nat) * 10 ^ e
  := by
  intro n
  have hdivisor : 0 < i.denominator * 10 ^ e.toNat := by positivity
  have hlow := Nat.div_mul_le_self (i.middle * 10 ^ (-e).toNat) (i.denominator * 10 ^ e.toNat)
  have hhigh := Nat.lt_div_mul_add (a := i.middle * 10 ^ (-e).toNat) hdivisor
  rw [← Nat.succ_mul] at hhigh
  rw [zpow_eq_div (by norm_num), ← mul_div_assoc, ← mul_div_assoc,
    div_le_div_iff₀ (by positivity) (by positivity),
    div_lt_div_iff₀ (by positivity) (by positivity)]
  constructor
  · calc
      (n * 10 ^ e.toNat * i.denominator : ℚ) = (n * (i.denominator * 10 ^ e.toNat) : Nat) := by
        push_cast
        ring
      _ ≤ (i.middle * 10 ^ (-e).toNat : Nat) := by exact_mod_cast hlow
      _ = i.middle * 10 ^ (-e).toNat := by push_cast; rfl
  · calc
      (i.middle * 10 ^ (-e).toNat : ℚ) = (i.middle * 10 ^ (-e).toNat : Nat) := by push_cast; rfl
      _ < ((n + 1) * (i.denominator * 10 ^ e.toNat) : Nat) := by exact_mod_cast hhigh
      _ = (n + 1 : Nat) * 10 ^ e.toNat * i.denominator := by
        push_cast
        ring

/-- A grid has a hit if one of the two neighbours of the middle lies in the interval. -/
theorem exists_neighbour? {tie : Tie} {i : Interval} {e : Int} {n : Nat}
    (hn : n = i.middle * 10 ^ (-e).toNat / (i.denominator * 10 ^ e.toNat))
    (h : i.contains n e = true ∨ i.contains (n + 1) e = true) :
  ∃ k, i.neighbour? tie e = some k
  := by
  subst hn
  unfold neighbour?
  dsimp only [Nat.pow_eq]
  split
  · exact ⟨_, rfl⟩
  · exact ⟨_, rfl⟩
  · split
    · exact ⟨_, rfl⟩
    · split <;> exact ⟨_, rfl⟩
    · exact ⟨_, rfl⟩
  · simp_all

/-- The search ends at the first grid with a hit, if there is one. -/
theorem search_first {tie : Tie} {i : Interval} {p : Int} (last : Nat)
    (h : ∃ n, i.neighbour? tie (p - last) = some n) (k fuel : Nat) (hle : k ≤ last)
    (hlt : last < k + fuel) :
  ∃ j : Nat, k ≤ j ∧ i.neighbour? tie (p - j) = some (i.search tie p k fuel).significand
    ∧ (i.search tie p k fuel).exponent = p - j
    ∧ ∀ j' : Nat, k ≤ j' → j' < j → i.neighbour? tie (p - j') = none
  := by
  induction fuel generalizing k with
  | zero => omega
  | succ fuel ih =>
    rw [search]
    cases hneighbour : i.neighbour? tie (p - k) with
    | some n => exact ⟨k, le_rfl, hneighbour, rfl, by omega⟩
    | none =>
      have hne : k ≠ last := by
        rintro rfl
        obtain ⟨n, hn⟩ := h
        rw [hn] at hneighbour
        contradiction
      obtain ⟨j, hj, hsome, hexponent, hnone⟩ := ih (k + 1) (by omega) (by omega)
      use j, by omega, hsome, hexponent
      intro j' hk hj
      obtain rfl | hlt := hk.eq_or_lt
      · exact hneighbour
      · exact hnone j' hlt hj

end Interval

/-! ### Fine grids -/

/-- On a grid that is fine enough, the lower or the upper neighbour of a mantissa rounds to it. -/
theorem roundsTo_or_roundsTo {m n : Nat} (hm : m < 2 ^ 53) {grid : ℚ} (hgrid : grid * 10 ^ 16 ≤ m)
    (hlow : n * grid ≤ m) (hhigh : m < (n + 1 : Nat) * grid) :
  RoundsTo (n * grid) m ∨ RoundsTo ((n + 1 : Nat) * grid) m
  := by
  push_cast at hhigh ⊢
  have hmantissa : (m : ℚ) < 2 ^ 53 := by exact_mod_cast hm
  have hpos : 0 < grid := by linarith
  obtain hnear | hfar := le_or_gt (m - n * grid) (grid / 2)
  · left
    constructor
    · split
      · next heq =>
        have hcast : (m : ℚ) = 2 ^ 52 := by exact_mod_cast heq
        linarith
      · linarith
    · linarith
    · intro
      constructor <;> linarith
  · right
    constructor
    · split <;> linarith
    · linarith
    · intro
      constructor <;> linarith

section

variable {b : Binary} (hb : b.IsCanonical) (hpos : 0 < b.mantissa)

theorem middle_div_denominator_around (b : Binary) :
  ((Interval.around b).middle : ℚ) / (Interval.around b).denominator = b.mantissa * 2 ^ b.exponent
  := by
  dsimp only [Interval.around, Nat.pow_eq]
  rw [zpow_eq_div (by norm_num)]
  push_cast
  field_simp

include hb hpos

/-- One of the neighbours of a float with seventeen digits rounds to it. -/
theorem exists_neighbour?_seventeen (tie : Tie) :
  ∃ n, (Interval.around b).neighbour? tie ((Interval.around b).magnitude - (17 : Nat)) = some n
  := by
  have hden : 0 < (Interval.around b).denominator := by
    simp [Interval.around]
  have hmiddle : 0 < (Interval.around b).middle := by
    simp [Interval.around, hpos]
  have hvalue := middle_div_denominator_around b
  have hmagnitude := Interval.zpow_magnitude_le hmiddle hden
  obtain ⟨e, he⟩ : ∃ e, (Interval.around b).magnitude - (17 : Nat) = e := ⟨_, rfl⟩
  obtain ⟨hlow, hhigh⟩ := Interval.floor_bounds (Interval.around b) hden e
  obtain ⟨n, hn⟩ : ∃ n, n = (Interval.around b).middle * 10 ^ (-e).toNat
      / ((Interval.around b).denominator * 10 ^ e.toNat) := ⟨_, rfl⟩
  rw [← hn, hvalue] at hlow hhigh
  have hexponent : (Interval.around b).magnitude - 1 = e + (16 : Nat) := by omega
  rw [hvalue, hexponent, zpow_add₀ (by norm_num), zpow_natCast] at hmagnitude
  -- the grid in units of the last binary place
  obtain ⟨unit, hunit⟩ : ∃ unit : ℚ, (2 : ℚ) ^ (-b.exponent) = unit := ⟨_, rfl⟩
  have hnonneg : 0 ≤ unit := by
    rw [← hunit]
    positivity
  have hmantissa : b.mantissa * 2 ^ b.exponent * unit = b.mantissa := by
    rw [← hunit, mul_assoc, ← zpow_add₀ (by norm_num), add_neg_cancel, zpow_zero, mul_one]
  have hlow := mul_le_mul_of_nonneg_right hlow hnonneg
  have hmagnitude := mul_le_mul_of_nonneg_right hmagnitude hnonneg
  have hhigh : (b.mantissa * 2 ^ b.exponent * unit : ℚ) < (n + 1 : Nat) * 10 ^ e * unit := by
    rw [← hunit]
    gcongr
  rw [hmantissa, mul_assoc] at hlow hhigh
  rw [hmantissa, mul_right_comm] at hmagnitude
  have hhit := roundsTo_or_roundsTo hb.mantissa_lt hmagnitude hlow hhigh
  rw [← mul_assoc, ← mul_assoc, ← hunit, ← contains_iff hpos, ← contains_iff hpos] at hhit
  rw [he]
  apply Interval.exists_neighbour? hn hhit

/-- The shortest decimal of a float rounds to it. -/
theorem roundsTo_shortest (tie : Tie) :
  RoundsTo ((shortest tie b).significand * 10 ^ (shortest tie b).exponent * 2 ^ (-b.exponent))
    b.mantissa
  := by
  obtain ⟨j, -, hneighbour, hexponent, -⟩ := Interval.search_first 17
    (exists_neighbour?_seventeen hb hpos tie) 1 17 (by decide) (by decide)
  rw [← contains_iff hpos, shortest, hexponent]
  apply Interval.contains_of_neighbour? hneighbour

end

end FieldFormula.Decimal
