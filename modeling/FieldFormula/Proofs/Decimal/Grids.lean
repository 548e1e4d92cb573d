import FieldFormula.Proofs.Decimal.Precision

/-!
# Grids around an integer

The shortest decimal of a float that is an integer is found on a grid of multiples of a power of
ten.  Between a multiple that rounds to the float and the float itself lies a neighbour of the float
on the same grid, and it rounds to the float as well.  So the search finds the coarsest grid with
such multiples, and the nearest of them.  No two of them are equally near.

* `Binary.Attracts`: the natural numbers that round to a float.
* `exists_unit_of_ne`: how far they lie apart at most.
* `exists_neighbour?_of_attracts`, `neighbour?_nearest`: the neighbours of an integer on a grid.
* `exists_isShortest`: the shortest decimal of an integer ends in as many zeros as possible, and it
  is the nearest decimal that does so.
* `Binary.IsShortest.eq`: there is only one such decimal.
-/

namespace FieldFormula.Decimal

/-! ### Numbers that round to an integer -/

/-- What lies between a number that rounds to a mantissa and the mantissa rounds to it as well. -/
theorem RoundsTo.between {x y : ℚ} {m : Nat} (h : RoundsTo x m)
    (hy : x ≤ y ∧ y ≤ m ∨ m ≤ y ∧ y ≤ x) :
  RoundsTo y m
  := by
  obtain ⟨hlow, hhigh, hodd⟩ := h
  obtain ⟨hx, hm⟩ | ⟨hm, hx⟩ := hy
  · constructor
    · exact hlow.trans hx
    · linarith
    · intro h
      constructor <;> linarith [(hodd h).1]
  · constructor
    · apply le_trans _ hm
      split <;> linarith
    · exact hx.trans hhigh
    · intro h
      constructor <;> linarith [(hodd h).2]

/-- The natural number rounds to the float. -/
def Binary.Attracts (b : Binary) (n : Nat) : Prop :=
  RoundsTo (n * 2 ^ (-b.exponent)) b.mantissa

theorem Binary.Attracts.pos {b : Binary} (hpos : 0 < b.mantissa) {n : Nat} (h : b.Attracts n) :
  0 < n
  := by
  rw [Nat.pos_iff_ne_zero]
  rintro rfl
  have hscaled := RoundsTo.pos h hpos
  rw [Nat.cast_zero, zero_mul] at hscaled
  exact lt_irrefl _ hscaled

/-- Of the natural numbers that round to the float of an integer, the number ends in as many zeros
as any other, and it is nearest to the integer among those that end in as many. -/
structure Binary.IsShortest (b : Binary) (whole n : Nat) : Prop where
  attracts : b.Attracts n
  zeros : ∀ m e : Nat, b.Attracts m → 10 ^ e ∣ m → 10 ^ e ∣ n
  nearest : ∀ m : Nat, b.Attracts m → (∀ e, 10 ^ e ∣ n → 10 ^ e ∣ m)
    → |(n : Int) - whole| ≤ |(m : Int) - whole|

section

variable {b : Binary} {whole : Nat} (hwhole : (b.mantissa : ℚ) * 2 ^ b.exponent = whole)

include hwhole

theorem attracts_whole :
  b.Attracts whole
  := roundsTo_whole hwhole

/-- What lies between a number that rounds to a float and the float rounds to it as well. -/
theorem Binary.Attracts.between {m n : Nat} (h : b.Attracts m)
    (hn : m ≤ n ∧ n ≤ whole ∨ whole ≤ n ∧ n ≤ m) :
  b.Attracts n
  := by
  have hmantissa : (b.mantissa : ℚ) = whole * 2 ^ (-b.exponent) := by
    rw [← hwhole, mul_assoc, ← zpow_add₀ (by norm_num), add_neg_cancel, zpow_zero, mul_one]
  have hscale : ∀ {i j : Nat}, i ≤ j → (i : ℚ) * 2 ^ (-b.exponent) ≤ j * 2 ^ (-b.exponent) := by
    intro i j hij
    have hcast : (i : ℚ) ≤ j := by exact_mod_cast hij
    gcongr
  apply RoundsTo.between h
  rw [hmantissa]
  exact hn.imp (And.imp hscale hscale) (And.imp hscale hscale)

end

section

variable {b : Binary} {whole : Nat} (hwhole : (b.mantissa : ℚ) * 2 ^ b.exponent = whole) {n : Nat}
  (hround : b.Attracts n)

section

variable (hb : b.IsCanonical) (ht : 0 < b.exponent)

include hwhole hb ht

/-- An exponent above zero belongs to a mantissa of 53 bits. -/
theorem exists_whole_eq :
  ∃ k : Nat, 0 < k ∧ b.exponent = k ∧ b.mantissa * 2 ^ k = whole ∧ 2 ^ 52 ≤ b.mantissa
  := by
  obtain ⟨k, hk⟩ : ∃ k : Nat, b.exponent = k := ⟨b.exponent.toNat, by omega⟩
  rw [hk, zpow_natCast] at hwhole
  use k, by omega, hk, by exact_mod_cast hwhole
  obtain hnormal | hsmall := hb.normal
  · apply hnormal
  · omega

end

include hwhole hround

/-- A number is at most half a unit above the integer to which it rounds. -/
theorem two_mul_le {k : Nat} (hk : b.exponent = k) :
  2 * n ≤ 2 * whole + 2 ^ k
  := by
  have hle := hround.le
  rw [add_mul, hwhole, hk, zpow_natCast] at hle
  have hcast : (2 : ℚ) * n ≤ 2 * whole + 2 ^ k := by linarith
  exact_mod_cast hcast

/-- A number is at most half a unit below the integer to which it rounds, and less below a power
of two. -/
theorem four_mul_le {k : Nat} (hk : b.exponent = k) :
  4 * whole ≤ 4 * n + (if b.mantissa = 2 ^ 52 then 1 else 2) * 2 ^ k
  := by
  have hge := hround.ge
  rw [sub_mul, hwhole, hk, zpow_natCast] at hge
  split_ifs at hge ⊢
  · have hcast : (4 : ℚ) * whole ≤ 4 * n + 1 * 2 ^ k := by linarith
    exact_mod_cast hcast
  · have hcast : (4 : ℚ) * whole ≤ 4 * n + 2 * 2 ^ k := by linarith
    exact_mod_cast hcast

/-- Where the unit is at most one, an integer rounds to no other integer. -/
theorem eq_of_roundsTo (ht : b.exponent ≤ 0) :
  n = whole
  := by
  have hunit : (2 : ℚ) ^ b.exponent ≤ 1 := zpow_le_one_of_nonpos₀ (by norm_num) ht
  have hle := hround.le
  have hge := hround.ge
  have hbelow : ((b.mantissa : ℚ) - 1 / 2) * 2 ^ b.exponent ≤ n := by
    apply le_trans _ hge
    gcongr
    split <;> norm_num
  rw [add_mul, hwhole] at hle
  rw [sub_mul, hwhole] at hbelow
  have hlt : (n : ℚ) < whole + 1 := by linarith
  have hgt : (whole : ℚ) < n + 1 := by linarith
  apply le_antisymm
  · exact Nat.lt_succ_iff.mp (by exact_mod_cast hlt)
  · exact Nat.lt_succ_iff.mp (by exact_mod_cast hgt)

end

section

variable {b : Binary} (hb : b.IsCanonical) {whole : Nat}
  (hwhole : (b.mantissa : ℚ) * 2 ^ b.exponent = whole) {m n : Nat} (hm : b.Attracts m)
  (hn : b.Attracts n)

include hb hwhole hm hn

/-- Different multiples that round to an integer lie at most a unit of the integer apart. -/
theorem exists_unit_of_ne (hne : m ≠ n) {d : Nat} (hdvd : d ∣ m) (hdvd' : d ∣ n) :
  ∃ k : Nat, 2 ^ k ∣ whole ∧ 2 ^ 52 * 2 ^ k ≤ whole ∧ d ≤ 2 ^ k
  := by
  obtain ht | ht := lt_or_ge 0 b.exponent
  · obtain ⟨k, -, hexponent, hvalue, hlarge⟩ := exists_whole_eq hwhole hb ht
    have hbelow := four_mul_le hwhole hm hexponent
    have habove := two_mul_le hwhole hm hexponent
    have hbelow' := four_mul_le hwhole hn hexponent
    have habove' := two_mul_le hwhole hn hexponent
    have hle : m ≤ n + 2 ^ k ∧ n ≤ m + 2 ^ k := by
      split_ifs at hbelow hbelow' <;> omega
    use k
    refine ⟨⟨b.mantissa, by rw [← hvalue, mul_comm]⟩, ?_, ?_⟩
    · rw [← hvalue]
      exact Nat.mul_le_mul_right _ hlarge
    · obtain hlt | hlt := hne.lt_or_gt
      · have hgap := Nat.le_of_dvd (by omega) (Nat.dvd_sub hdvd' hdvd)
        omega
      · have hgap := Nat.le_of_dvd (by omega) (Nat.dvd_sub hdvd hdvd')
        omega
  · -- where the unit is at most one, both numbers are the integer
    rw [eq_of_roundsTo hwhole hm ht, eq_of_roundsTo hwhole hn ht] at hne
    contradiction

/-- Two multiples of a power of ten are not equally near to an integer, unless the integer is a
multiple as well. -/
theorem eq_of_tie {e : Nat} (hdvd : 10 ^ e ∣ m) (hdvd' : 10 ^ e ∣ n) (htie : m + n = 2 * whole) :
  m = n ∨ 10 ^ e ∣ whole
  := by
  obtain heq | hne := eq_or_ne m n
  · exact Or.inl heq
  · right
    obtain ⟨k, hunit, -, hstep⟩ := exists_unit_of_ne hb hwhole hm hn hne hdvd hdvd'
    have hexponent : e ≤ k := by
      apply (Nat.pow_le_pow_iff_right (by decide : 1 < 2)).mp
      exact (Nat.pow_le_pow_left (by decide) e).trans hstep
    have htwo : 2 ^ e ∣ whole := (pow_dvd_pow 2 hexponent).trans hunit
    have hfive : 5 ^ e ∣ whole := by
      have hsum : 10 ^ e ∣ 2 * whole := by
        rw [← htie]
        exact Nat.dvd_add hdvd hdvd'
      have hfive : 5 ^ e ∣ 2 * whole := (pow_dvd_pow_of_dvd (by decide) e).trans hsum
      apply Nat.Coprime.dvd_of_dvd_mul_left _ hfive
      apply Nat.Coprime.pow_left
      decide
    have hcoprime : Nat.Coprime (2 ^ e) (5 ^ e) := Nat.Coprime.pow e e (by decide)
    have hten := hcoprime.mul_dvd_of_dvd_of_dvd htwo hfive
    rwa [← mul_pow] at hten

/-- On the grid of the first digit no two numbers round to the same integer. -/
theorem eq_of_first_digit_dvd (hdvd : 10 ^ (digitCount whole - 1) ∣ m)
    (hdvd' : 10 ^ (digitCount whole - 1) ∣ n) (hpos : 0 < digitCount whole) :
  m = n
  := by
  by_contra hne
  obtain ⟨k, -, hunit, hstep⟩ := exists_unit_of_ne hb hwhole hm hn hne hdvd hdvd'
  have hlt := lt_pow_digitCount whole
  have hten : 10 ^ digitCount whole = 10 * 10 ^ (digitCount whole - 1) := by
    rw [← pow_succ', Nat.sub_add_cancel hpos]
  omega

end

/-! ### Neighbours on a grid -/

theorem contains_iff_attracts {b : Binary} (hpos : 0 < b.mantissa) (n e : Nat) :
  (Interval.around b).contains n e = true ↔ b.Attracts (n * 10 ^ e)
  := by
  rw [contains_iff hpos, Binary.Attracts, zpow_natCast]
  push_cast
  rfl

section

variable {b : Binary} (hpos : 0 < b.mantissa) {whole : Nat}
  (hwhole : (b.mantissa : ℚ) * 2 ^ b.exponent = whole)

include hpos hwhole

/-- The hit on a grid around an integer, by the quotient and the remainder of the integer. -/
theorem neighbour?_natCast_cases {tie : Tie} {e n : Nat}
    (h : (Interval.around b).neighbour? tie e = some n) :
  (n = whole / 10 ^ e
      ∧ (b.Attracts ((whole / 10 ^ e + 1) * 10 ^ e) → 2 * (whole % 10 ^ e) ≤ 10 ^ e))
    ∨ (n = whole / 10 ^ e + 1
      ∧ (b.Attracts (whole / 10 ^ e * 10 ^ e) → 10 ^ e ≤ 2 * (whole % 10 ^ e)))
  := by
  obtain ⟨d, hd⟩ : ∃ d, (Interval.around b).denominator = d := ⟨_, rfl⟩
  have hden : 0 < d := by
    simp [← hd, Interval.around]
  have hcases := Interval.neighbour?_cases h
  have hneg : (-(e : Int)).toNat = 0 := by omega
  simp only [hneg, Int.toNat_natCast, pow_zero, mul_one, middle_around hwhole, hd,
    mul_comm whole d, Nat.mul_div_mul_left _ _ hden, Nat.mul_mod_mul_left, mul_left_comm 2 d,
    Nat.mul_le_mul_left_iff hden, contains_iff_attracts hpos] at hcases
  exact hcases.imp (And.imp_right And.right) (And.imp_right And.right)

/-- A grid with a multiple that rounds to an integer has a hit. -/
theorem exists_neighbour?_of_attracts (tie : Tie) {n e : Nat} (hn : b.Attracts n)
    (hdvd : 10 ^ e ∣ n) :
  ∃ k, (Interval.around b).neighbour? tie e = some k
  := by
  obtain ⟨c, rfl⟩ := hdvd
  have hden : 0 < (Interval.around b).denominator := by
    simp [Interval.around]
  have hneg : (-(e : Int)).toNat = 0 := by omega
  have hfloor : whole / 10 ^ e = (Interval.around b).middle * 10 ^ (-(e : Int)).toNat
      / ((Interval.around b).denominator * 10 ^ (e : Int).toNat) := by
    rw [hneg, Int.toNat_natCast, pow_zero, mul_one, middle_around hwhole, mul_comm whole,
      Nat.mul_div_mul_left _ _ hden]
  apply Interval.exists_neighbour? hfloor
  rw [contains_iff_attracts hpos, contains_iff_attracts hpos]
  have hlow := Nat.div_mul_le_self whole (10 ^ e)
  have hhigh := Nat.lt_div_mul_add (a := whole) (b := 10 ^ e) (by positivity)
  rw [← Nat.succ_mul] at hhigh
  obtain hle | hlt := le_or_gt c (whole / 10 ^ e)
  · left
    apply hn.between hwhole (Or.inl ⟨_, hlow⟩)
    rw [mul_comm]
    exact Nat.mul_le_mul_right _ hle
  · right
    apply hn.between hwhole (Or.inr ⟨hhigh.le, _⟩)
    rw [mul_comm (10 ^ e)]
    exact Nat.mul_le_mul_right _ hlt

/-- The hit on a grid is nearest to the integer. -/
theorem neighbour?_nearest {tie : Tie} {e k : Nat}
    (h : (Interval.around b).neighbour? tie e = some k) {n : Nat} (hn : b.Attracts n)
    (hdvd : 10 ^ e ∣ n) :
  |((k * 10 ^ e : Nat) : Int) - whole| ≤ |(n : Int) - whole|
  := by
  obtain ⟨c, rfl⟩ := hdvd
  have hsplit := Nat.div_add_mod' whole (10 ^ e)
  have hmod := Nat.mod_lt whole (show 10 ^ e > 0 by positivity)
  have hcases := neighbour?_natCast_cases hpos hwhole h
  rw [Nat.succ_mul] at hcases
  obtain hle | hlt := le_or_gt c (whole / 10 ^ e)
  · -- below the integer, the multiple is at most the floor
    have hmul := Nat.mul_le_mul_right (10 ^ e) hle
    have hfloor : b.Attracts (whole / 10 ^ e * 10 ^ e) := by
      apply hn.between hwhole (Or.inl ⟨_, by omega⟩)
      rwa [mul_comm]
    rw [mul_comm (10 ^ e), Int.abs_eq_natAbs, Int.abs_eq_natAbs]
    obtain ⟨rfl, -⟩ | ⟨rfl, hnear⟩ := hcases
    · omega
    · have hnear := hnear hfloor
      rw [Nat.succ_mul]
      omega
  · have hmul := Nat.mul_le_mul_right (10 ^ e) hlt
    rw [Nat.succ_mul] at hmul
    have hnext : b.Attracts (whole / 10 ^ e * 10 ^ e + 10 ^ e) := by
      apply hn.between hwhole (Or.inr ⟨by omega, _⟩)
      rwa [mul_comm (10 ^ e) c]
    rw [mul_comm (10 ^ e), Int.abs_eq_natAbs, Int.abs_eq_natAbs]
    obtain ⟨rfl, hnear⟩ | ⟨rfl, -⟩ := hcases
    · have hnear := hnear hnext
      omega
    · rw [Nat.succ_mul]
      omega

/-! ### The shortest decimal -/

/-- The search ends at a grid of integers, and there is no hit on a coarser grid, up to the one of
the first digit. -/
theorem exists_shortest_neighbour? (hb : b.IsCanonical) (tie : Tie) :
  ∃ n e : Nat, shortest tie b = ⟨n, e⟩ ∧ (Interval.around b).neighbour? tie e = some n
    ∧ e < digitCount whole
    ∧ ∀ e' : Nat, e < e' → e' < digitCount whole → (Interval.around b).neighbour? tie e' = none
  := by
  have hmagnitude := magnitude_around hwhole hpos
  have hone : 1 ≤ digitCount whole := by
    rw [digitCount_of_pos (whole_pos hwhole hpos)]
    apply Nat.length_toDigits_pos
  -- the last grid that is tried is that of seventeen digits or that of the integers
  obtain ⟨last, hlast, hle, hle', hhit⟩ : ∃ last, 1 ≤ last ∧ last ≤ 17 ∧ last ≤ digitCount whole
      ∧ ∃ n, (Interval.around b).neighbour? tie ((Interval.around b).magnitude - last) = some n := by
    obtain hshort | hlong := Nat.le_total (digitCount whole) 17
    · use digitCount whole, hone, hshort, le_rfl
      rw [hmagnitude, sub_self, ← Nat.cast_zero]
      apply exists_neighbour?_of_attracts hpos hwhole tie (attracts_whole hwhole)
      exact ⟨whole, by rw [pow_zero, one_mul]⟩
    · exact ⟨17, by decide, le_rfl, hlong, exists_neighbour?_seventeen hb hpos tie⟩
  obtain ⟨j, hfirst, hsome, hexponent, hnone⟩ :=
    Interval.search_first last hhit 1 17 hlast (by omega)
  have hj : j ≤ last := by
    by_contra! hlt
    obtain ⟨n, hn⟩ := hhit
    rw [hnone last hlast hlt] at hn
    contradiction
  have hgrid : (Interval.around b).magnitude - j = (digitCount whole - j : Nat) := by
    rw [hmagnitude, Nat.cast_sub (by omega)]
  rw [hgrid] at hsome hexponent
  refine ⟨_, digitCount whole - j, ?_, hsome, by omega, ?_⟩
  · rw [shortest, ← hexponent]
  · intro e' hlt hlt'
    have hprevious := hnone (digitCount whole - e') (by omega) (by omega)
    rwa [hmagnitude, ← Nat.cast_sub (by omega), Nat.sub_sub_self hlt'.le] at hprevious

end

section

variable {b : Binary} (hb : b.IsCanonical) (hpos : 0 < b.mantissa) {whole : Nat}
  (hwhole : (b.mantissa : ℚ) * 2 ^ b.exponent = whole)

include hb hpos hwhole

/-- The shortest decimal of an integer is shortest among the natural numbers that round to it. -/
theorem exists_isShortest (tie : Tie) :
  ∃ n e : Nat, shortest tie b = ⟨n, e⟩ ∧ b.IsShortest whole (n * 10 ^ e)
  := by
  obtain ⟨n, e, hshortest, hsome, hlt, hnone⟩ := exists_shortest_neighbour? hpos hwhole hb tie
  have hround : b.Attracts (n * 10 ^ e) := by
    rw [← contains_iff_attracts hpos]
    apply Interval.contains_of_neighbour? hsome
  -- a coarser grid without a hit has no multiple that rounds to the integer
  have hcoarse : ∀ m e' : Nat, b.Attracts m → 10 ^ e' ∣ m → e' < digitCount whole → e' ≤ e := by
    intro m e' hm hdvd hdigits
    by_contra! hfiner
    obtain ⟨k, hk⟩ := exists_neighbour?_of_attracts hpos hwhole tie hm hdvd
    rw [hnone e' hfiner hdigits] at hk
    contradiction
  use n, e, hshortest
  constructor
  · exact hround
  · intro m e' hm hdvd
    obtain hle | hgt := le_or_gt e' e
    · exact Dvd.dvd.mul_left (pow_dvd_pow 10 hle) n
    · have hfirst : 10 ^ (digitCount whole - 1) ∣ m := by
        apply (pow_dvd_pow 10 _).trans hdvd
        by_contra! hdigits
        have hle := hcoarse m e' hm hdvd (by omega)
        omega
      have hlast := hcoarse m _ hm hfirst (by omega)
      obtain rfl : e = digitCount whole - 1 := by omega
      have heq := eq_of_first_digit_dvd hb hwhole hm hround hfirst (dvd_mul_left _ _) (by omega)
      rwa [← heq]
  · intro m hm hdvd
    exact neighbour?_nearest hpos hwhole hsome hm (hdvd e (dvd_mul_left _ _))

omit hpos in
/-- Only one natural number is shortest. -/
theorem Binary.IsShortest.eq {m n : Nat} (hm : b.IsShortest whole m) (hn : b.IsShortest whole n) :
  m = n
  := by
  have hzeros : ∀ e, 10 ^ e ∣ m → 10 ^ e ∣ n := fun e => hn.zeros m e hm.attracts
  have hzeros' : ∀ e, 10 ^ e ∣ n → 10 ^ e ∣ m := fun e => hm.zeros n e hn.attracts
  have hnear := hm.nearest n hn.attracts hzeros
  have hnear' := hn.nearest m hm.attracts hzeros'
  by_contra hne
  -- the integer itself has as many zeros, and no other number is as near to it
  have hwhole' : ∀ e, 10 ^ e ∣ m → 10 ^ e ∣ whole := by
    intro e hdvd
    apply (eq_of_tie hb hwhole hm.attracts hn.attracts hdvd (hzeros e hdvd) _).resolve_left hne
    rw [Int.abs_eq_natAbs, Int.abs_eq_natAbs] at hnear hnear'
    omega
  have hself := hm.nearest whole (attracts_whole hwhole) hwhole'
  rw [sub_self, abs_zero, abs_nonpos_iff, sub_eq_zero] at hself
  rw [hself, sub_self, abs_zero, abs_nonpos_iff, sub_eq_zero] at hnear'
  apply hne
  omega

end

end FieldFormula.Decimal
