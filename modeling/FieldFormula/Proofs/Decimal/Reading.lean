import FieldFormula.Proofs.Decimal.Positional
import FieldFormula.Proofs.Decimal.Writing

/-!
# Natural numbers read back

Digits are read as the float nearest to their number, also when they stand at the front of a
text.  What is written for that float is read as the same float, and up to `2 ^ 53` it is the
digits themselves.

* `value_toDigits`, `readFront?_digits`: digits are read as the nearest float.
* `denotes_nearest`: up to `2 ^ 53` the nearest float is the number.
* `exists_numberText_nearest`: below `10 ^ 21` the float is written as digits that are read as
  the same float.
-/

namespace FieldFormula.Decimal

/-! ### Digits -/

theorem takeWhile_toDigits (n : Nat) :
  (Nat.toDigits 10 n).takeWhile Char.isDigit = Nat.toDigits 10 n
  := by
  apply List.takeWhile_eq_self_iff.mpr
  intro c hc
  apply isDigit_of_mem_toDigits hc

/-- The digits of a number are those of a whole part. -/
theorem isPositional_toDigits (n : Nat) :
  IsPositional (Nat.toDigits 10 n) []
  := by
  constructor
  · intro c hc
    apply isDigit_of_mem_toDigits hc
  · simp
  · apply toDigits_ne_nil
  · intro hzero
    obtain rfl | hn := Nat.eq_zero_or_pos n
    · rfl
    · cases head?_toDigits hn hzero

/-! ### Reading -/

/-- Digits are read as the float nearest to their number. -/
theorem value_toDigits (n : Nat) :
  value (Nat.toDigits 10 n) = nearest n 0
  := by
  have hvalue := (isPositional_toDigits n).value_eq
  rwa [positionalText_nil, List.append_nil, digitsValue_toDigits] at hvalue

/-- The front of a text of digits is read as the float nearest to their number, with a sign or
without one. -/
theorem readFront?_digits {ds : List Char} (hne : ds ≠ []) (hdigits : ∀ c ∈ ds, c.isDigit)
    (negative : Bool) :
  readFront? ((if negative then ['-'] else []) ++ ds)
    = some (if negative then -nearest (digitsValue ds) 0 else nearest (digitsValue ds) 0)
  := by
  have hwrites := (IsMantissa.whole ⟨hne, hdigits⟩).writes negative
  rw [List.append_nil] at hwrites
  exact hwrites.readFront?_eq_some

/-! ### The nearest float -/

theorem denotes_zero :
  Denotes 0.0 0
  := by
  have hform : Binary.ofFloat? 0.0 = some ⟨false, 0, -1074⟩ := by decide +kernel
  apply denotes_iff.mpr
  use ⟨false, 0, -1074⟩, hform
  apply Binary.toRat_of_mantissa rfl

section

variable {b : Binary} (hb : b.IsCanonical) (hpos : 0 < b.mantissa) (hsign : b.negative = false)
  {n : Nat} (hround : b.Attracts n)

include hb hpos hsign hround

/-- The float nearest to a natural number is the one to which it rounds. -/
theorem nearest_zero_eq :
  nearest n 0 = b.toFloat
  := by
  apply nearest_eq hb hpos hsign (hround.pos hpos)
  rw [pow_zero, mul_one]
  exact hround

end

/-- A natural number up to `2 ^ 53` is that of the float nearest to it. -/
theorem denotes_nearest {n : Nat} (hn : n ≤ 2 ^ 53) :
  Denotes (nearest n 0) n
  := by
  obtain rfl | hpos := Nat.eq_zero_or_pos n
  · apply denotes_zero
  · obtain ⟨b, hb, hmantissa, hsign, hvalue⟩ := exists_mul_eq hpos hn
    have hrat : b.toRat = n := by
      rw [Binary.toRat, Binary.sign, hsign, ← hvalue]
      rfl
    rw [nearest_zero_eq hb hmantissa hsign (attracts_whole hvalue), ← hrat]
    apply hb.denotes

theorem ofNat_eq_nearest {n : Nat} (hpos : 0 < n) (hn : digitCount n ≤ 400) :
  Float.ofNat n = nearest n 0
  := by
  rw [nearest, if_neg hpos.ne', if_neg (by omega), if_neg (by omega)]
  rfl

/-- An integer up to `2 ^ 53` is that of the float made of it. -/
theorem denotes_float_ofInt {k : Int} (hk : |k| ≤ 2 ^ 53) :
  Denotes (Float.ofInt k) k
  := by
  have hnat : ∀ n : Nat, n ≤ 2 ^ 53 → Denotes (Float.ofNat n) n := by
    intro n hn
    obtain rfl | hpos := Nat.eq_zero_or_pos n
    · have hzero := denotes_zero
      rwa [← Nat.cast_zero] at hzero
    · have hcount : digitCount n ≤ 16 := digitCount_le (by omega)
      rw [ofNat_eq_nearest hpos (by omega)]
      apply denotes_nearest hn
  rw [Int.abs_eq_natAbs] at hk
  cases k with
  | ofNat n =>
    rw [Int.ofNat_eq_natCast, Int.natAbs_natCast] at hk
    apply hnat n (by omega)
  | negSucc n =>
    rw [Int.natAbs_negSucc] at hk
    have hneg := denotes_neg (hnat (n + 1) (by omega))
    have hcast : ((Int.negSucc n : Int) : ℚ) = -((n + 1 : Nat) : ℚ) := by
      rw [Int.cast_negSucc]
    rw [hcast]
    exact hneg

/-- Below `10 ^ 21`, the float nearest to a number is written as digits that are read as the same
float. -/
theorem exists_numberText_nearest {n : Nat} (hn : n < 10 ^ 21 - 65536) :
  ∃ k : Nat, Value.numberText (nearest n 0) = String.ofList (Nat.toDigits 10 k)
    ∧ nearest k 0 = nearest n 0
  := by
  obtain rfl | hpos := Nat.eq_zero_or_pos n
  · use 0
    constructor
    · apply numberText_of_denotes (k := 0) denotes_zero (by norm_num)
    · rfl
  · have hlog : n.log2 < 70 := by
      apply (Nat.log2_lt hpos.ne').mpr
      omega
    obtain ⟨b, hb, hmantissa, hsign, hround, whole, hwhole⟩ := exists_roundsTo hpos (by omega)
    have hlt := whole_lt_of_lt hwhole hround hb hn
    obtain ⟨k, htext, hshortest, -⟩ := exists_numberText_toFloat hb hwhole hmantissa hlt
    use k
    rw [nearest_zero_eq hb hmantissa hsign hround,
      nearest_zero_eq hb hmantissa hsign hshortest.attracts, htext, Binary.sign, hsign]
    constructor <;> rfl

end FieldFormula.Decimal
