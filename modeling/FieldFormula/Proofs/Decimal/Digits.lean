import FieldFormula.Decimal.Layout
import Mathlib.Data.List.Basic
import Mathlib.Data.List.TakeWhile
import Mathlib.Tactic.IntervalCases
import Mathlib.Tactic.Ring
import Mathlib.Tactic.Use

/-!
# Decimal digits

The digits of a number read back as the number.  A factor of ten adds a zero at the end, so
the digits without the zeros at the end, followed by as many zeros, are the digits again.

* `digitsValue_toDigits`: the digits of a number read back as the number.
* `toDigits_mul_pow`: factors of ten add zeros.
* `significantDigits_append`: the significant digits and zeros are the digits.
* `takeWhile_digits`, `dropWhile_digits`: digits in front of something else.
* `Layout.forall_mem_render`: the characters that the text of a number is made of.
-/

namespace FieldFormula.Decimal

/-! ### Digits at the front of a text -/

section

variable {rest : List Char} (hends : ∀ c ∈ rest.head?, ¬ c.isDigit)

include hends

theorem takeWhile_isDigit_append (s : List Char) :
  (s ++ rest).takeWhile Char.isDigit = s.takeWhile Char.isDigit
  := by
  induction s with
  | nil =>
    cases rest with
    | nil => rfl
    | cons c rest => simp [hends c rfl]
  | cons c s ih =>
    rw [List.cons_append, List.takeWhile_cons, List.takeWhile_cons, ih]

theorem dropWhile_isDigit_append (s : List Char) :
  (s ++ rest).dropWhile Char.isDigit = s.dropWhile Char.isDigit ++ rest
  := by
  induction s with
  | nil =>
    cases rest with
    | nil => rfl
    | cons c rest => simp [hends c rfl]
  | cons c s ih =>
    rw [List.cons_append, List.dropWhile_cons, List.dropWhile_cons, ih]
    split <;> rfl

variable {ds : List Char} (hdigits : ∀ c ∈ ds, c.isDigit)

include hdigits

theorem takeWhile_digits :
  (ds ++ rest).takeWhile Char.isDigit = ds
  := by
  rw [takeWhile_isDigit_append hends, List.takeWhile_eq_self_iff.mpr hdigits]

theorem dropWhile_digits :
  (ds ++ rest).dropWhile Char.isDigit = rest
  := by
  rw [dropWhile_isDigit_append hends, List.dropWhile_eq_nil_iff.mpr hdigits, List.nil_append]

end

/-! ### Digits of a number -/

theorem digitsValue_toDigits (n : Nat) :
  digitsValue (Nat.toDigits 10 n) = n
  := by
  rw [digitsValue, ← Nat.ofDigitChars_eq_foldl, Nat.ofDigitChars_ten_toDigits]

theorem isDigit_of_mem_toDigits {n : Nat} {c : Char} (hc : c ∈ Nat.toDigits 10 n) :
  c.isDigit
  := Nat.isDigit_of_mem_toDigits (by decide) (by decide) hc

theorem toDigits_ne_nil (n : Nat) :
  Nat.toDigits 10 n ≠ []
  := List.ne_nil_of_length_pos Nat.length_toDigits_pos

theorem exists_toDigits_eq_cons (n : Nat) :
  ∃ d ds, Nat.toDigits 10 n = d :: ds ∧ d.isDigit ∧ ∀ c ∈ ds, c.isDigit
  := by
  obtain ⟨d, ds, hds⟩ := List.exists_cons_of_ne_nil (toDigits_ne_nil n)
  have hdigits : ∀ c ∈ d :: ds, c.isDigit := by
    intro c hc
    rw [← hds] at hc
    apply isDigit_of_mem_toDigits hc
  rw [List.forall_mem_cons] at hdigits
  use d, ds, hds, hdigits.1, hdigits.2

/-- Only zero has a zero as its first digit. -/
theorem head?_toDigits {n : Nat} (hn : 0 < n) :
  (Nat.toDigits 10 n).head? ≠ some '0'
  := by
  induction n using Nat.strongRecOn with
  | ind n ih =>
    obtain hlt | hle := Nat.lt_or_ge n 10
    · rw [Nat.toDigits_of_lt_base hlt]
      interval_cases n <;> decide
    · have hfront := ih (n / 10) (by omega) (by omega)
      rw [Nat.toDigits_of_base_le (by decide) hle,
        List.head?_append_of_ne_nil _ (toDigits_ne_nil _)]
      apply hfront

/-! ### Numbers of digits -/

theorem digitCount_of_pos {n : Nat} (hn : 0 < n) :
  digitCount n = (Nat.toDigits 10 n).length
  := if_neg hn.ne'

/-- A number below a power of ten has no more digits than the power has zeros. -/
theorem digitCount_le {n k : Nat} (h : n < 10 ^ k) :
  digitCount n ≤ k
  := by
  obtain rfl | hn := Nat.eq_zero_or_pos n
  · apply Nat.zero_le
  · rw [digitCount_of_pos hn]
    have hk : 0 < k := by
      rw [Nat.pos_iff_ne_zero]
      rintro rfl
      omega
    apply (Nat.length_toDigits_le_iff (by decide) hk).mpr h

theorem lt_pow_digitCount (n : Nat) :
  n < 10 ^ digitCount n
  := by
  obtain rfl | hn := Nat.eq_zero_or_pos n
  · decide
  · rw [digitCount_of_pos hn]
    exact (Nat.length_toDigits_le_iff (by decide) Nat.length_toDigits_pos).mp le_rfl

/-- A number is at least the power of ten that its first digit counts. -/
theorem pow_digitCount_le {n : Nat} (hn : 0 < n) :
  10 ^ (digitCount n - 1) ≤ n
  := by
  by_contra! hlt
  have hlength : 0 < (Nat.toDigits 10 n).length := Nat.length_toDigits_pos
  have hcount := digitCount_le hlt
  rw [digitCount_of_pos hn] at hcount
  omega

/-- A natural number has no more decimal digits than binary ones. -/
theorem digitCount_le_log2 (n : Nat) :
  digitCount n ≤ n.log2 + 1
  := by
  apply digitCount_le
  apply Nat.lt_log2_self.trans_le
  gcongr
  decide

/-! ### Zeros at the end -/

theorem toDigits_mul_ten {n : Nat} (hn : 0 < n) :
  Nat.toDigits 10 (n * 10) = Nat.toDigits 10 n ++ ['0']
  := by
  have h := Nat.toDigits_append_toDigits (by decide : 1 < 10) hn (by decide : 0 < 10)
  rw [Nat.toDigits_zero, add_zero, mul_comm] at h
  apply h.symm

/-- Factors of ten add zeros. -/
theorem toDigits_mul_pow {n : Nat} (hn : 0 < n) (k : Nat) :
  Nat.toDigits 10 (n * 10 ^ k) = Nat.toDigits 10 n ++ List.replicate k '0'
  := by
  induction k with
  | zero => rw [pow_zero, mul_one, List.replicate_zero, List.append_nil]
  | succ k ih =>
    have hpos : 0 < n * 10 ^ k := Nat.mul_pos hn (Nat.pow_pos (by decide))
    rw [pow_succ, ← mul_assoc, toDigits_mul_ten hpos, ih, List.append_assoc,
      ← List.replicate_succ']

/-- The significant digits and zeros are the digits. -/
theorem significantDigits_append (n : Nat) :
  ∃ k, significantDigits n ++ List.replicate k '0' = Nat.toDigits 10 n
  := by
  let zeros := (Nat.toDigits 10 n).reverse.takeWhile (· == '0')
  have hzeros : zeros.reverse = List.replicate zeros.length '0' := by
    rw [List.eq_replicate_iff]
    use List.length_reverse
    intro c hc
    have hc := List.mem_takeWhile_imp (List.mem_reverse.mp hc)
    simpa using hc
  use zeros.length
  rw [← hzeros, significantDigits, ← List.reverse_append, List.takeWhile_append_dropWhile,
    List.reverse_reverse]

theorem length_significantDigits_le (n : Nat) :
  (significantDigits n).length ≤ (Nat.toDigits 10 n).length
  := by
  obtain ⟨k, hk⟩ := significantDigits_append n
  rw [← hk, List.length_append]
  apply Nat.le_add_right

/-- The significant digits are filled up with zeros to the digits of any number with further
zeros. -/
theorem significantDigits_fill {n : Nat} (hn : 0 < n) (k : Nat) :
  significantDigits n
      ++ List.replicate ((Nat.toDigits 10 n).length + k - (significantDigits n).length) '0'
    = Nat.toDigits 10 (n * 10 ^ k)
  := by
  obtain ⟨zeros, hzeros⟩ := significantDigits_append n
  have hlength : (Nat.toDigits 10 n).length + k - (significantDigits n).length = zeros + k := by
    rw [← hzeros, List.length_append, List.length_replicate]
    omega
  rw [hlength, ← List.replicate_append_replicate, ← List.append_assoc, hzeros,
    toDigits_mul_pow hn]

/-! ### Characters of a laid out number -/

theorem isDigit_of_mem_significantDigits {n : Nat} {c : Char} (hc : c ∈ significantDigits n) :
  c.isDigit
  := by
  obtain ⟨k, hk⟩ := significantDigits_append n
  apply isDigit_of_mem_toDigits (n := n)
  rw [← hk]
  apply List.mem_append_left _ hc

namespace Layout

variable {l : Layout} {P : Char → Prop} (hdigit : ∀ c, c.isDigit → P c) (hpoint : P '.')

include hdigit hpoint

theorem forall_mem_plain (htail : ∀ c ∈ l.integerTail, P c) {ds : List Char}
    (hds : ∀ c ∈ ds, c.isDigit) (k : Int) :
  ∀ c ∈ l.plain ds k, P c
  := by
  have hzeros : ∀ n, ∀ c ∈ List.replicate n '0', P c := by
    intro n c hc
    rw [List.eq_of_mem_replicate hc]
    apply hdigit _ rfl
  have hdigits : ∀ c ∈ ds, P c := fun c hc => hdigit c (hds c hc)
  rw [plain]
  split
  · simp only [List.forall_mem_append]
    refine ⟨⟨?_, hzeros _⟩, hdigits⟩
    have htext : "0.".toList = ['0', '.'] := rfl
    rw [htext]
    simp [hdigit '0' rfl, hpoint]
  · split
    · simp only [List.forall_mem_append]
      use ⟨hdigits, hzeros _⟩
    · simp only [List.forall_mem_append, List.forall_mem_cons]
      refine ⟨?_, hpoint, ?_⟩
      · intro c hc
        apply hdigits c (List.mem_of_mem_take hc)
      · intro c hc
        apply hdigits c (List.mem_of_mem_drop hc)

variable (hminus : P '-') (hexponent : P 'e') (hplus : ∀ c ∈ l.plus, P c)

include hminus hexponent hplus

theorem forall_mem_scientific {ds : List Char} (hds : ∀ c ∈ ds, c.isDigit) (k : Int) :
  ∀ c ∈ l.scientific ds k, P c
  := by
  have hdigits : ∀ c ∈ ds, P c := fun c hc => hdigit c (hds c hc)
  have hsign : ∀ c ∈ (if k < 0 then ['-'] else l.plus), P c := by
    split
    · simpa using hminus
    · apply hplus
  have hnumber : ∀ c ∈ Nat.toDigits 10 k.natAbs, P c :=
    fun c hc => hdigit c (isDigit_of_mem_toDigits hc)
  rw [scientific.eq_def]
  simp only [List.forall_mem_append, List.forall_mem_cons]
  refine ⟨⟨?_, hexponent, hsign⟩, hnumber⟩
  match ds with
  | [] | [d] => exact hdigits
  | d :: e :: ds =>
    rw [List.forall_mem_cons] at hdigits
    simp only [List.forall_mem_cons] at hdigits ⊢
    exact ⟨hdigits.1, hpoint, hdigits.2⟩

/-- The text of a number is made of digits, the marks around them and the words of the layout. -/
theorem forall_mem_render (htail : ∀ c ∈ l.integerTail, P c) (hinfinity : ∀ c ∈ l.infinity, P c)
    (hnan : ∀ c ∈ l.nan, P c) (x : Float) :
  ∀ c ∈ l.render x, P c
  := by
  rw [render]
  split
  · split
    · apply hnan
    · split
      · rw [List.forall_mem_cons]
        use hminus, hinfinity
      · apply hinfinity
  · next b hb =>
    have hmagnitude : ∀ c ∈ (if b.mantissa = 0 then '0' :: l.integerTail
        else l.decimal (shortest l.tie b)), P c := by
      split
      · rw [List.forall_mem_cons]
        use hdigit '0' rfl, htail
      · simp only [decimal]
        split
        · apply forall_mem_plain hdigit hpoint htail
          exact fun _ => isDigit_of_mem_significantDigits
        · apply forall_mem_scientific hdigit hpoint hminus hexponent hplus
          exact fun _ => isDigit_of_mem_significantDigits
    dsimp only
    split
    · rw [List.forall_mem_cons]
      use hminus, hmagnitude
    · apply hmagnitude

end Layout

end FieldFormula.Decimal
