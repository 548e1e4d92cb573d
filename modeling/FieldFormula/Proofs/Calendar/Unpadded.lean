import FieldFormula.Proofs.Calendar.Writing

/-!
# Dates without leading zeros

Where the month and the day of a date have lost their leading zeros, the date is still read as
the date, whether the year comes first or last.  It is no timestamp, in which every month and
every day has two digits.

* `padded_one`, `padded_of_le`: numbers that need no leading zeros.
* `Date.ofText?_unpadded`, `Date.ofText?_monthFirst`: how such a date is read.
-/

namespace FieldFormula.Calendar

open Scanner

/-! ### Numbers without leading zeros -/

theorem padded_of_length_le {width n : Nat} (h : width ≤ (Nat.toDigits 10 n).length) :
  padded width n = Nat.toDigits 10 n
  := by
  rw [padded, Nat.sub_eq_zero_of_le h, List.replicate_zero, List.nil_append]

theorem padded_one (n : Nat) :
  padded 1 n = Nat.toDigits 10 n
  := padded_of_length_le Nat.length_toDigits_pos

/-- A number from `10 ^ k` on has more than `k` digits. -/
theorem padded_of_le {k n : Nat} (hk : 0 < k) (hn : 10 ^ k ≤ n) :
  padded (k + 1) n = Nat.toDigits 10 n
  := by
  apply padded_of_length_le
  by_contra! hlength
  have hlt := (Nat.length_toDigits_le_iff (by decide) hk).mp (Nat.le_of_lt_succ hlength)
  omega

namespace Scanner

/-- A number below a hundred either has two digits or is not taken as a number of two digits. -/
theorem number_two {n : Nat} (hn : n < 10 ^ 2) {rest : List Char}
    (hends : ∀ c ∈ rest.head?, ¬ c.isDigit) :
  number 2 2 (padded 1 n ++ rest) = none ∨ number 2 2 (padded 1 n ++ rest) = some (n, rest)
  := by
  obtain hlt | hge := Nat.lt_or_ge n (10 ^ 1)
  · left
    apply number_padded_eq_none Nat.one_pos le_rfl hlt Nat.one_lt_two hends
  · right
    rw [padded_one, ← padded_of_le Nat.one_pos hge]
    apply number_padded_full le_rfl Nat.two_pos hn

end Scanner

/-! ### Dates -/

namespace Date

/-- A date with the year first, whose month and day have no leading zeros. -/
def unpadded (separator : Char) (d : Date) : List Char :=
  triple separator (4, d.year.natAbs) (1, d.month) (1, d.day)

variable {d : Date}

section

variable (hyear : d.year.natAbs < 10 ^ 4) {separator : Char}
  (hseparator : separator = '-' ∨ separator = '/')

include hseparator

theorem not_isDigit_separator (s : List Char) :
  ∀ c ∈ (separator :: s).head?, ¬ c.isDigit
  := by
  obtain rfl | rfl := hseparator <;> simp

include hyear

theorem unpadded_apply :
  Scanner.yearFirst (d.unpadded separator) = some ((d.year.natAbs, d.month, d.day), [])
  := by
  have hends := not_isDigit_separator hseparator
  have hend : ∀ c ∈ ([] : List Char).head?, ¬ c.isDigit := by simp
  have hday := number_padded Nat.two_pos Nat.one_le_ofNat d.day_lt hend
  rw [List.append_nil] at hday
  simp only [unpadded, triple, List.append_assoc, List.cons_append]
  rw [Scanner.yearFirst, bind_of_eq_some (number_padded_full le_rfl (by decide) hyear _),
    bind_of_eq_some (isoSeparator_cons hseparator _),
    bind_of_eq_some (number_padded Nat.two_pos Nat.one_le_ofNat d.month_lt (hends _)),
    bind_of_eq_some (isoSeparator_cons hseparator _), bind_of_eq_some hday, pure_apply]

/-- In a timestamp the date has its leading zeros, and something follows it. -/
theorem timestamp_unpadded :
  timestamp (d.unpadded separator) = none
  := by
  have hyear := number_padded_full le_rfl (Nat.zero_lt_succ 3) hyear
  simp only [unpadded, triple, List.append_assoc, List.cons_append]
  rw [timestamp, bind_of_eq_some (hyear _)]
  obtain rfl | rfl := hseparator
  · have hends := not_isDigit_separator (Or.inl rfl)
    rw [bind_of_eq_some (char_self '-' _)]
    obtain hmonth | hmonth := number_two d.month_lt (hends (padded 1 d.day))
    · rw [bind_of_eq_none hmonth]
    · rw [bind_of_eq_some hmonth, bind_of_eq_some (char_self '-' _)]
      have hend : ∀ c ∈ ([] : List Char).head?, ¬ c.isDigit := by simp
      obtain hday | hday := number_two d.day_lt hend
      · rw [List.append_nil] at hday
        rw [bind_of_eq_none hday]
      · rw [List.append_nil] at hday
        rw [bind_of_eq_some hday]
        rfl
  · rw [char, bind_of_eq_none]
    rfl

end

variable (hyear : 0 ≤ d.year) (hyear' : d.year ≤ 9999)

include hyear hyear'

theorem ofText?_unpadded {separator : Char} (hseparator : separator = '-' ∨ separator = '/') :
  DateTime.ofText? (d.unpadded separator) = some (.ofDate d)
  := by
  have hfour : d.year.natAbs < 10 ^ 4 := by omega
  have hblank : Text.isBlank separator = false := by
    obtain rfl | rfl := hseparator <;> rfl
  have hread := ofText?_triple_nil hblank (timestamp_unpadded hfour hseparator)
  rw [← unpadded, ofPlain?, unpadded_apply hfour hseparator] at hread
  apply hread.trans (ofNumbers?_nil hyear true)

theorem ofText?_monthFirst {width : Nat} (hwidth : width ≤ 2) :
  DateTime.ofText? (d.monthFirst width) = some (.ofDate d)
  := by
  have hstamp := timestamp_monthFirst (d := d) hwidth []
  have hplain := ofPlain?_monthFirst (d := d) (by omega) hwidth []
  rw [List.append_nil] at hstamp hplain
  have hread := ofText?_triple_nil rfl hstamp
  rw [← monthFirst] at hread
  rw [hread, hplain, ofNumbers?_nil hyear]

end Date

end FieldFormula.Calendar
