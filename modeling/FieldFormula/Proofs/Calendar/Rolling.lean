import FieldFormula.Calendar.Rolling
import FieldFormula.Proofs.Calendar.Months

/-!
# Dates that roll over

A date with parts out of range is counted from the first day of its month.  There is such a date
only where the month lies in the calendar, so the parts cannot be large, unless a large year and a
large month cancel each other.

* `roll?_eq_some_iff_of_isWord`: a rolled date is counted from the first day of a month.
* `abs_lt_of_makeDate?`: the year and the day are small if the month is.
* `roll?_eq_some_iff`, `makeDate?_eq_some_iff`: which date has parts that may be out of range.
-/

namespace FieldFormula.Calendar

/-! ### Integers of 64 bits -/

/-- The integer has 64 bits. -/
def IsWord (n : Int) : Prop :=
  -2 ^ 63 ≤ n ∧ n < 2 ^ 63

instance : DecidablePred IsWord :=
  fun n => inferInstanceAs (Decidable (-2 ^ 63 ≤ n ∧ n < 2 ^ 63))

theorem isWord_of_abs_lt {n : Int} (h : |n| < 2 ^ 63) :
  IsWord n
  := by
  rw [abs_lt] at h
  rw [IsWord]
  omega

/-- An integer of 64 bits is not wrapped. -/
theorem IsWord.wrap_eq {n : Int} (h : IsWord n) :
  wrap n = n
  := by
  rw [IsWord] at h
  rw [wrap]
  apply Int.bmod_eq_of_le_mul_two <;> norm_num <;> omega

/-- Wrapping around adds a multiple of `2 ^ 64`. -/
theorem wrap_emod (n : Int) :
  wrap n % 2 ^ 64 = n % 2 ^ 64
  := Int.bmod_emod

/-- An integer that lies near 64 bits is not wrapped if the outcome is small. -/
theorem wrap_eq_of_abs_lt {n : Int} (h : |n| < 2 ^ 63 + 10 ^ 10) (hwrap : |wrap n| < 10 ^ 10) :
  wrap n = n
  := by
  have hemod := wrap_emod n
  rw [abs_lt] at h hwrap
  omega

/-- Where two operations wrap around, the second one takes the first one back if the outcome is
small. -/
theorem wrap_wrap_sub_one_eq_iff {n k : Int} (h : |n| < 2 ^ 63 + 10 ^ 10) (hk : |k| < 10 ^ 10) :
  wrap (wrap n - 1) = k ↔ n - 1 = k
  := by
  have hemod := wrap_emod n
  have hemod' := wrap_emod (wrap n - 1)
  rw [abs_lt] at h hk
  constructor
  · intro hwrap
    omega
  · rintro rfl
    rw [IsWord.wrap_eq (n := n) ⟨by omega, by omega⟩, IsWord.wrap_eq ⟨by omega, by omega⟩]

theorem checked?_eq_some_iff {n k : Int} :
  checked? n = some k ↔ IsWord n ∧ k = n
  := by
  rw [checked?, eq_comm (a := k)]
  split
  · next h =>
    have hword : IsWord n := h
    simp [hword]
  · next h =>
    have hword : ¬ IsWord n := h
    simp [hword]

/-! ### Rolling -/

section

variable {year month day : Int} {d : Date}

/-- The day numbers of the calendar are small. -/
theorem Date.abs_number_lt (d : Date) :
  |d.number| < 10 ^ 9
  := by
  have hbounds : -10 ^ 9 < firstDay ∧ lastDay < 10 ^ 9 := by decide
  have hfirst := d.firstDay_le
  have hlast := d.le_lastDay
  rw [abs_lt]
  omega

/-- The numbers of the months of the calendar are small. -/
theorem Date.abs_monthNumber_lt (d : Date) :
  |d.monthNumber| < 10 ^ 7
  := by
  obtain ⟨hlow, hhigh⟩ := d.monthNumber_bounds
  rw [firstYear] at hlow
  rw [lastYear] at hhigh
  rw [abs_lt]
  omega

/-- A date whose parts may be out of range is counted from the first day of a month.  Taking one
from the month wraps around. -/
theorem roll?_eq_some_iff_of_isWord (hday : IsWord day) :
  roll? year month day = some d
    ↔ IsWord (year * 12)
      ∧ (∃ first : Date, first.monthNumber = year * 12 + wrap (month - 1) ∧ first.day = 1)
      ∧ d.number = monthStart (year * 12 + wrap (month - 1)) + (day - 1)
  := by
  have hd := d.abs_number_lt
  rw [IsWord] at hday
  rw [abs_lt] at hd
  simp only [roll?, Option.bind_eq_bind, Option.bind_eq_some_iff, checked?_eq_some_iff,
    Date.ofParts?_eq_some_iff, Date.addDays?, Date.ofNumber?_eq_some_iff]
  constructor
  · rintro ⟨_, ⟨hyear, rfl⟩, _, ⟨-, rfl⟩, first, ⟨hfirstYear, hfirstMonth, hone⟩, hnumber⟩
    have hfirst := Date.monthNumber_eq_iff.mpr ⟨hfirstYear, hfirstMonth⟩
    have hstart := first.number_eq
    have hsmall := first.abs_number_lt
    rw [hfirst, hone] at hstart
    rw [abs_lt] at hsmall
    have hwrap : wrap (day - 1) = day - 1 := by
      apply wrap_eq_of_abs_lt <;> rw [abs_lt] <;> omega
    use hyear, ⟨first, hfirst, hone⟩
    omega
  · rintro ⟨hyear, ⟨first, hfirst, hone⟩, hnumber⟩
    have hstart := first.number_eq
    have hsmall := first.abs_number_lt
    obtain ⟨hfirstYear, hfirstMonth⟩ := Date.monthNumber_eq_iff.mp hfirst
    have hmonths := isWord_of_abs_lt (first.abs_monthNumber_lt.trans (by decide))
    rw [hfirst, hone] at hstart
    rw [hfirst] at hmonths
    rw [abs_lt] at hsmall
    have hwrap : wrap (day - 1) = day - 1 := by
      apply IsWord.wrap_eq
      rw [IsWord]
      omega
    refine ⟨_, ⟨hyear, rfl⟩, _, ⟨hmonths, rfl⟩, first, ⟨hfirstYear, hfirstMonth, hone⟩, ?_⟩
    omega

/-- The year and the day of a date that rolls over are small if the month is. -/
theorem abs_lt_of_roll? (hmonth : |month| < 10 ^ 15) (hlow : -2 ^ 63 ≤ day) (hhigh : day < 2 ^ 63)
    (h : roll? year month day = some d) :
  |year| < 10 ^ 15 ∧ |day| < 10 ^ 15
  := by
  have hd := d.abs_number_lt
  obtain ⟨-, ⟨first, hfirst, hone⟩, hnumber⟩ := (roll?_eq_some_iff_of_isWord ⟨hlow, hhigh⟩).mp h
  have hmonths := first.abs_monthNumber_lt
  have hstart := first.number_eq
  have hsmall := first.abs_number_lt
  rw [hfirst, hone] at hstart
  simp only [abs_lt] at *
  rw [IsWord.wrap_eq ⟨by omega, by omega⟩] at hfirst hstart hnumber
  omega

theorem abs_lt_of_makeDate? (hmonth : |month| < 10 ^ 15) (hlow : -2 ^ 63 ≤ day)
    (hhigh : day < 2 ^ 63) (h : makeDate? year month day = some d) :
  |year| < 10 ^ 15 ∧ |day| < 10 ^ 15
  := by
  rw [makeDate?] at h
  obtain ⟨hyear, hday⟩ := abs_lt_of_roll? hmonth hlow hhigh h
  use ?_, hday
  split at hyear
  · rw [abs_lt]
    omega
  · exact hyear

end

/-! ### Parts out of range -/

theorem roll?_eq_some_iff {year month day : Int} {r : Date} (hyear : |year| < 10 ^ 16)
    (hmonth : |month| < 10 ^ 17) (hday : |day| < 10 ^ 16) :
  roll? year month day = some r
    ↔ (∃ first : Date, first.monthNumber = year * 12 + (month - 1) ∧ first.day = 1)
      ∧ r.number = monthStart (year * 12 + (month - 1)) + (day - 1)
  := by
  rw [abs_lt] at hyear hmonth
  have hyears : IsWord (year * 12) := by
    apply isWord_of_abs_lt
    rw [abs_lt]
    omega
  have hwrap : wrap (month - 1) = month - 1 := IsWord.wrap_eq ⟨by omega, by omega⟩
  rw [roll?_eq_some_iff_of_isWord (isWord_of_abs_lt (hday.trans (by decide))), hwrap,
    and_iff_right hyears]

/-- A year, a month and a day of at most `10 ^ 15` make a date exactly when the first day of the
month to which the year and the month roll over is in the calendar, and so is the day that lies
behind it by one less than the day says.  The latter is the date.  The years from 0 to 99 are those
of the twentieth century. -/
theorem makeDate?_eq_some_iff {y m d : Int} (hy : |y| ≤ 10 ^ 15) (hm : |m| ≤ 10 ^ 15)
    (hd : |d| ≤ 10 ^ 15) :
  let year := if 0 ≤ y ∧ y ≤ 99 then y + 1900 else y
  let months := 12 * year + (m - 1)
  let start := dayNumber (months / 12) ((months % 12).toNat + 1) 1
  ((∃ r, makeDate? y m d = some r)
      ↔ (∃ first : Date, first.year = months / 12 ∧ first.month = months % 12 + 1 ∧ first.day = 1)
        ∧ firstDay ≤ start + (d - 1) ∧ start + (d - 1) ≤ lastDay)
    ∧ ∀ r, makeDate? y m d = some r → r.number = start + (d - 1)
  := by
  intro year months start
  have hyear : |year| < 10 ^ 16 := by
    rw [abs_le] at hy
    rw [abs_lt]
    omega
  have hroll : ∀ r, makeDate? y m d = some r
      ↔ (∃ first : Date, first.monthNumber = months ∧ first.day = 1)
        ∧ r.number = start + (d - 1) := by
    intro r
    have hmonths : year * 12 + (m - 1) = months := by
      rw [mul_comm]
    rw [makeDate?, roll?_eq_some_iff hyear (by omega) (by omega), hmonths]
    exact Iff.rfl
  have hfirst : ∀ first : Date, first.monthNumber = months
      ↔ first.year = months / 12 ∧ first.month = months % 12 + 1 := by
    intro first
    rw [Date.monthNumber_eq_iff]
    omega
  simp only [hroll, hfirst, and_assoc, exists_and_left]
  constructor
  · apply and_congr_right
    intro _
    constructor
    · rintro ⟨r, hr⟩
      rw [← hr]
      exact ⟨r.firstDay_le, r.le_lastDay⟩
    · rintro ⟨hlow, hhigh⟩
      use ⟨_, hlow, hhigh⟩
  · rintro r ⟨-, hr⟩
    exact hr

/-- The year 99 is 1999, from which the month leads back to January of the year 100.  Since that is
no leap year, its day 60 is the first of March. -/
theorem makeDate?_eq_some_iff_century :
  ∃ r, makeDate? 99 (-22787) 60 = some r
    ∧ r.number = dayNumber 100 1 1 + 59
    ∧ r.year = 100 ∧ r.month = 3 ∧ r.day = 1
  := by
  obtain ⟨hdate, hnumber⟩ := @makeDate?_eq_some_iff 99 (-22787) 60 (by decide) (by decide)
    (by decide)
  let january : Date := ⟨36159, by decide, by decide⟩
  obtain ⟨r, hr⟩ := hdate.mpr ⟨⟨january, by decide, by decide, by decide⟩, by decide, by decide⟩
  have hmarch : r.number = dayNumber 100 3 1 := hnumber r hr
  use r, hr, hnumber r hr
  rw [Date.year, Date.month, Date.day, hmarch]
  decide

end FieldFormula.Calendar
