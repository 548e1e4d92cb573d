import FieldFormula.Proofs.Calendar.Date

/-!
# Months

The months are numbered, from January of the year zero on.  The first day of a month lies behind
the first day of the month before it by the length of the latter.  So a day number within a month is
that of a day of the month, and the day before the first day of a month is the last one of the month
before.

* `monthStart_add_one`: where a month begins.
* `Date.monthNumber_eq`: the month and the day of a day number.
* `Date.exists_of_monthNumber`: the days of a month are dates.
* `Date.endsMonth_iff`: the last day of a month.
-/

namespace FieldFormula.Calendar

/-! ### Numbered months -/

/-- The length of the month with a number. -/
def lengthOfMonth (n : Int) : Nat :=
  monthLength (n / 12) ((n % 12).toNat + 1)

/-- The day number of the first day of the month with a number. -/
def monthStart (n : Int) : Int :=
  dayNumber (n / 12) ((n % 12).toNat + 1) 1

theorem lengthOfMonth_bounds (n : Int) :
  28 ≤ lengthOfMonth n ∧ lengthOfMonth n ≤ 31
  := monthLength_bounds _ _

/-- A month begins where the month before it ends. -/
theorem monthStart_add_one (n : Int) :
  monthStart (n + 1) = monthStart n + lengthOfMonth n
  := by
  have hpos : 1 ≤ (n % 12).toNat + 1 := by omega
  have hsucc := daysBefore_succ (n / 12) hpos
  simp only [monthStart, lengthOfMonth, dayNumber]
  by_cases hlast : n % 12 = 11
  · have hyear : (n + 1) / 12 = n / 12 + 1 := by omega
    have hmonth : ((n + 1) % 12).toNat + 1 = 1 := by omega
    have hmonth' : (n % 12).toNat + 1 = 12 := by omega
    rw [hmonth'] at hsucc ⊢
    rw [daysBefore_thirteen] at hsucc
    rw [hyear, hmonth, yearStart_succ, daysBefore_one]
    omega
  · have hyear : (n + 1) / 12 = n / 12 := by omega
    have hmonth : ((n + 1) % 12).toNat + 1 = (n % 12).toNat + 1 + 1 := by omega
    rw [hyear, hmonth, hsucc]
    omega

theorem monthStart_strictMono :
  StrictMono monthStart
  := by
  apply strictMono_int_of_lt_succ
  intro n
  have hlength := lengthOfMonth_bounds n
  rw [monthStart_add_one]
  omega

namespace Date

/-! ### Days of a month -/

/-- A day number in a year of the calendar is that of a date. -/
theorem exists_of_yearOf {n : Int} (hfirst : firstYear ≤ yearOf n) (hlast : yearOf n ≤ lastYear) :
  ∃ d : Date, d.number = n
  := by
  obtain ⟨hlow, hhigh⟩ := yearStart_yearOf n
  have hfirst' : firstDay ≤ yearStart (yearOf n) := yearStart_mono.monotone hfirst
  have hlast' : yearStart (yearOf n + 1) ≤ lastDay + 1 := by
    rw [lastDay, sub_add_cancel]
    apply yearStart_mono.monotone
    omega
  use ⟨n, by omega, by omega⟩

/-- A year of the calendar, a month of it and a day of the month are a date. -/
theorem exists_of_isDay {year : Int} {month day : Nat} (h : IsDay year month day)
    (hfirst : firstYear ≤ year) (hlast : year ≤ lastYear) :
  ∃ d : Date, d.year = year ∧ d.month = month ∧ d.day = day
  := by
  have hparts := parts_dayNumber h
  obtain ⟨d, hd⟩ := exists_of_yearOf (hparts.1.symm ▸ hfirst) (hparts.1.symm ▸ hlast)
  use d
  rw [Date.year, Date.month, Date.day, hd]
  apply hparts

/-- The number of the month in which a date lies. -/
def monthNumber (d : Date) : Int :=
  d.year * 12 + d.month - 1

/-- The number of a month determines its year and its position in the year. -/
theorem monthNumber_eq_iff {d : Date} {n : Int} :
  d.monthNumber = n ↔ d.year = n / 12 ∧ d.month = (n % 12).toNat + 1
  := by
  obtain ⟨hone, hle, -, -⟩ := d.isDay
  rw [monthNumber]
  omega

/-- The day number of a date is counted from the first day of its month. -/
theorem number_eq (d : Date) :
  d.number = monthStart d.monthNumber + d.day - 1
  := by
  obtain ⟨hyear, hmonth⟩ := monthNumber_eq_iff.mp (Eq.refl d.monthNumber)
  have hnumber : d.number = dayNumber d.year d.month d.day := (dayNumber_parts d.number).symm
  rw [hnumber, monthStart, ← hyear, ← hmonth, dayNumber, dayNumber]
  push_cast
  ring

theorem isDay_of_le_length {n : Int} {day : Nat} (hday : 1 ≤ day) (hday' : day ≤ lengthOfMonth n) :
  IsDay (n / 12) ((n % 12).toNat + 1) day
  := by
  constructor
  · omega
  · omega
  · exact hday
  · exact hday'

/-- A day number within a month is that of a day of the month. -/
theorem monthNumber_eq {d : Date} {n : Int} {day : Nat} (hday : 1 ≤ day)
    (hday' : day ≤ lengthOfMonth n) (h : d.number = monthStart n + day - 1) :
  d.monthNumber = n ∧ d.day = day
  := by
  have hnumber : d.number = dayNumber (n / 12) ((n % 12).toNat + 1) day := by
    rw [h, monthStart, dayNumber, dayNumber]
    push_cast
    ring
  obtain ⟨hyear, hmonth, hd⟩ := parts_dayNumber (isDay_of_le_length hday hday')
  rw [← hnumber] at hyear hmonth hd
  use monthNumber_eq_iff.mpr ⟨hyear, hmonth⟩
  exact hd

theorem day_le_length (d : Date) :
  d.day ≤ lengthOfMonth d.monthNumber
  := by
  obtain ⟨hyear, hmonth⟩ := monthNumber_eq_iff.mp (Eq.refl d.monthNumber)
  rw [lengthOfMonth, ← hyear, ← hmonth]
  exact d.isDay.day_le

theorem eq_of_number_eq {d e : Date} (h : d.number = e.number) :
  d = e
  := by
  cases d
  cases e
  simp_all

theorem monthNumber_bounds (d : Date) :
  firstYear * 12 ≤ d.monthNumber ∧ d.monthNumber < (lastYear + 1) * 12
  := by
  have hfirst := d.firstYear_le_year
  have hlast := d.year_le_lastYear
  obtain ⟨hone, hle, -, -⟩ := d.isDay
  rw [monthNumber]
  omega

theorem parts_eq_of_monthNumber_eq {d e : Date} (h : d.monthNumber = e.monthNumber) :
  d.year = e.year ∧ d.month = e.month
  := by
  obtain ⟨hyear, hmonth⟩ := monthNumber_eq_iff.mp h
  obtain ⟨hyear', hmonth'⟩ := monthNumber_eq_iff.mp (Eq.refl e.monthNumber)
  rw [hyear, hmonth, ← hyear', ← hmonth']
  exact ⟨rfl, rfl⟩

/-- A date is determined by its month and its day. -/
theorem eq_of_monthNumber_eq {d e : Date} (hmonth : d.monthNumber = e.monthNumber)
    (hday : d.day = e.day) :
  d = e
  := by
  apply eq_of_number_eq
  rw [d.number_eq, e.number_eq, hmonth, hday]

/-- Every day of a month of the calendar is a date. -/
theorem exists_of_monthNumber {n : Int} {day : Nat} (hfirst : firstYear * 12 ≤ n)
    (hlast : n < (lastYear + 1) * 12) (hday : 1 ≤ day) (hday' : day ≤ lengthOfMonth n) :
  ∃ d : Date, d.monthNumber = n ∧ d.day = day
  := by
  obtain ⟨d, hyear, hmonth, hd⟩ :=
    exists_of_isDay (isDay_of_le_length hday hday') (by omega) (by omega)
  use d, monthNumber_eq_iff.mpr ⟨hyear, hmonth⟩, hd

theorem exists_first_of_monthNumber {n : Int} (hfirst : firstYear * 12 ≤ n)
    (hlast : n < (lastYear + 1) * 12) :
  ∃ first : Date, first.monthNumber = n ∧ first.day = 1
  := exists_of_monthNumber hfirst hlast le_rfl
    (le_trans (by decide) (lengthOfMonth_bounds n).1)

/-! ### Last days of months -/

/-- The day after the date lies in another month. -/
def EndsMonth (d : Date) : Prop :=
  ∃ next, d.addDays? 1 = some next ∧ next.month ≠ d.month

theorem endsMonth_iff {d : Date} (hyear : d.year < lastYear) :
  d.EndsMonth ↔ d.day = lengthOfMonth d.monthNumber
  := by
  obtain ⟨-, hmonth⟩ := monthNumber_eq_iff.mp (Eq.refl d.monthNumber)
  have hnumber := d.number_eq
  constructor
  · rintro ⟨next, hnext, hne⟩
    apply d.day_le_length.antisymm
    by_contra! hlt
    have hnext := ofNumber?_eq_some_iff.mp hnext
    have hnumber' : next.number = monthStart d.monthNumber + (d.day + 1 : Nat) - 1 := by
      push_cast
      omega
    obtain ⟨hsame, -⟩ := monthNumber_eq (by omega) hlt hnumber'
    obtain ⟨-, hmonth'⟩ := monthNumber_eq_iff.mp hsame
    omega
  · intro hday
    obtain ⟨hlow, -⟩ := d.monthNumber_bounds
    obtain ⟨-, hle, -, -⟩ := d.isDay
    have hlast : d.monthNumber + 1 < (lastYear + 1) * 12 := by
      rw [monthNumber]
      omega
    obtain ⟨next, hnext, hone⟩ := exists_first_of_monthNumber (n := d.monthNumber + 1) (by omega)
      hlast
    obtain ⟨-, hmonth'⟩ := monthNumber_eq_iff.mp hnext
    use next
    constructor
    · apply ofNumber?_eq_some_iff.mpr
      rw [next.number_eq, hnext, hone, hnumber, hday, monthStart_add_one]
      push_cast
      ring
    · omega

end Date

end FieldFormula.Calendar
