import FieldFormula.Calendar.Date
import Mathlib

/-!
# Day numbers and the parts of dates

A year, a month of it and a day of the month determine a day number, and every day number has
exactly one such year, month and day.  So a date is determined by its parts, and the date with
given parts is the one that has them.

* `yearOf_eq`: the year of a day number lies around it.
* `isDay_parts`, `dayNumber_parts`: every day number is that of its parts.
* `parts_dayNumber`: a day number has the parts that it is made of.
* `Date.ofParts?_eq_some_iff`: the date with given parts.
-/

namespace FieldFormula.Calendar

/-! ### Years -/

/-- The number of days of a year. -/
def yearLength (year : Int) : Nat :=
  if isLeap year then 366 else 365

theorem isLeap_iff (year : Int) :
  isLeap year = true ↔ year % 4 = 0 ∧ (year % 100 ≠ 0 ∨ year % 400 = 0)
  := by
  simp [isLeap]

theorem yearStart_succ (year : Int) :
  yearStart (year + 1) = yearStart year + yearLength year
  := by
  simp only [yearStart, yearLength, add_sub_cancel_right]
  split
  · next hleap =>
    have hdvd := (isLeap_iff year).mp hleap
    omega
  · next hleap =>
    have hdvd := mt (isLeap_iff year).mpr hleap
    omega

theorem yearStart_mono :
  StrictMono yearStart
  := by
  apply strictMono_int_of_lt_succ
  intro year
  have hlength : 0 < yearLength year := by
    rw [yearLength]
    split <;> decide
  rw [yearStart_succ]
  omega

/-- A day number lies between the first day of its year and that of the next year. -/
theorem yearStart_yearOf (n : Int) :
  yearStart (yearOf n) ≤ n ∧ n < yearStart (yearOf n + 1)
  := by
  -- the estimate is too small by one year at most
  have hlow : ∀ y, yearStart y = 365 * (y - 1) + (y - 1) / 4 - (y - 1) / 100 + (y - 1) / 400 :=
    fun _ => rfl
  simp only [yearOf]
  split
  · next hlt =>
    rw [hlow] at hlt
    omega
  · next hge =>
    split
    · next hle =>
      use hle
      simp only [hlow] at *
      omega
    · next hlt =>
      omega

/-- The year of a day number is the only one between whose first days the number lies. -/
theorem yearOf_eq {n year : Int} (hlow : yearStart year ≤ n) (hhigh : n < yearStart (year + 1)) :
  yearOf n = year
  := by
  obtain ⟨hlow', hhigh'⟩ := yearStart_yearOf n
  have hle : year < yearOf n + 1 := yearStart_mono.lt_iff_lt.mp (hlow.trans_lt hhigh')
  have hge : yearOf n < year + 1 := yearStart_mono.lt_iff_lt.mp (hlow'.trans_lt hhigh)
  omega

/-! ### Months -/

theorem monthLength_bounds (year : Int) (month : Nat) :
  28 ≤ monthLength year month ∧ monthLength year month ≤ 31
  := by
  unfold monthLength
  split
  · split <;> decide
  all_goals decide

theorem daysBefore_succ (year : Int) {month : Nat} (h : 1 ≤ month) :
  daysBefore year (month + 1) = daysBefore year month + monthLength year month
  := by
  obtain ⟨k, rfl⟩ : ∃ k, month = k + 1 := ⟨month - 1, by omega⟩
  have hsum : ∀ ms : List Nat, ∀ n,
      ms.foldr (fun m n => monthLength year m + n) n
        = ms.foldr (fun m n => monthLength year m + n) 0 + n := by
    intro ms n
    induction ms with
    | nil => simp
    | cons m ms ih => rw [List.foldr_cons, ih, List.foldr_cons, add_assoc]
  rw [daysBefore, daysBefore, Nat.add_sub_cancel, Nat.add_sub_cancel, List.range'_concat,
    List.foldr_append, hsum, add_comm 1 (1 * k), one_mul]
  simp

theorem daysBefore_one (year : Int) :
  daysBefore year 1 = 0
  := rfl

/-- The months together have as many days as the year. -/
theorem daysBefore_thirteen (year : Int) :
  daysBefore year 13 = yearLength year
  := by
  rw [yearLength]
  cases h : isLeap year <;> simp [daysBefore, List.range', monthLength, h]

theorem daysBefore_le {year : Int} {month month' : Nat} (h : 1 ≤ month) (hle : month ≤ month') :
  daysBefore year month ≤ daysBefore year month'
  := by
  induction month', hle using Nat.le_induction with
  | base => rfl
  | succ month' hle ih =>
    rw [daysBefore_succ year (h.trans hle)]
    omega

/-- The month and the day of what lies `d` days after the first of a month. -/
theorem monthAndDay_eq {year : Int} {m d : Nat} (hd : d < monthLength year m) {month s fuel : Nat}
    (hone : 1 ≤ month) (hle : month ≤ m) (hfuel : m ≤ month + fuel)
    (hs : daysBefore year month + s = daysBefore year m + d) :
  monthAndDay year month s fuel = (m, d + 1)
  := by
  induction fuel generalizing month s with
  | zero =>
    obtain rfl : month = m := by omega
    obtain rfl : s = d := by omega
    rfl
  | succ fuel ih =>
    rw [monthAndDay]
    obtain rfl | hlt := Nat.eq_or_lt_of_le hle
    · obtain rfl : s = d := by omega
      rw [if_pos hd]
    · have hsucc := daysBefore_succ year hone
      have hmono : daysBefore year (month + 1) ≤ daysBefore year m :=
        daysBefore_le (by omega) hlt
      rw [if_neg (by omega)]
      apply ih <;> omega

/-- A day of the year lies in one of the months. -/
theorem exists_daysBefore_le {year : Int} {s k : Nat} (hk : 1 ≤ k) (hs : s < daysBefore year k) :
  ∃ m, 1 ≤ m ∧ m < k ∧ daysBefore year m ≤ s ∧ s < daysBefore year m + monthLength year m
  := by
  induction k, hk using Nat.le_induction with
  | base =>
    rw [daysBefore_one] at hs
    omega
  | succ k hk ih =>
    obtain hlt | hle := Nat.lt_or_ge s (daysBefore year k)
    · obtain ⟨m, hone, hlast, hm⟩ := ih hlt
      use m, hone, by omega, hm.1, hm.2
    · rw [daysBefore_succ year hk] at hs
      use k, hk, by omega, hle, hs

/-! ### Parts of a day number -/

/-- The month is one of the year, and the day one of the month. -/
structure IsDay (year : Int) (month day : Nat) : Prop where
  one_le_month : 1 ≤ month
  month_le : month ≤ 12
  one_le_day : 1 ≤ day
  day_le : day ≤ monthLength year month

/-- The day number of a year, a month and a day. -/
def dayNumber (year : Int) (month day : Nat) : Int :=
  yearStart year + daysBefore year month + day - 1

theorem IsDay.dayNumber_bounds {year : Int} {month day : Nat} (h : IsDay year month day) :
  yearStart year ≤ dayNumber year month day ∧ dayNumber year month day < yearStart (year + 1)
  := by
  obtain ⟨hmonth, hmonth', hday, hday'⟩ := h
  have hlast : daysBefore year (month + 1) ≤ daysBefore year 13 :=
    daysBefore_le (by omega) (by omega)
  rw [daysBefore_succ year hmonth, daysBefore_thirteen] at hlast
  rw [yearStart_succ, dayNumber]
  omega

/-- A day number has the parts that it is made of. -/
theorem parts_dayNumber {year : Int} {month day : Nat} (h : IsDay year month day) :
  yearOf (dayNumber year month day) = year
    ∧ monthOf (dayNumber year month day) = month
    ∧ dayOf (dayNumber year month day) = day
  := by
  obtain ⟨hlow, hhigh⟩ := h.dayNumber_bounds
  have hyear := yearOf_eq hlow hhigh
  obtain ⟨hmonth, hmonth', hday, hday'⟩ := h
  have hordinal : dayOfYear (dayNumber year month day) - 1
      = daysBefore year month + (day - 1) := by
    rw [dayOfYear, hyear, dayNumber]
    omega
  have hparts : monthAndDay year 1 (daysBefore year month + (day - 1)) 11
      = (month, day - 1 + 1) := by
    apply monthAndDay_eq (by omega) le_rfl hmonth (by omega)
    rw [daysBefore_one, zero_add]
  refine ⟨hyear, ?_, ?_⟩
  · rw [monthOf, hyear, hordinal, hparts]
  · rw [dayOf, hyear, hordinal, hparts, Nat.sub_add_cancel hday]

/-- Every day number is that of a month and a day of its year. -/
theorem exists_dayNumber_eq (n : Int) :
  ∃ month day, IsDay (yearOf n) month day ∧ n = dayNumber (yearOf n) month day
  := by
  obtain ⟨hlow, hhigh⟩ := yearStart_yearOf n
  obtain ⟨s, hs⟩ : ∃ s : Nat, n - yearStart (yearOf n) = s :=
    ⟨_, (Int.toNat_of_nonneg (by omega)).symm⟩
  rw [yearStart_succ, ← daysBefore_thirteen] at hhigh
  have hyear : s < daysBefore (yearOf n) 13 := by omega
  obtain ⟨month, hone, hlt, hfirst, hlast⟩ := exists_daysBefore_le (by decide) hyear
  use month, s - daysBefore (yearOf n) month + 1
  constructor
  · constructor <;> omega
  · rw [dayNumber]
    omega

theorem isDay_parts (n : Int) :
  IsDay (yearOf n) (monthOf n) (dayOf n)
  := by
  obtain ⟨month, day, h, hn⟩ := exists_dayNumber_eq n
  obtain ⟨-, hmonth, hday⟩ := parts_dayNumber h
  rw [← hn] at hmonth hday
  rwa [hmonth, hday]

/-- Every day number is that of its parts. -/
theorem dayNumber_parts (n : Int) :
  dayNumber (yearOf n) (monthOf n) (dayOf n) = n
  := by
  obtain ⟨month, day, h, hn⟩ := exists_dayNumber_eq n
  obtain ⟨-, hmonth, hday⟩ := parts_dayNumber h
  rw [← hn] at hmonth hday
  rw [hmonth, hday, ← hn]

/-! ### Dates -/

namespace Date

theorem ofNumber?_eq_some_iff {n : Int} {d : Date} :
  ofNumber? n = some d ↔ d.number = n
  := by
  constructor
  · intro h
    rw [ofNumber?] at h
    split at h
    · obtain rfl := Option.some.inj h
      rfl
    · contradiction
  · rintro rfl
    rw [ofNumber?, dif_pos ⟨d.firstDay_le, d.le_lastDay⟩]

theorem ofNumber?_eq_none_iff {n : Int} :
  ofNumber? n = none ↔ n < firstDay ∨ lastDay < n
  := by
  rw [ofNumber?, dite_eq_right_iff]
  simp only [reduceCtorEq, imp_false]
  omega

theorem isDay (d : Date) :
  IsDay d.year d.month d.day
  := isDay_parts d.number

theorem firstYear_le_year (d : Date) :
  firstYear ≤ d.year
  := by
  have hlt : yearStart firstYear < yearStart (d.year + 1) :=
    d.firstDay_le.trans_lt (yearStart_yearOf d.number).2
  exact Int.lt_add_one_iff.mp (yearStart_mono.lt_iff_lt.mp hlt)

theorem year_le_lastYear (d : Date) :
  d.year ≤ lastYear
  := by
  have hlast := d.le_lastDay
  have hlow : yearStart d.year ≤ d.number := (yearStart_yearOf d.number).1
  rw [lastDay] at hlast
  have hlt : yearStart d.year < yearStart (lastYear + 1) := by omega
  exact Int.lt_add_one_iff.mp (yearStart_mono.lt_iff_lt.mp hlt)

theorem month_lt (d : Date) :
  d.month < 10 ^ 2
  := by
  have h := d.isDay.month_le
  omega

theorem day_lt (d : Date) :
  d.day < 10 ^ 2
  := by
  have h := d.isDay.day_le
  have hlength := monthLength_bounds d.year d.month
  omega

/-- The date with given parts is the date that has these parts. -/
theorem ofParts?_eq_some_iff {year : Int} {month day : Nat} {d : Date} :
  ofParts? year month day = some d ↔ d.year = year ∧ d.month = month ∧ d.day = day
  := by
  constructor
  · intro h
    rw [ofParts?] at h
    split at h
    · next hvalid =>
      obtain ⟨-, -, hmonth, hmonth', hday, hday'⟩ := hvalid
      have hnumber : d.number = dayNumber year month day := ofNumber?_eq_some_iff.mp h
      rw [Date.year, Date.month, Date.day, hnumber]
      exact parts_dayNumber ⟨hmonth, hmonth', hday, hday'⟩
    · contradiction
  · rintro ⟨rfl, rfl, rfl⟩
    obtain ⟨hmonth, hmonth', hday, hday'⟩ := d.isDay
    rw [ofParts?, if_pos ⟨d.firstYear_le_year, d.year_le_lastYear, hmonth, hmonth', hday, hday'⟩]
    exact ofNumber?_eq_some_iff.mpr (dayNumber_parts d.number).symm

theorem ofParts?_parts (d : Date) :
  ofParts? d.year d.month d.day = some d
  := ofParts?_eq_some_iff.mpr ⟨rfl, rfl, rfl⟩

end Date

end FieldFormula.Calendar
