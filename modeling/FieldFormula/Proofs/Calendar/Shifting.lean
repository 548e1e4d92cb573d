import FieldFormula.Proofs.Calendar.MonthArithmetic

/-!
# Moved dates

A date is moved by days, weeks, months or years.  Days and weeks count day numbers.  Months and
years keep the day of the month, which every month has up to the day 28.  The start of a date is
moved to the start of the moved date, and the time between the two is a whole number of days.

* `Date.IsMoved`: the date that lies a number of units behind another one.
* `Date.exists_isMoved`: dates can be moved by days and weeks and, up to the day 28, by months and
  years.
* `DateTime.addDays?_ofDate`, `DateTime.addMonths?_ofDate`: the arithmetic of date-times moves
  dates.
* `DateTime.millisSince_ofDate`: the milliseconds between two dates.
-/

namespace FieldFormula.Calendar

namespace Date

/-! ### Moved dates -/

/-- The date `r` lies `n` units behind the date `d`.  Months and years keep the day of the
month. -/
inductive IsMoved (d : Date) (n : Int) (r : Date) : String → Prop
  | day (h : r.number = d.number + n) : IsMoved d n r "day"
  | week (h : r.number = d.number + 7 * n) : IsMoved d n r "week"
  | month (h : r.year * 12 + r.month = d.year * 12 + d.month + n) (hday : r.day = d.day) :
      IsMoved d n r "month"
  | year (h : r.year = d.year + n) (hmonth : r.month = d.month) (hday : r.day = d.day) :
      IsMoved d n r "year"

/-- The year of the date that lies `n` units behind a date. -/
def movedYear (unit : String) (n : Int) (d : Date) : Int :=
  match unit with
  | "day" => yearOf (d.number + n)
  | "week" => yearOf (d.number + 7 * n)
  | "month" => (d.year * 12 + d.month - 1 + n) / 12
  | _ => d.year + n

theorem isDay_of_le (year : Int) {month day : Nat} (hone : 1 ≤ month) (hle : month ≤ 12)
    (hday : 1 ≤ day) (hday' : day ≤ 28) :
  IsDay year month day
  := by
  use hone, hle, hday, hday'.trans (monthLength_bounds year month).1

/-- A date can be moved within the calendar by days and weeks and, up to the day 28, by months and
years. -/
theorem exists_isMoved {unit : String} {n : Int} {d : Date}
    (hunit : unit ∈ ["day", "week"] ∨ unit ∈ ["month", "year"] ∧ d.day ≤ 28)
    (hfirst : firstYear ≤ d.movedYear unit n) (hlast : d.movedYear unit n ≤ lastYear) :
  ∃ r, IsMoved d n r unit ∧ r.year = d.movedYear unit n
  := by
  obtain ⟨hmonth, hmonth', hday, -⟩ := d.isDay
  simp only [List.mem_cons, List.not_mem_nil, or_false] at hunit
  obtain (rfl | rfl) | ⟨rfl | rfl, hday'⟩ := hunit
  · obtain ⟨r, hr⟩ := exists_of_yearOf hfirst hlast
    use r, .day hr
    exact congrArg yearOf hr
  · obtain ⟨r, hr⟩ := exists_of_yearOf hfirst hlast
    use r, .week hr
    exact congrArg yearOf hr
  · let month := ((d.year * 12 + d.month - 1 + n) % 12).toNat + 1
    have hone : 1 ≤ month := by omega
    have hle : month ≤ 12 := by omega
    obtain ⟨r, hyear, hr, hrday⟩ := exists_of_isDay (isDay_of_le _ hone hle hday hday')
      hfirst hlast
    refine ⟨r, .month ?_ hrday, hyear⟩
    rw [movedYear] at hyear
    omega
  · obtain ⟨r, hyear, hr, hrday⟩ := exists_of_isDay
      (isDay_of_le _ hmonth hmonth' hday hday') hfirst hlast
    use r, .year hyear hr hrday

/-- The day numbers of the years of four digits. -/
theorem number_bounds {d : Date} (hyear : 0 ≤ d.year) (hyear' : d.year ≤ 9999) :
  -366 ≤ d.number ∧ d.number < 3652059
  := by
  obtain ⟨hlow, hhigh⟩ := yearStart_yearOf d.number
  have hfirst : yearStart 0 ≤ yearStart d.year := yearStart_mono.monotone hyear
  have hlast : yearStart (d.year + 1) ≤ yearStart 10000 := yearStart_mono.monotone (by omega)
  have hvalues : yearStart 0 = -366 ∧ yearStart 10000 = 3652059 := by decide
  rw [hvalues.1] at hfirst
  rw [hvalues.2] at hlast
  exact ⟨hfirst.trans hlow, hhigh.trans_le hlast⟩

end Date

/-! ### Starts of dates -/

namespace DateTime

variable {d r : Date} {n : Int}

theorem addDays?_ofDate (h : r.number = d.number + n) :
  addDays? (.ofDate d) n = some (.ofDate r)
  := by
  have hdiv : (0 + n * secondsPerDay) / secondsPerDay = n := by
    rw [zero_add, Int.mul_ediv_cancel _ (by decide)]
  have hmod : ((0 + n * secondsPerDay) % secondsPerDay).toNat = 0 := by
    rw [zero_add, Int.mul_emod_left]
    rfl
  have hdate : d.addDays? n = some r := Date.ofNumber?_eq_some_iff.mpr h
  have hzero : ((Time.midnight.second : Nat) : Int) = 0 := rfl
  have hmidnight : ¬ nanosPerSecond ≤ Time.midnight.nano := by decide
  have hnano : ¬ nanosPerSecond ≤ (ofDate d).time.nano := hmidnight
  rw [addDays?, addSeconds?, if_neg hnano]
  simp only [shift?, ofDate, hzero, hdiv, hdate, hmod, Option.bind_eq_bind, Option.bind_some]
  rfl

theorem addMonths?_ofDate (hn : |n| < 10 ^ 14)
    (h : r.year * 12 + r.month = d.year * 12 + d.month + n) (hday : r.day = d.day) :
  addMonths? (.ofDate d) n = some (.ofDate r)
  := by
  have hmonth : r.monthNumber = d.monthNumber + n := by
    rw [Date.monthNumber, Date.monthNumber]
    omega
  obtain ⟨hlow, hhigh⟩ := r.monthNumber_bounds
  have hfirst := Date.exists_first_of_monthNumber hlow hhigh
  rw [hmonth] at hfirst
  rw [addMonths?_eq_some_iff (isWord_of_abs_lt (hn.trans (by decide)))]
  refine ⟨hfirst, ?_, rfl⟩
  show r.number = monthStart (d.monthNumber + n) + d.day - 1
  rw [r.number_eq, hmonth, hday]

/-- The milliseconds between two dates are those of the days between them. -/
theorem millisSince_ofDate (later earlier : Date) :
  (ofDate later).millisSince (ofDate earlier) = (later.number - earlier.number) * 86400000
  := by
  have hnanos : (ofDate later).nanosSince (ofDate earlier)
      = (later.number - earlier.number) * 86400000 * 1000000 := by
    simp only [nanosSince, ofDate, Time.midnight, secondsPerDay, nanosPerSecond]
    norm_num
    ring
  rw [millisSince, hnanos, Int.mul_tdiv_cancel _ (by decide)]

end DateTime

end FieldFormula.Calendar
