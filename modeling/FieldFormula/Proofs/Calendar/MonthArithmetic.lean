import FieldFormula.Proofs.Calendar.Rolling

/-!
# Arithmetic of months

A date-time is moved by months as a date with parts out of range rolls over.  A day that the month
lacks to which it is moved is a day of the month after it.  The last day of a month is the one
before the first day of the next month.

* `lastOfMonth?_eq_some_iff`, `exists_lastOfMonth?_eq`: the last day of a month.
* `DateTime.addMonths?_eq_some_iff`: where a date-time is moved.
* `DateTime.exists_addMonths?_eq`: the month and the day of a moved date.
-/

namespace FieldFormula.Calendar

theorem lastOfMonth?_eq_some_iff {d r : Date} :
  lastOfMonth? d = some r
    ↔ (∃ first : Date, first.monthNumber = d.monthNumber + 1 ∧ first.day = 1)
      ∧ r.number = monthStart (d.monthNumber + 1) - 1
  := by
  have hfirst := d.firstYear_le_year
  have hlast := d.year_le_lastYear
  have hmonth := d.month_lt
  rw [firstYear] at hfirst
  rw [lastYear] at hlast
  have hmonths : d.year * 12 + ((d.month : Int) + 1 - 1) = d.monthNumber + 1 := by
    rw [Date.monthNumber]
    ring
  rw [lastOfMonth?, roll?_eq_some_iff, hmonths]
  · exact Iff.rfl
  all_goals
    rw [abs_lt]
    omega

/-- The last day of a date's month. -/
theorem exists_lastOfMonth?_eq {d : Date} (hyear : d.year < lastYear) :
  ∃ last, lastOfMonth? d = some last
    ∧ last.monthNumber = d.monthNumber ∧ last.day = lengthOfMonth d.monthNumber
  := by
  obtain ⟨hlow, hhigh⟩ := d.monthNumber_bounds
  obtain ⟨-, hle, -, -⟩ := d.isDay
  have hlast : d.monthNumber + 1 < (lastYear + 1) * 12 := by
    rw [Date.monthNumber]
    omega
  obtain ⟨last, hmonth, hday⟩ := Date.exists_of_monthNumber hlow hhigh
    (le_trans (by decide) (lengthOfMonth_bounds d.monthNumber).1) le_rfl
  refine ⟨last, ?_, hmonth, hday⟩
  rw [lastOfMonth?_eq_some_iff]
  use Date.exists_first_of_monthNumber (by omega) hlast
  rw [last.number_eq, hmonth, hday, monthStart_add_one]

namespace DateTime

theorem addMonths?_eq_some_iff {dt r : DateTime} {n : Int} (hn : IsWord n) :
  dt.addMonths? n = some r
    ↔ (∃ first : Date, first.monthNumber = dt.date.monthNumber + n ∧ first.day = 1)
      ∧ r.date.number = monthStart (dt.date.monthNumber + n) + dt.date.day - 1
      ∧ r.time = dt.time
  := by
  have hmonths := dt.date.abs_monthNumber_lt
  have hmonth := dt.date.month_lt
  have hday := dt.date.day_lt
  rw [Date.monthNumber, abs_lt] at hmonths
  rw [IsWord] at hn
  have hyear : IsWord (dt.date.year * 12) := ⟨by omega, by omega⟩
  have hdays : IsWord dt.date.day := ⟨by omega, by omega⟩
  -- the month does not wrap around if it leads to a date
  have hmoved : ∀ first : Date,
      first.monthNumber = dt.date.year * 12 + wrap (wrap (dt.date.month + n) - 1)
        ↔ first.monthNumber = dt.date.monthNumber + n := by
    intro first
    have hfirst := first.abs_monthNumber_lt
    have hwrap := @wrap_wrap_sub_one_eq_iff (dt.date.month + n)
      (first.monthNumber - dt.date.year * 12)
    simp only [abs_lt] at hfirst hwrap
    have hwrap := hwrap (by omega) (by omega)
    have hnumber : dt.date.monthNumber = dt.date.year * 12 + dt.date.month - 1 := rfl
    omega
  have hroll : ∀ d, roll? dt.date.year (wrap (dt.date.month + n)) dt.date.day = some d
      ↔ (∃ first : Date, first.monthNumber = dt.date.monthNumber + n ∧ first.day = 1)
        ∧ d.number = monthStart (dt.date.monthNumber + n) + dt.date.day - 1 := by
    intro d
    simp only [roll?_eq_some_iff_of_isWord hdays, and_iff_right hyear, hmoved, add_sub_assoc]
    apply and_congr_right
    rintro ⟨first, hfirst, -⟩
    rw [← (hmoved first).mpr hfirst, hfirst]
  simp only [addMonths?, Option.bind_eq_bind, Option.bind_eq_some_iff, hroll, Option.pure_def,
    Option.some.injEq]
  constructor
  · rintro ⟨d, ⟨hfirst, hd⟩, rfl⟩
    exact ⟨hfirst, hd, rfl⟩
  · rintro ⟨hfirst, hd, htime⟩
    use r.date, ⟨hfirst, hd⟩
    rw [← htime]

/-- The date-time of a day that is counted from the first day of the month a number of months
later. -/
theorem addMonths?_eq_some {dt : DateTime} {n : Int} {d : Date}
    (hfirst : firstYear * 12 ≤ dt.date.monthNumber + n)
    (hlast : dt.date.monthNumber + n < (lastYear + 1) * 12)
    (hnumber : d.number = monthStart (dt.date.monthNumber + n) + dt.date.day - 1) :
  dt.addMonths? n = some ⟨d, dt.time⟩
  := by
  obtain ⟨hlow, hhigh⟩ := dt.date.monthNumber_bounds
  have hmonth := Date.exists_first_of_monthNumber hfirst hlast
  rw [firstYear] at hfirst hlow
  rw [lastYear] at hlast hhigh
  have hn : IsWord n := ⟨by omega, by omega⟩
  rw [addMonths?_eq_some_iff hn]
  exact ⟨hmonth, hnumber, rfl⟩

/-- A date-time is moved to the same day of the month a number of months later.  A day that this
month lacks is a day of the month after it. -/
theorem exists_addMonths?_eq_some {dt : DateTime} {n : Int}
    (hfirst : firstYear * 12 ≤ dt.date.monthNumber + n)
    (hlast : dt.date.monthNumber + n < lastYear * 12) :
  ∃ d, dt.addMonths? n = some ⟨d, dt.time⟩
    ∧ if dt.date.day ≤ lengthOfMonth (dt.date.monthNumber + n) then
        d.monthNumber = dt.date.monthNumber + n ∧ d.day = dt.date.day
      else
        d.monthNumber = dt.date.monthNumber + n + 1
          ∧ lengthOfMonth (dt.date.monthNumber + n) + d.day = dt.date.day
  := by
  split
  · next hle =>
    obtain ⟨d, hmonth, hday⟩ := Date.exists_of_monthNumber hfirst (by omega)
      dt.date.isDay.one_le_day hle
    have hnumber : d.number = monthStart (dt.date.monthNumber + n) + dt.date.day - 1 := by
      rw [d.number_eq, hmonth, hday]
    use d, addMonths?_eq_some hfirst (by omega) hnumber, hmonth, hday
  · next hlt =>
    have hlength := lengthOfMonth_bounds (dt.date.monthNumber + n)
    have hlength' := lengthOfMonth_bounds (dt.date.monthNumber + n + 1)
    have hle := dt.date.day_le_length.trans (lengthOfMonth_bounds dt.date.monthNumber).2
    obtain ⟨d, hmonth, hday⟩ : ∃ d : Date, d.monthNumber = dt.date.monthNumber + n + 1
        ∧ d.day = dt.date.day - lengthOfMonth (dt.date.monthNumber + n) :=
      Date.exists_of_monthNumber (by omega) (by omega) (by omega) (by omega)
    have hnumber : d.number = monthStart (dt.date.monthNumber + n) + dt.date.day - 1 := by
      rw [d.number_eq, hmonth, hday, monthStart_add_one]
      omega
    use d, addMonths?_eq_some hfirst (by omega) hnumber, hmonth
    omega

/-- In the years of four digits, a date-time is moved to the same day of the month a number of
months later, and a day that this month lacks is a day of the month after it.  Up to the day 28,
moving twice is moving by the sum.  The last day of a month is the one before a day of another
month. -/
theorem exists_addMonths?_eq {dt : DateTime} {a : Int} (hyear : 0 ≤ dt.date.year)
    (hyear' : dt.date.year ≤ 9999) (ha : 0 ≤ (dt.date.monthNumber + a) / 12)
    (ha' : (dt.date.monthNumber + a) / 12 ≤ 9999) :
  (∃ d, dt.addMonths? a = some ⟨d, dt.time⟩
      ∧ if dt.date.day ≤ lengthOfMonth (dt.date.monthNumber + a) then
          d.monthNumber = dt.date.monthNumber + a ∧ d.day = dt.date.day
        else
          d.monthNumber = dt.date.monthNumber + a + 1
            ∧ lengthOfMonth (dt.date.monthNumber + a) + d.day = dt.date.day)
    ∧ (dt.date.day ≤ 28 → ∀ b, 0 ≤ (dt.date.monthNumber + (a + b)) / 12
        → (dt.date.monthNumber + (a + b)) / 12 ≤ 9999
        → ∃ r s, dt.addMonths? a = some r ∧ r.addMonths? b = some s
          ∧ dt.addMonths? (a + b) = some s)
    ∧ ∃ last, lastOfMonth? dt.date = some last
      ∧ last.year = dt.date.year ∧ last.month = dt.date.month ∧ last.EndsMonth
      ∧ ∀ d : Date, d.year = dt.date.year → d.month = dt.date.month → d.EndsMonth → d = last
  := by
  have hcalendar : firstYear * 12 ≤ 0 ∧ 120000 ≤ lastYear * 12 := by decide
  have hmoved := @exists_addMonths?_eq_some dt a (by omega) (by omega)
  refine ⟨hmoved, ?_, ?_⟩
  · intro hday b hb hb'
    have hlength := fun n => hday.trans (lengthOfMonth_bounds n).1
    obtain ⟨d, hd, hparts⟩ := hmoved
    rw [if_pos (hlength _)] at hparts
    obtain ⟨hmonth, hsame⟩ := hparts
    obtain ⟨e, he, hparts'⟩ := @exists_addMonths?_eq_some ⟨d, dt.time⟩ b
      (by dsimp only; omega) (by dsimp only; omega)
    rw [hsame, hmonth, if_pos (hlength _)] at hparts'
    obtain ⟨hmonth', hsame'⟩ := hparts'
    use ⟨d, dt.time⟩, ⟨e, dt.time⟩, hd, he
    apply addMonths?_eq_some (by omega) (by omega)
    rw [e.number_eq, hmonth', hsame', add_assoc]
  · obtain ⟨last, hlast, hmonth, hday⟩ := exists_lastOfMonth?_eq (d := dt.date) (by omega)
    obtain ⟨hlastYear, hlastMonth⟩ := Date.parts_eq_of_monthNumber_eq hmonth
    use last, hlast, hlastYear, hlastMonth
    constructor
    · rw [Date.endsMonth_iff (by omega), hmonth, hday]
    · intro d hdYear hdMonth hends
      have hsame : d.monthNumber = last.monthNumber := by
        rw [hmonth, Date.monthNumber, Date.monthNumber, hdYear, hdMonth]
      apply Date.eq_of_monthNumber_eq hsame
      rw [(Date.endsMonth_iff (by omega)).mp hends, hsame, hmonth, hday]

/-- A month behind the last of January of the year zero is the second of March, since February has
29 days.  The day 28 of that February is moved over the years and back. -/
theorem exists_addMonths?_eq_leapYear :
  let time : Time := ⟨86399, 1500000000, by decide, by decide⟩
  let january : DateTime := ⟨⟨-336, by decide, by decide⟩, time⟩
  let february : DateTime := ⟨⟨-308, by decide, by decide⟩, time⟩
  (∃ d, january.addMonths? 1 = some ⟨d, time⟩ ∧ d.monthNumber = 2 ∧ d.day = 2)
    ∧ (∃ last, lastOfMonth? january.date = some last ∧ last.EndsMonth)
    ∧ ∃ r s, february.addMonths? 119998 = some r ∧ r.addMonths? (-119998) = some s
      ∧ february.addMonths? 0 = some s
  := by
  intro time january february
  obtain ⟨⟨d, hd, hparts⟩, -, last, hlast, -, -, hends, -⟩ :=
    @exists_addMonths?_eq january 1 (by decide) (by decide) (by decide) (by decide)
  have hlack : ¬ january.date.day ≤ lengthOfMonth (january.date.monthNumber + 1) := by decide
  rw [if_neg hlack] at hparts
  obtain ⟨hmonth, hday⟩ := hparts
  have hlength : lengthOfMonth (january.date.monthNumber + 1) = 29 := by decide
  have hthirty : january.date.day = 31 := by decide
  obtain ⟨-, htwice, -⟩ :=
    @exists_addMonths?_eq february 119998 (by decide) (by decide) (by decide) (by decide)
  refine ⟨⟨d, hd, hmonth, ?_⟩, ⟨last, hlast, hends⟩, ?_⟩
  · omega
  · exact htwice (by decide) (-119998) (by decide) (by decide)

end DateTime

end FieldFormula.Calendar
