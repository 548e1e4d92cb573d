import FieldFormula.Proofs.Calendar.Operations
import FieldFormula.Proofs.Calendar.WholeDays
import Mathlib.Tactic.IntervalCases

/-!
# Amounts that fit

Amounts of less than `10 ^ 15` are so small that no operation of the calendar arithmetic has a
result of more than 64 bits.  Then a calculation yields what exact arithmetic yields: the date of
the day number, or nothing if that day is not in the calendar.

* `Calculation.yields_roll`, `Calculation.yields_addMonths`, `Calculation.yields_addWeekdays`: the
  calculations with small amounts.
* `roll?_eq_dateInMonth?`, `DateTime.map_date_addSeconds?`, `DateTime.map_date_addWeekdays?`: exact
  dates.
-/

namespace FieldFormula.Calendar

namespace Calculation

variable {α β : Type}

/-! ### Calculations whose operations fit -/

/-- The calculation has the given outcome, and the results of its operations have 64 bits. -/
structure Yields (c : Calculation α) (x : Option α) : Prop where
  fits : c.All Operation.Fits
  result?_eq : c.result? = x

theorem yields_pure (a : α) :
  (pure a : Calculation α).Yields (some a)
  := ⟨all_pure a, rfl⟩

theorem yields_ofOption (x : Option α) :
  (ofOption x).Yields x
  := ⟨all_ofOption x, rfl⟩

theorem yields_perform {o : Operation} (h : o.Fits) :
  (perform o).Yields (some o.exact)
  := ⟨(all_perform o).mpr h, h.outcome?_eq⟩

variable {c : Calculation α} {x : Option α} {f : α → Calculation β}

theorem Yields.bind (hc : c.Yields x) {g : α → Option β}
    (hf : ∀ a, x = some a → (f a).Yields (g a)) :
  (c >>= f).Yields (x.bind g)
  := by
  constructor
  · apply (all_bind c f).mpr ⟨hc.fits, _⟩
    intro a ha
    exact (hf a (hc.result?_eq.symm.trans ha)).fits
  · rw [result?_bind, hc.result?_eq]
    cases x with
    | none => rfl
    | some a => exact (hf a rfl).result?_eq

/-- After an outcome the next calculation has its own. -/
theorem Yields.step {a : α} (hc : c.Yields (some a)) {y : Option β} (hf : (f a).Yields y) :
  (c >>= f).Yields y
  := hc.bind (g := fun _ => y) (by rintro _ ⟨⟩; exact hf)

theorem Yields.map (hc : c.Yields x) (g : α → β) :
  (c >>= fun a => pure (g a)).Yields (x.map g)
  := by
  rw [Option.map_eq_bind]
  apply hc.bind
  intro a _
  apply yields_pure

end Calculation

/-! ### Exact dates -/

/-- The date that is counted from the first day of the month with a number, if both are in the
calendar. -/
def dateInMonth? (month day : Int) : Option Date :=
  if firstYear * 12 ≤ month ∧ month < (lastYear + 1) * 12 then
    Date.ofNumber? (monthStart month + (day - 1))
  else none

theorem dateInMonth?_eq_some_iff {month day : Int} {d : Date} :
  dateInMonth? month day = some d
    ↔ (∃ first : Date, first.monthNumber = month ∧ first.day = 1)
      ∧ d.number = monthStart month + (day - 1)
  := by
  have hfirst : firstYear * 12 ≤ month ∧ month < (lastYear + 1) * 12
      ↔ ∃ first : Date, first.monthNumber = month ∧ first.day = 1 := by
    constructor
    · rintro ⟨hlow, hhigh⟩
      apply Date.exists_first_of_monthNumber hlow hhigh
    · rintro ⟨first, rfl, -⟩
      apply first.monthNumber_bounds
  rw [dateInMonth?, ← hfirst]
  split
  · next h => rw [and_iff_right h, Date.ofNumber?_eq_some_iff]
  · next h => simp [h]

theorem roll?_eq_dateInMonth? {year month day : Int} (hyear : |year| < 10 ^ 16)
    (hmonth : |month| < 10 ^ 17) (hday : |day| < 10 ^ 16) :
  roll? year month day = dateInMonth? (year * 12 + (month - 1)) day
  := by
  ext d
  rw [roll?_eq_some_iff hyear hmonth hday, dateInMonth?_eq_some_iff]

theorem makeDate?_eq_dateInMonth? {year month day : Int} (hyear : |year| < 10 ^ 15)
    (hmonth : |month| < 10 ^ 15) (hday : |day| < 10 ^ 15) :
  makeDate? year month day
    = dateInMonth? ((if 0 ≤ year ∧ year ≤ 99 then year + 1900 else year) * 12 + (month - 1)) day
  := by
  apply roll?_eq_dateInMonth? _ (by omega) (by omega)
  rw [abs_lt] at *
  omega

theorem lastOfMonth?_eq_dateInMonth? (d : Date) :
  lastOfMonth? d = dateInMonth? (d.monthNumber + 1) 0
  := by
  ext r
  rw [lastOfMonth?_eq_some_iff, dateInMonth?_eq_some_iff]
  exact Iff.rfl

/-- The position of a day in its week, where Monday is zero.  Saturday and Sunday stand before
Monday. -/
def positionInWeek (n : Int) : Int :=
  match weekdayOf n with
  | 0 => -1
  | 6 => -2
  | k => k - 1

theorem positionInWeek_bounds (n : Int) :
  -2 ≤ positionInWeek n ∧ positionInWeek n < 5
  := by
  have hlt : weekdayOf n < 7 := by
    rw [weekdayOf]
    omega
  rw [positionInWeek]
  split
  · simp
  · simp
  · next hsaturday =>
    have hne : weekdayOf n ≠ 6 := hsaturday
    omega

namespace DateTime

theorem weekdayIndex_eq (d : Date) :
  weekdayIndex d = positionInWeek d.number
  := rfl

/-- The day number a number of seconds after a date-time.  A leap second counts from its start
forward and from its end backward. -/
def dayAfter (dt : DateTime) (seconds : Int) : Int :=
  let leap : Int := if nanosPerSecond ≤ dt.time.nano ∧ seconds < 0 then 1 else 0
  dt.date.number + (dt.time.second + leap + seconds) / secondsPerDay

variable {dt r : DateTime} {n : Int}

theorem map_date_shift? (d : Date) (base n : Int) (nano : Nat) (h : nano < 2 * nanosPerSecond) :
  (shift? d base n nano h).map (·.date) = Date.ofNumber? (d.number + (base + n) / secondsPerDay)
  := by
  simp only [shift?, Date.addDays?]
  cases Date.ofNumber? (d.number + (base + n) / secondsPerDay) <;> rfl

/-- Seconds are added exactly, as long as the date is in the calendar. -/
theorem map_date_addSeconds? (dt : DateTime) (n : Int) :
  (dt.addSeconds? n).map (·.date) = Date.ofNumber? (dt.dayAfter n)
  := by
  rw [addSeconds?, dayAfter]
  split
  · next hleap =>
    dsimp only
    split
    · next hzero =>
      have hsecond := dt.time.second_lt
      have hdays : ((dt.time.second : Int) + 0 + 0) / secondsPerDay = 0 := by
        rw [secondsPerDay] at *
        omega
      rw [hzero, if_neg (fun h => absurd h.2 (by decide)), hdays, add_zero, Option.map_some]
      exact (Date.ofNumber?_eq_some_iff.mpr rfl).symm
    · split
      · next hpos => rw [map_date_shift?, if_neg (fun h => absurd h.2 (by omega)), add_zero]
      · next hzero hpos => rw [map_date_shift?, if_pos ⟨hleap, by omega⟩]
  · next hleap => rw [map_date_shift?, if_neg (fun h => hleap h.1), add_zero]

/-- A date-time that is moved is in no leap second. -/
theorem nano_lt_of_addSeconds? (hn : n ≠ 0) (h : dt.addSeconds? n = some r) :
  r.time.nano < nanosPerSecond
  := by
  have hnano := dt.time.nano_lt
  have hshift : ∀ {d : Date} {base : Int} {nano : Nat} {h : nano < 2 * nanosPerSecond},
      shift? d base n nano h = some r → r.time.nano = nano := by
    intro d base nano h hr
    obtain ⟨date, -, hdate⟩ := Option.bind_eq_some_iff.mp hr
    rw [← Option.some.inj hdate]
  rw [addSeconds?] at h
  split at h
  · dsimp only at h
    rw [if_neg hn] at h
    split at h
    · rw [hshift h]
      omega
    · rw [hshift h]
      omega
  · rw [hshift h]
    omega

/-- Whole days lead to the same time of the day, except that a leap second before midnight is moved
backward from midnight. -/
theorem dayAfter_days (dt : DateTime) (n : Int) :
  dt.dayAfter (n * secondsPerDay)
    = dt.date.number + n
      + if nanosPerSecond ≤ dt.time.nano ∧ n < 0 ∧ dt.time.second + 1 = secondsPerDay then 1 else 0
  := by
  have hsecond := dt.time.second_lt
  rw [dayAfter, secondsPerDay] at *
  omega

/-- The days by which a number of business days moves a date-time. -/
def businessShift (dt : DateTime) (n : Int) : Int :=
  daysOfWeeks n
    + daysOfRest (positionInWeek (dt.dayAfter (daysOfWeeks n * secondsPerDay))) n

/-- Business days are added exactly, as long as the date is in the calendar. -/
theorem map_date_addWeekdays? (dt : DateTime) (n : Int) :
  (dt.addWeekdays? n).map (·.date)
    = Date.ofNumber? (dt.dayAfter (dt.businessShift n * secondsPerDay))
  := by
  have hweeks : (dt.addDays? (daysOfWeeks n)).map (·.date)
      = Date.ofNumber? (dt.dayAfter (daysOfWeeks n * secondsPerDay)) := dt.map_date_addSeconds? _
  rw [addWeekdays?_eq, businessShift]
  by_cases hzero : daysOfWeeks n = 0
  · have hstart : dt.dayAfter (0 * secondsPerDay) = dt.date.number := by
      rw [dayAfter_days]
      omega
    rw [hzero, addDays?_zero, Option.bind_some, weekdayIndex_eq, hstart, zero_add]
    apply map_date_addSeconds?
  · obtain ⟨-, hposition⟩ := positionInWeek_bounds (dt.dayAfter (daysOfWeeks n * secondsPerDay))
    obtain ⟨hforward, hbackward, -⟩ := days_signs hposition n
    have hlow := dt.date.firstDay_le
    have hhigh := dt.date.le_lastDay
    have hsum := dt.dayAfter_days
      (daysOfWeeks n + daysOfRest (positionInWeek (dt.dayAfter (daysOfWeeks n * secondsPerDay))) n)
    have hpart := dt.dayAfter_days (daysOfWeeks n)
    cases h : dt.addDays? (daysOfWeeks n) with
    | none =>
      rw [h, Option.map_none, eq_comm, Date.ofNumber?_eq_none_iff] at hweeks
      rw [Option.bind_none, Option.map_none, eq_comm, Date.ofNumber?_eq_none_iff]
      omega
    | some s =>
      have hnumber : s.date.number = dt.dayAfter (daysOfWeeks n * secondsPerDay) := by
        rw [h, eq_comm, Option.map_some, Date.ofNumber?_eq_some_iff] at hweeks
        exact hweeks
      have hnano := nano_lt_of_addSeconds? (mul_ne_zero hzero (by decide)) h
      have hrest := s.dayAfter_days (daysOfRest (weekdayIndex s.date) n)
      rw [Option.bind_some]
      apply (s.map_date_addSeconds? _).trans
      congr 1
      rw [weekdayIndex_eq, hnumber] at *
      omega

/-- Months are added exactly, as long as the date is in the calendar. -/
theorem map_date_addMonths? (dt : DateTime) {n : Int} (hn : IsWord n) :
  (dt.addMonths? n).map (·.date) = dateInMonth? (dt.date.monthNumber + n) dt.date.day
  := by
  ext d
  simp only [Option.map_eq_some_iff, dateInMonth?_eq_some_iff, addMonths?_eq_some_iff hn,
    add_sub_assoc]
  constructor
  · rintro ⟨r, ⟨hfirst, hnumber, -⟩, rfl⟩
    use hfirst
  · rintro ⟨hfirst, hnumber⟩
    use ⟨d, dt.time⟩, ⟨hfirst, hnumber, rfl⟩

end DateTime

/-! ### Calculations with small amounts -/

namespace Calculation

/-- The absolute value of an amount. -/
def absolute (n : Int) : Calculation Int :=
  if n < 0 then perform (.neg n) else pure n

/-- The position of a date in its week, as business days count it. -/
def weekdayPosition (d : Date) : Calculation Int :=
  match d.weekday with
  | 0 => pure (-1)
  | 6 => pure (-2)
  | k => perform (.sub k 1)

/-- A number of days from a position in the week, with the weekend if they run past Friday. -/
def withWeekend (position rest : Int) : Calculation Int := do
  let stop ← perform (.add position rest)
  if 5 ≤ stop then perform (.add rest 2) else pure rest

/-- The date-time a number of business days later. -/
def addWeekdays (dt : DateTime) (n : Int) : Calculation DateTime := do
  let sign : Int := if n < 0 then -1 else 1
  let size ← absolute n
  let weeks ← perform (.mul sign (size / 5))
  let days ← perform (.mul weeks 7)
  let shifted ← ofOption (dt.addDays? days)
  let position ← weekdayPosition shifted.date
  let rest ← withWeekend position (size % 5)
  let days ← perform (.mul sign rest)
  ofOption (shifted.addDays? days)

theorem yields_of_abs_lt {o : Operation} (h : |o.exact| < 2 ^ 63) :
  (perform o).Yields (some o.exact)
  := yields_perform (isWord_of_abs_lt h)

section

variable {year month day : Int}

theorem yields_roll (hyear : |year| < 10 ^ 16) (hmonth : |month| < 10 ^ 17)
    (hday : |day| < 10 ^ 16) :
  (roll year month day).Yields (roll? year month day)
  := by
  rw [abs_lt] at hyear hmonth hday
  have hfits : (roll year month day).Yields
      ((Date.ofParts? ((year * 12 + (month - 1)) / 12)
        ((year * 12 + (month - 1)) % 12 + 1).toNat 1).bind fun first =>
          first.addDays? (day - 1)) := by
    apply (yields_of_abs_lt _).step
    apply (yields_of_abs_lt _).step
    apply (yields_of_abs_lt _).step
    apply (yields_of_abs_lt _).step
    apply (yields_ofOption _).bind
    intro first _
    apply (yields_of_abs_lt _).step
    apply yields_ofOption
    all_goals
      simp only [Operation.exact, abs_lt]
      omega
  exact ⟨hfits.fits, result?_roll year month day⟩

theorem yields_makeDate (hyear : |year| < 10 ^ 15) (hmonth : |month| < 10 ^ 15)
    (hday : |day| < 10 ^ 15) :
  (makeDate year month day).Yields (makeDate? year month day)
  := by
  refine ⟨?_, result?_makeDate year month day⟩
  rw [abs_lt] at hyear
  have hroll : ∀ y : Int, |y| < 10 ^ 16 → (roll y month day).Yields (roll? y month day) :=
    fun y hy => yields_roll hy (by omega) (by omega)
  rw [makeDate]
  split
  · next hcentury =>
    have hnineteen : |year + 1900| < 10 ^ 16 := by
      rw [abs_lt]
      omega
    have hadd : (perform (.add year 1900)).Yields (some (year + 1900)) :=
      yields_of_abs_lt (hnineteen.trans (by decide))
    exact (hadd.step (hroll _ hnineteen)).fits
  · have hsmall : |year| < 10 ^ 16 := by
      rw [abs_lt]
      omega
    exact ((yields_pure year).step (hroll _ hsmall)).fits

theorem yields_lastOfMonth (d : Date) :
  (lastOfMonth d).Yields (lastOfMonth? d)
  := by
  have hyear := d.abs_monthNumber_lt
  have hmonth := d.month_lt
  rw [Date.monthNumber, abs_lt] at hyear
  apply (yields_of_abs_lt _).step
  · apply yields_roll
    all_goals
      simp only [Operation.exact, abs_lt]
      omega
  · rw [Operation.exact, abs_lt]
    omega

theorem yields_addMonths (dt : DateTime) {n : Int} (hn : |n| < 12 * 10 ^ 15) :
  (addMonths dt n).Yields (dt.addMonths? n)
  := by
  refine ⟨?_, result?_addMonths dt n⟩
  have hyear := dt.date.abs_monthNumber_lt
  have hmonth := dt.date.month_lt
  have hday := dt.date.day_lt
  rw [abs_lt] at hn
  rw [Date.monthNumber, abs_lt] at hyear
  have hroll : (roll dt.date.year (dt.date.month + n) dt.date.day).Yields
      (roll? dt.date.year (dt.date.month + n) dt.date.day) := by
    apply yields_roll <;> rw [abs_lt] <;> omega
  have hadd : (perform (.add dt.date.month n)).Yields (some (dt.date.month + n)) := by
    apply yields_of_abs_lt
    rw [Operation.exact, abs_lt]
    omega
  exact (hadd.step (hroll.map fun date => (⟨date, dt.time⟩ : DateTime))).fits

theorem yields_absolute {n : Int} (hn : |n| < 10 ^ 15) :
  (absolute n).Yields (some n.natAbs)
  := by
  rw [absolute]
  split
  · next hneg =>
    have habs : (n.natAbs : Int) = (Operation.neg n).exact := by
      rw [Operation.exact]
      omega
    rw [habs]
    apply yields_of_abs_lt
    rw [Operation.exact, abs_neg]
    exact hn.trans (by decide)
  · next hneg =>
    have habs : (n.natAbs : Int) = n := by omega
    rw [habs]
    apply yields_pure

theorem yields_weekdayPosition (d : Date) :
  (weekdayPosition d).Yields (some (DateTime.weekdayIndex d))
  := by
  have hlt : d.weekday < 7 := by
    rw [Date.weekday, weekdayOf]
    omega
  rw [weekdayPosition, DateTime.weekdayIndex]
  generalize d.weekday = k at *
  interval_cases k
  · exact yields_pure (-1)
  · exact yields_perform (by decide)
  · exact yields_perform (by decide)
  · exact yields_perform (by decide)
  · exact yields_perform (by decide)
  · exact yields_perform (by decide)
  · exact yields_pure (-2)

theorem yields_withWeekend {position rest : Int} (hposition : |position| < 10 ^ 15)
    (hrest : |rest| < 10 ^ 15) :
  (withWeekend position rest).Yields
    (some (if 5 ≤ position + rest then rest + 2 else rest))
  := by
  rw [abs_lt] at hposition hrest
  apply (yields_of_abs_lt _).step
  · rw [Operation.exact]
    split
    · apply yields_of_abs_lt
      rw [Operation.exact, abs_lt]
      omega
    · apply yields_pure
  · rw [Operation.exact, abs_lt]
    omega

theorem yields_addWeekdays (dt : DateTime) {n : Int} (hn : |n| < 10 ^ 15) :
  (addWeekdays dt n).Yields (dt.addWeekdays? n)
  := by
  have hsize := yields_absolute hn
  rw [abs_lt] at hn
  rw [addWeekdays, DateTime.addWeekdays?]
  have hsign : (if n < 0 then -1 else 1 : Int) = -1 ∨ (if n < 0 then -1 else 1 : Int) = 1 := by
    omega
  generalize (if n < 0 then -1 else 1 : Int) = sign at *
  have hmul : ∀ {k : Int}, |k| < 10 ^ 15 → (perform (.mul sign k)).Yields (some (sign * k)) := by
    intro k hk
    apply yields_of_abs_lt
    rw [Operation.exact, abs_mul]
    obtain rfl | rfl := hsign <;> simp <;> omega
  have hdays : (perform (.mul (sign * (n.natAbs / 5)) 7)).Yields
      (some (sign * (n.natAbs / 5) * 7)) := by
    apply yields_of_abs_lt
    rw [Operation.exact, abs_lt]
    obtain rfl | rfl := hsign <;> omega
  apply hsize.step
  apply (hmul _).step
  · apply hdays.step
    apply (yields_ofOption _).bind
    intro shifted _
    obtain ⟨hlow, hhigh⟩ := positionInWeek_bounds shifted.date.number
    rw [← DateTime.weekdayIndex_eq] at hlow hhigh
    apply (yields_weekdayPosition shifted.date).step
    apply (yields_withWeekend _ _).step
    · apply (hmul _).step
      · apply yields_ofOption
      · rw [abs_lt]
        omega
    · rw [abs_lt]
      omega
    · rw [abs_lt]
      omega
  · rw [abs_lt]
    omega

end

end Calculation

end FieldFormula.Calendar
