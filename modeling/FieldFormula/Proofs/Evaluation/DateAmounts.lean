import FieldFormula.Proofs.Calendar.Amounts
import FieldFormula.Proofs.Evaluation.DateDifference

/-!
# Amounts in formulas

The functions that move a date, build a date and lead to the last day of a month take amounts of
less than `10 ^ 15`.  The operations that they perform on these amounts have results of 64 bits, so
that none of them wraps around and no checked one fails.  Each function has the date of exact
arithmetic, or the empty text if that date is not in the calendar.

* `Calculation.yields_dateAdd`, `Calculation.yields_dateSerial`, `Calculation.yields_monthLastDay`:
  the calculations of the functions.
* `Expr.evaluate_dateAmounts`: the functions in a formula.
-/

namespace FieldFormula

open Calendar (Date DateTime dateInMonth? lastOfMonth? monthStart secondsPerDay)

/-- The days by which a call moves the last day of a month. -/
def Library.lastDayOffset? (c : Call) : Option Int :=
  if 1 < c.arity then wholeAmount? (c.number 1) else some 0

/-! ### Calculations of the functions -/

namespace Calendar.Calculation

/-- The date-time moved by an amount of a unit. -/
def shiftBy (unit : String) (n : Int) (dt : DateTime) : Calculation DateTime :=
  match unit with
  | "second" => ofOption (dt.addSeconds? n)
  | "minute" => do
    let seconds ← perform (.checkedMul n 60)
    ofOption (dt.addSeconds? seconds)
  | "hour" => do
    let seconds ← perform (.checkedMul n 3600)
    ofOption (dt.addSeconds? seconds)
  | "day" => ofOption (dt.addDays? n)
  | "weekday" => addWeekdays dt n
  | "week" => do
    let days ← perform (.checkedMul n 7)
    ofOption (dt.addDays? days)
  | "month" => addMonths dt n
  | "year" => do
    let months ← perform (.checkedMul n 12)
    addMonths dt months
  | _ => pure dt

/-- The date moved by an amount of a unit. -/
def dateAdd (c : Call) : Calculation Date := do
  let dt ← ofOption (c.date? 2)
  let n ← ofOption (Library.wholeAmount? (c.number 1))
  let moved ← shiftBy (Library.lowerText c 0) n dt
  return moved.date

/-- The date of a year, a month and a day, which may be out of range. -/
def dateSerial (c : Call) : Calculation Date := do
  let year ← ofOption (Library.wholeAmount? (c.number 0))
  let month ← ofOption (Library.wholeAmount? (c.number 1))
  let day ← ofOption (Library.wholeAmount? (c.number 2))
  makeDate year month day

/-- The last day of a month, moved by a number of days if one is given. -/
def monthLastDay (c : Call) : Calculation Date := do
  let dt ← ofOption (c.date? 0)
  let offset ← ofOption (Library.lastDayOffset? c)
  let last ← lastOfMonth dt.date
  ofOption (last.addDays? offset)

theorem yields_shiftBy (unit : String) {n : Int} (hn : |n| < 10 ^ 15) (dt : DateTime) :
  (shiftBy unit n dt).Yields (Library.shiftBy? unit n dt)
  := by
  have hmul : ∀ {k : Int}, |k| ≤ 3600 → (perform (.checkedMul n k)).Yields (some (n * k)) := by
    intro k hk
    apply yields_of_abs_lt
    rw [Operation.exact, abs_mul]
    calc |n| * |k| ≤ 10 ^ 15 * 3600 := mul_le_mul hn.le hk (abs_nonneg k) (by decide)
      _ < 2 ^ 63 := by decide
  unfold shiftBy Library.shiftBy?
  split
  · apply yields_ofOption
  · apply (hmul (by decide)).step
    apply yields_ofOption
  · apply (hmul (by decide)).step
    apply yields_ofOption
  · apply yields_ofOption
  · apply yields_addWeekdays dt hn
  · apply (hmul (by decide)).step
    apply yields_ofOption
  · apply yields_addMonths
    omega
  · apply (hmul (by decide)).step
    apply yields_addMonths
    rw [abs_lt] at *
    omega
  · simp only [*, yields_pure]

end Calendar.Calculation

/-! ### Dates in exact arithmetic -/

namespace Library.Exact

/-- The date to which an amount of a unit leads, if it is in the calendar. -/
def shiftBy? (unit : String) (n : Int) (dt : DateTime) : Option Date :=
  match unit with
  | "second" => Date.ofNumber? (dt.dayAfter n)
  | "minute" => Date.ofNumber? (dt.dayAfter (n * 60))
  | "hour" => Date.ofNumber? (dt.dayAfter (n * 3600))
  | "day" => Date.ofNumber? (dt.dayAfter (n * secondsPerDay))
  | "weekday" => Date.ofNumber? (dt.dayAfter (dt.businessShift n * secondsPerDay))
  | "week" => Date.ofNumber? (dt.dayAfter (n * 7 * secondsPerDay))
  | "month" => dateInMonth? (dt.date.monthNumber + n) dt.date.day
  | "year" => dateInMonth? (dt.date.monthNumber + n * 12) dt.date.day
  | _ => some dt.date

/-- The date moved by an amount of a unit. -/
def dateAdd? (c : Call) : Option Date := do
  let dt ← c.date? 2
  let n ← wholeAmount? (c.number 1)
  shiftBy? (lowerText c 0) n dt

/-- The date that is counted from the first day of a month, where the years from 0 to 99 are those
of the twentieth century. -/
def dateSerial? (c : Call) : Option Date := do
  let year ← wholeAmount? (c.number 0)
  let month ← wholeAmount? (c.number 1)
  let day ← wholeAmount? (c.number 2)
  dateInMonth? ((if 0 ≤ year ∧ year ≤ 99 then year + 1900 else year) * 12 + (month - 1)) day

/-- The date that is counted from the day before the first day of the next month. -/
def monthLastDay? (c : Call) : Option Date := do
  let dt ← c.date? 0
  let offset ← lastDayOffset? c
  let last ← dateInMonth? (dt.date.monthNumber + 1) 0
  Date.ofNumber? (last.number + offset)

end Library.Exact

namespace Library

theorem map_date_shiftBy? (unit : String) {n : Int} (hn : |n| < 10 ^ 15) (dt : DateTime) :
  (shiftBy? unit n dt).map (·.date) = Exact.shiftBy? unit n dt
  := by
  unfold shiftBy? Exact.shiftBy?
  split
  · apply dt.map_date_addSeconds?
  · apply dt.map_date_addSeconds?
  · apply dt.map_date_addSeconds?
  · apply dt.map_date_addSeconds?
  · apply dt.map_date_addWeekdays?
  · apply dt.map_date_addSeconds?
  · apply dt.map_date_addMonths? (Calendar.isWord_of_abs_lt (hn.trans (by decide)))
  · apply dt.map_date_addMonths?
    rw [Calendar.IsWord]
    rw [abs_lt] at hn
    omega
  · simp only [*, Option.map_some]

end Library

namespace Calendar.Calculation

open Library (abs_lt_of_wholeAmount?)

theorem yields_dateAdd (c : Call) :
  (dateAdd c).Yields (Library.Exact.dateAdd? c)
  := by
  simp only [Library.Exact.dateAdd?, Option.bind_eq_bind]
  apply (yields_ofOption _).bind
  intro dt _
  apply (yields_ofOption _).bind
  intro n hn
  have hsmall := abs_lt_of_wholeAmount? hn
  rw [← Library.map_date_shiftBy? _ hsmall]
  apply (yields_shiftBy _ hsmall dt).map

theorem yields_dateSerial (c : Call) :
  (dateSerial c).Yields (Library.Exact.dateSerial? c)
  := by
  simp only [Library.Exact.dateSerial?, Option.bind_eq_bind]
  apply (yields_ofOption _).bind
  intro year hyear
  apply (yields_ofOption _).bind
  intro month hmonth
  apply (yields_ofOption _).bind
  intro day hday
  have hyear := abs_lt_of_wholeAmount? hyear
  have hmonth := abs_lt_of_wholeAmount? hmonth
  have hday := abs_lt_of_wholeAmount? hday
  rw [← makeDate?_eq_dateInMonth? hyear hmonth hday]
  apply yields_makeDate hyear hmonth hday

theorem yields_monthLastDay (c : Call) :
  (monthLastDay c).Yields (Library.Exact.monthLastDay? c)
  := by
  simp only [Library.Exact.monthLastDay?, Option.bind_eq_bind]
  apply (yields_ofOption _).bind
  intro dt _
  apply (yields_ofOption _).bind
  intro offset _
  rw [← lastOfMonth?_eq_dateInMonth?]
  apply (yields_lastOfMonth dt.date).bind
  intro last _
  apply yields_ofOption

end Calendar.Calculation

namespace Library

/-! ### The functions -/

/-- A moved date-time is written as its date. -/
theorem dateValue_eq (dt : Option DateTime) :
  dateValue dt = dayValue (dt.map (·.date))
  := by
  cases dt <;> rfl

theorem dateAdd_eq (c : Call) :
  dateAdd c = dayValue (Exact.dateAdd? c)
  := by
  rw [dateAdd, dateValue_eq, Exact.dateAdd?]
  cases c.date? 2 with
  | none => rfl
  | some dt =>
    cases hn : wholeAmount? (c.number 1) with
    | none => rfl
    | some n =>
      apply congrArg dayValue
      apply map_date_shiftBy? _ (abs_lt_of_wholeAmount? hn)

theorem dateSerial_eq (c : Call) :
  dateSerial c = dayValue (Exact.dateSerial? c)
  := by
  rw [dateSerial, Exact.dateSerial?]
  cases hyear : wholeAmount? (c.number 0) with
  | none => rfl
  | some year =>
    cases hmonth : wholeAmount? (c.number 1) with
    | none => rfl
    | some month =>
      cases hday : wholeAmount? (c.number 2) with
      | none => rfl
      | some day =>
        apply congrArg dayValue
        apply Calendar.makeDate?_eq_dateInMonth? (abs_lt_of_wholeAmount? hyear)
          (abs_lt_of_wholeAmount? hmonth) (abs_lt_of_wholeAmount? hday)

theorem monthLastDay_eq (c : Call) :
  monthLastDay c = dayValue (Exact.monthLastDay? c)
  := by
  rw [monthLastDay, Exact.monthLastDay?, lastDayOffset?]
  simp only [Calendar.lastOfMonth?_eq_dateInMonth?]
  split <;> rfl

end Library

/-! ### Formulas -/

namespace Expr

open Library (dayValue)

/-- The operations that the functions of dates perform on their amounts fit into 64 bits, whatever
the unit, the amounts and the dates are.  The value of each function is the date of exact
arithmetic, or the empty text if that date is not in the calendar. -/
theorem evaluate_dateAmounts {ctx : Context} (hregistry : ctx.registry = .builtin)
    (args : List Expr) :
  let call : Call := ⟨evaluateAll ctx args, ctx.draw⟩
  ((Calendar.Calculation.dateAdd call).Yields (Library.Exact.dateAdd? call)
      ∧ evaluate ctx (.call "DATEADD" args) = dayValue (Library.Exact.dateAdd? call))
    ∧ ((Calendar.Calculation.dateSerial call).Yields (Library.Exact.dateSerial? call)
      ∧ evaluate ctx (.call "DATESERIAL" args) = dayValue (Library.Exact.dateSerial? call))
    ∧ (Calendar.Calculation.monthLastDay call).Yields (Library.Exact.monthLastDay? call)
    ∧ evaluate ctx (.call "MONTHLASTDAY" args) = dayValue (Library.Exact.monthLastDay? call)
  := by
  intro call
  refine ⟨⟨Calendar.Calculation.yields_dateAdd call, ?_⟩,
    ⟨Calendar.Calculation.yields_dateSerial call, ?_⟩,
    Calendar.Calculation.yields_monthLastDay call, ?_⟩
  · rw [evaluate_call hregistry "DATEADD" Library.dateAdd rfl, ← Library.dateAdd_eq]
  · rw [evaluate_call hregistry "DATESERIAL" Library.dateSerial rfl, ← Library.dateSerial_eq]
  · rw [evaluate_call hregistry "MONTHLASTDAY" Library.monthLastDay rfl, ← Library.monthLastDay_eq]

/-- The greatest amount of years leads out of the calendar, and so does the least amount of business
days.  A day that is as small is not made up for by a month that is as large.  The last day of a
February of 29 days lies 28 days behind its first day. -/
theorem evaluate_dateAmounts_extremes :
  let ctx : Context := ⟨.builtin, none, 0.0⟩
  let number : Int → Expr := fun n => .literal (.number (.ofInt n))
  let text : String → Expr := fun s => .literal (.text s)
  let years : List Expr := [text "Year", number 999999999999999, text "2024-02-05"]
  let weekdays : List Expr := [text "weekday", number (-999999999999999), text "2024-02-05"]
  let parts : List Expr := [number 24, number 999999999999999, number (-999999999999999)]
  let offset : List Expr := [text "2024-02-05", number (-28)]
  (evaluate ctx (.call "DATEADD" years)).chars = []
    ∧ (evaluate ctx (.call "DATEADD" weekdays)).chars = []
    ∧ (evaluate ctx (.call "DATESERIAL" parts)).chars = []
    ∧ (evaluate ctx (.call "MONTHLASTDAY" offset)).chars = "2024-02-01".toList
    ∧ ∀ o ∈ (Calendar.Calculation.dateAdd ⟨evaluateAll ctx years, ctx.draw⟩).performed,
      o.Fits
  := by
  intro ctx number text years weekdays parts offset
  have hregistry : ctx.registry = .builtin := rfl
  obtain ⟨⟨hyields, hyears⟩, -⟩ := evaluate_dateAmounts hregistry years
  obtain ⟨⟨-, hweekdays⟩, -⟩ := evaluate_dateAmounts hregistry weekdays
  obtain ⟨-, ⟨-, hparts⟩, -⟩ := evaluate_dateAmounts hregistry parts
  obtain ⟨-, -, -, hoffset⟩ := evaluate_dateAmounts hregistry offset
  refine ⟨?_, ?_, ?_, ?_, hyields.fits⟩
  · rw [hyears]
    decide +kernel
  · rw [hweekdays]
    decide +kernel
  · rw [hparts]
    decide +kernel
  · rw [hoffset]
    decide +kernel

end Expr

end FieldFormula
