import FieldFormula.Proofs.Calendar.MonthArithmetic

/-!
# Operations of 64 bits

The amounts of calendar arithmetic are integers of 64 bits.  Some of its operations are checked and
yield nothing where their result has more bits, and others wrap around there.  A calculation keeps
the operations that it performs, and its outcome is that of the calendar arithmetic.

Adding months to a date-time may wrap around, but the outcome is exact all the same.  Taking one
from the least month of 64 bits wraps around and leads to a date that is not the one of the parts.

* `Calculation.result?_roll`, `Calculation.result?_makeDate`, `Calculation.result?_addMonths`: the
  outcomes of calculations.
* `Calculation.neverWraps_makeDate_iff`, `Calculation.neverWraps_addMonths_iff`: which calculations
  wrap around nowhere.
* `makeDate?_exact_iff`: where the outcome is exact.
* `Calculation.neverWraps_iff_and_exact_iff`: both for the calendar arithmetic.
-/

namespace FieldFormula.Calendar

/-! ### Operations -/

/-- An operation on integers of 64 bits. -/
inductive Operation where
  | neg (a : Int)
  | add (a b : Int)
  | sub (a b : Int)
  | mul (a b : Int)
  | checkedAdd (a b : Int)
  | checkedMul (a b : Int)
  deriving DecidableEq

namespace Operation

/-- The result in exact arithmetic. -/
def exact : Operation → Int
  | neg a => -a
  | add a b => a + b
  | sub a b => a - b
  | mul a b => a * b
  | checkedAdd a b => a + b
  | checkedMul a b => a * b

/-- Whether the operation yields nothing where its result has more than 64 bits. -/
def isChecked : Operation → Bool
  | checkedAdd _ _ => true
  | checkedMul _ _ => true
  | _ => false

/-- What the operation yields. -/
def outcome? (o : Operation) : Option Int :=
  if o.isChecked then checked? o.exact else some (wrap o.exact)

/-- The exact result has 64 bits. -/
def Fits (o : Operation) : Prop :=
  IsWord o.exact

instance : DecidablePred Fits :=
  fun o => inferInstanceAs (Decidable (IsWord o.exact))

/-- The operation wraps around. -/
def Wraps (o : Operation) : Prop :=
  o.isChecked = false ∧ ¬ o.Fits

theorem Fits.outcome?_eq {o : Operation} (h : o.Fits) :
  o.outcome? = some o.exact
  := by
  rw [outcome?]
  split
  · exact checked?_eq_some_iff.mpr ⟨h, rfl⟩
  · rw [IsWord.wrap_eq h]

theorem Fits.not_wraps {o : Operation} (h : o.Fits) :
  ¬ o.Wraps
  := fun hwraps => hwraps.2 h

theorem not_wraps_iff {o : Operation} (ho : o.isChecked = false) :
  ¬ o.Wraps ↔ o.Fits
  := by
  rw [Wraps, ho, and_iff_right rfl, not_not]

theorem not_wraps_of_isChecked {o : Operation} (ho : o.isChecked = true) :
  ¬ o.Wraps
  := by
  rw [Wraps, ho]
  rintro ⟨⟨⟩, -⟩

theorem outcome?_eq_some_iff {o : Operation} (ho : o.isChecked = true) {n : Int} :
  o.outcome? = some n ↔ o.Fits ∧ n = o.exact
  := by
  rw [outcome?, ho, if_pos rfl, checked?_eq_some_iff]
  exact Iff.rfl

end Operation

/-! ### Calculations -/

/-- An outcome, if there is one, with the operations that are performed on the way to it. -/
structure Calculation (α : Type) where
  result? : Option α
  performed : List Operation

namespace Calculation

variable {α β : Type}

instance : Monad Calculation where
  pure a := ⟨some a, []⟩
  bind c f :=
    match c.result? with
    | none => ⟨none, c.performed⟩
    | some a => ⟨(f a).result?, c.performed ++ (f a).performed⟩

/-- Performs one operation. -/
def perform (o : Operation) : Calculation Int :=
  ⟨o.outcome?, [o]⟩

/-- An outcome without operations of 64 bits. -/
def ofOption (x : Option α) : Calculation α :=
  ⟨x, []⟩

/-- Every operation that is performed has the property. -/
def All (P : Operation → Prop) (c : Calculation α) : Prop :=
  ∀ o ∈ c.performed, P o

variable {P : Operation → Prop}

@[simp]
theorem result?_pure (a : α) :
  (pure a : Calculation α).result? = some a
  := rfl

@[simp]
theorem result?_perform (o : Operation) :
  (perform o).result? = o.outcome?
  := rfl

@[simp]
theorem result?_ofOption (x : Option α) :
  (ofOption x).result? = x
  := rfl

@[simp]
theorem result?_bind (c : Calculation α) (f : α → Calculation β) :
  (c >>= f).result? = c.result?.bind fun a => (f a).result?
  := by
  obtain ⟨_ | a, performed⟩ := c <;> rfl

@[simp]
theorem all_pure (a : α) :
  (pure a : Calculation α).All P
  := by
  rintro o ⟨⟩

@[simp]
theorem all_perform (o : Operation) :
  (perform o).All P ↔ P o
  := List.forall_mem_singleton

@[simp]
theorem all_ofOption (x : Option α) :
  (ofOption x).All P
  := by
  rintro o ⟨⟩

/-- After an outcome the next calculation is performed. -/
theorem all_bind (c : Calculation α) (f : α → Calculation β) :
  (c >>= f).All P ↔ c.All P ∧ ∀ a, c.result? = some a → (f a).All P
  := by
  obtain ⟨_ | a, performed⟩ := c
  · simp [All, Bind.bind]
  · simp only [All, Bind.bind, List.forall_mem_append, Option.some.injEq, forall_eq']

/-- No operation wraps around. -/
def NeverWraps (c : Calculation α) : Prop :=
  c.All fun o => ¬ o.Wraps

/-! ### Calendar arithmetic -/

/-- The date with parts that may be out of range. -/
def roll (year month day : Int) : Calculation Date := do
  let months ← perform (.checkedMul year 12)
  let position ← perform (.sub month 1)
  let months ← perform (.checkedAdd months position)
  let number ← perform (.add (months % 12) 1)
  let first ← ofOption (Date.ofParts? (months / 12) number.toNat 1)
  let days ← perform (.sub day 1)
  ofOption (first.addDays? days)

/-- The date with parts that may be out of range, where the years from 0 to 99 are those of the
twentieth century. -/
def makeDate (year month day : Int) : Calculation Date := do
  let year ← if 0 ≤ year ∧ year ≤ 99 then perform (.add year 1900) else pure year
  roll year month day

/-- The last day of a date's month. -/
def lastOfMonth (d : Date) : Calculation Date := do
  let month ← perform (.add d.month 1)
  roll d.year month 0

/-- The date-time a number of months later. -/
def addMonths (dt : DateTime) (months : Int) : Calculation DateTime := do
  let month ← perform (.add dt.date.month months)
  let date ← roll dt.date.year month dt.date.day
  return ⟨date, dt.time⟩

/-! ### Outcomes -/

section

variable {year month day : Int}

/-- The position of a month in its year counts from one. -/
theorem outcome?_add_one (n : Int) :
  (Operation.add (n % 12) 1).outcome? = some (n % 12 + 1)
  := by
  apply Operation.Fits.outcome?_eq
  rw [Operation.Fits, Operation.exact, IsWord]
  omega

theorem result?_roll (year month day : Int) :
  (roll year month day).result? = roll? year month day
  := by
  have hnumber : ∀ n : Int, (n % 12 + 1).toNat = (n % 12).toNat + 1 := by
    intro n
    omega
  simp only [roll, roll?, result?_bind, result?_perform, result?_ofOption, outcome?_add_one,
    Option.bind_eq_bind, Option.bind_some, hnumber]
  rfl

theorem result?_makeDate (year month day : Int) :
  (makeDate year month day).result? = makeDate? year month day
  := by
  rw [makeDate, makeDate?]
  split
  · next hyear =>
    have hfits : (Operation.add year 1900).Fits := by
      rw [Operation.Fits, Operation.exact, IsWord]
      omega
    rw [result?_bind, result?_perform, hfits.outcome?_eq, Option.bind_some, result?_roll,
      Operation.exact]
  · rw [result?_bind, result?_pure, Option.bind_some, result?_roll]

theorem result?_addMonths (dt : DateTime) (months : Int) :
  (addMonths dt months).result? = dt.addMonths? months
  := by
  simp only [addMonths, DateTime.addMonths?, result?_bind, result?_perform, result?_roll,
    result?_pure]
  rfl

/-! ### Wrapping around -/

/-- Taking one from the month wraps around if the year is not too large, and taking one from the
day does so if there is such a month. -/
theorem neverWraps_roll_iff :
  (roll year month day).NeverWraps
    ↔ (IsWord (year * 12) → IsWord (month - 1)
      ∧ ((∃ first : Date, first.monthNumber = year * 12 + (month - 1)) → IsWord (day - 1)))
  := by
  have hone : ∀ n : Int, (Operation.add (n % 12) 1).Fits := by
    intro n
    rw [Operation.Fits, Operation.exact, IsWord]
    omega
  simp only [NeverWraps, roll, all_bind, all_perform, all_ofOption, result?_perform,
    result?_ofOption, outcome?_add_one, (hone _).not_wraps,
    Operation.not_wraps_of_isChecked (o := .checkedMul _ _) rfl,
    Operation.not_wraps_of_isChecked (o := .checkedAdd _ _) rfl,
    Operation.not_wraps_iff (o := .sub _ _) rfl,
    Operation.outcome?_eq_some_iff (o := .checkedMul _ _) rfl,
    Operation.outcome?_eq_some_iff (o := .checkedAdd _ _) rfl,
    Date.ofParts?_eq_some_iff, Option.some.injEq, not_false_eq_true, true_and, and_true,
    implies_true, forall_eq', and_imp, forall_eq_apply_imp_iff]
  apply imp_congr_right
  intro _
  apply and_congr_right
  intro hmonth
  rw [hmonth.outcome?_eq]
  simp only [Option.some.injEq, forall_eq', Operation.exact]
  constructor
  · rintro hday ⟨first, hfirst⟩
    obtain ⟨hlow, hhigh⟩ := first.monthNumber_bounds
    obtain ⟨start, hstart, hone⟩ := Date.exists_first_of_monthNumber hlow hhigh
    rw [hfirst] at hstart
    obtain ⟨hyear, hmonth⟩ := Date.monthNumber_eq_iff.mp hstart
    apply hday _ start hyear _ hone
    · apply isWord_of_abs_lt
      rw [Operation.exact, ← hfirst]
      exact first.abs_monthNumber_lt.trans (by decide)
    · omega
  · intro hday _ first hyear hmonth _
    apply hday
    use first
    apply Date.monthNumber_eq_iff.mpr
    omega

theorem neverWraps_makeDate_iff (year month day : Int) :
  (makeDate year month day).NeverWraps
    ↔ (roll (if 0 ≤ year ∧ year ≤ 99 then year + 1900 else year) month day).NeverWraps
  := by
  rw [makeDate]
  split
  · next hyear =>
    have hfits : (Operation.add year 1900).Fits := by
      rw [Operation.Fits, Operation.exact, IsWord]
      omega
    rw [NeverWraps, all_bind, all_perform, and_iff_right hfits.not_wraps, result?_perform,
      hfits.outcome?_eq]
    simp only [Option.some.injEq, forall_eq', Operation.exact]
    exact Iff.rfl
  · rw [NeverWraps, all_bind, and_iff_right (all_pure year), result?_pure]
    simp only [Option.some.injEq, forall_eq']
    exact Iff.rfl

/-- Adding months to the month of a date wraps around for the greatest amounts. -/
theorem neverWraps_addMonths_iff (dt : DateTime) {months : Int} (hmonths : IsWord months) :
  (addMonths dt months).NeverWraps ↔ dt.date.month + months < 2 ^ 63
  := by
  have hpos := dt.date.isDay.one_le_month
  have hday := dt.date.day_lt
  have hmonth : (Operation.add dt.date.month months).Fits ↔ dt.date.month + months < 2 ^ 63 := by
    rw [IsWord] at hmonths
    rw [Operation.Fits, Operation.exact, IsWord]
    omega
  rw [NeverWraps, addMonths, all_bind, all_perform, Operation.not_wraps_iff rfl, ← hmonth]
  apply and_iff_left_of_imp
  intro hfits
  rw [result?_perform, hfits.outcome?_eq]
  rintro _ ⟨⟩
  rw [all_bind]
  constructor
  · apply neverWraps_roll_iff.mpr
    rw [Operation.exact]
    rw [hmonth] at hfits
    rw [IsWord] at hmonths
    intro _
    constructor
    · rw [IsWord]
      omega
    · intro _
      rw [IsWord]
      omega
  · intro date _
    apply all_pure

end

end Calculation

/-! ### Exact outcomes -/

theorem IsWord.sub_one_iff {n : Int} (h : IsWord n) :
  IsWord (n - 1) ↔ n ≠ -2 ^ 63
  := by
  rw [IsWord] at *
  omega

/-- A date is the one of its parts in exact arithmetic unless the month is the least integer of 64
bits. -/
theorem makeDate?_exact_iff {year month day : Int} (hmonth : IsWord month) (hday : IsWord day)
    {d : Date} (h : makeDate? year month day = some d) :
  let y := if 0 ≤ year ∧ year ≤ 99 then year + 1900 else year
  d.number = monthStart (y * 12 + (month - 1)) + (day - 1) ↔ month ≠ -2 ^ 63
  := by
  intro y
  obtain ⟨-, -, hnumber⟩ := (roll?_eq_some_iff_of_isWord hday).mp h
  rw [hnumber, add_left_inj, monthStart_strictMono.injective.eq_iff, add_right_inj]
  constructor
  · rintro hwrap rfl
    contradiction
  · intro hne
    apply IsWord.wrap_eq (hmonth.sub_one_iff.mpr hne)

/-- Making a date from a year, a month and a day wraps around where the month is the least integer
of 64 bits, unless the year is so large that there is no date anyway, and where the day is the least
integer of 64 bits of a month of the calendar.  The date is exact unless the month is the least
integer of 64 bits.  Adding months wraps around for the greatest amounts, but a date-time that it
yields is always exact. -/
theorem neverWraps_iff_and_exact_iff {year month day months : Int} (hmonth : IsWord month)
    (hday : IsWord day) (hmonths : IsWord months) (dt : DateTime) :
  let y := if 0 ≤ year ∧ year ≤ 99 then year + 1900 else year
  let number := y * 12 + (month - 1)
  ((Calculation.makeDate year month day).result? = makeDate? year month day
      ∧ ((Calculation.makeDate year month day).NeverWraps
        ↔ (IsWord (y * 12) → month ≠ -2 ^ 63
          ∧ ((∃ first : Date, first.monthNumber = number) → day ≠ -2 ^ 63)))
      ∧ ∀ d, makeDate? year month day = some d →
        (d.number = monthStart number + (day - 1) ↔ month ≠ -2 ^ 63))
    ∧ (Calculation.addMonths dt months).result? = dt.addMonths? months
    ∧ ((Calculation.addMonths dt months).NeverWraps ↔ dt.date.month + months < 2 ^ 63)
    ∧ ∀ r, dt.addMonths? months = some r →
      r.date.number = monthStart (dt.date.monthNumber + months) + (dt.date.day - 1)
        ∧ r.time = dt.time
  := by
  intro y number
  refine ⟨⟨Calculation.result?_makeDate year month day, ?_, ?_⟩,
    Calculation.result?_addMonths dt months, Calculation.neverWraps_addMonths_iff dt hmonths, ?_⟩
  · rw [Calculation.neverWraps_makeDate_iff, Calculation.neverWraps_roll_iff, hmonth.sub_one_iff,
      hday.sub_one_iff]
  · intro d hd
    apply makeDate?_exact_iff hmonth hday hd
  · intro r hr
    obtain ⟨-, hnumber, htime⟩ := (DateTime.addMonths?_eq_some_iff hmonths).mp hr
    use by omega, htime

/-- A year and a month near the two ends of 64 bits cancel each other.  The greatest amount of
months wraps around and yields nothing. -/
theorem neverWraps_iff_and_exact_iff_cancelling :
  let dt : DateTime := .ofDate ⟨-1, by decide, by decide⟩
  (Calculation.makeDate 768614336404564650 (-2 ^ 63 + 1) 31).NeverWraps
    ∧ (∃ d, makeDate? 768614336404564650 (-2 ^ 63 + 1) 31 = some d
      ∧ d.number = monthStart (-8) + 30)
    ∧ ¬ (Calculation.addMonths dt (2 ^ 63 - 1)).NeverWraps
    ∧ dt.addMonths? (2 ^ 63 - 1) = none
  := by
  intro dt
  obtain ⟨⟨-, hwraps, hexact⟩, -, hmonths, -⟩ := @neverWraps_iff_and_exact_iff
    768614336404564650 (-2 ^ 63 + 1) 31 (2 ^ 63 - 1) (by decide) (by decide) (by decide) dt
  refine ⟨hwraps.mpr fun _ => ⟨by decide, fun _ => by decide⟩,
    ⟨⟨-581, by decide, by decide⟩, by decide +kernel, ?_⟩, ?_, ?_⟩
  · exact (hexact _ (by decide +kernel)).mpr (by decide)
  · rw [hmonths]
    decide
  · decide +kernel

/-- The least month of 64 bits and a year that is no less are made into the first of August of the
year zero, which is not the date of these parts.  Taking one from the month wraps around, and so
does taking one from the least day, and adding the greatest amount of months. -/
theorem makeDate?_leastMonth :
  let year : Int := -768614336404564650
  let august : Date := ⟨-153, by decide, by decide⟩
  makeDate? year (-2 ^ 63) 1 = some august
    ∧ august.year = 0 ∧ august.month = 8 ∧ august.day = 1
    ∧ august.number ≠ monthStart (year * 12 + (-2 ^ 63 - 1)) + (1 - 1)
    ∧ ¬ (Calculation.makeDate year (-2 ^ 63) 1).NeverWraps
    ∧ ¬ (Calculation.makeDate 2024 1 (-2 ^ 63)).NeverWraps
    ∧ ¬ (Calculation.addMonths (.ofDate august) (2 ^ 63 - 1)).NeverWraps
  := by
  intro year august
  have hleast : ¬ IsWord (-2 ^ 63 - 1) := by decide
  refine ⟨by decide +kernel, by decide, by decide, by decide, by decide +kernel, ?_, ?_, ?_⟩
  · rw [Calculation.neverWraps_makeDate_iff, Calculation.neverWraps_roll_iff]
    intro h
    exact hleast (h (by decide)).1
  · rw [Calculation.neverWraps_makeDate_iff, Calculation.neverWraps_roll_iff]
    intro h
    exact hleast ((h (by decide)).2 ⟨⟨738885, by decide, by decide⟩, by decide⟩)
  · rw [Calculation.neverWraps_addMonths_iff _ (by decide)]
    decide

end FieldFormula.Calendar
