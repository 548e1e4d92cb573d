import FieldFormula.Proofs.Calendar.Shifting
import FieldFormula.Proofs.Decimal.Division
import FieldFormula.Proofs.Evaluation.DateSerial

/-!
# Differences of moved dates

The function that moves a date writes the moved date as a text, and the function of differences
reads both dates and counts the units between them.  Days and weeks are counted by rounding down
the quotient of the milliseconds between the two dates, which here is exact, months and years by
the parts of the dates.  So the difference is the amount by which the date was moved.

* `Library.denotes_wholeUnits`: a whole number of units is counted exactly.
* `Library.shiftBy?_of_isMoved`, `Library.denotes_difference`: a date is moved, and the difference
  to the moved date is the amount.
* `Expr.evaluate_dateDiff_dateAdd`: the same for the functions in a formula.
-/

namespace FieldFormula

open Calendar (Date DateTime)
open Decimal (Denotes)

namespace Library

/-! ### Whole units -/

theorem denotes_wholeUnits {elapsed k m : Int} {millis : Float} (hmillis : Denotes millis m)
    (hm : 0 < m) (h : elapsed = k * m) (hbound : |elapsed| ≤ 2 ^ 53) :
  Denotes (wholeUnits elapsed millis) k
  := by
  have hk : |k| ≤ 2 ^ 53 := by
    rw [h, abs_mul, abs_of_pos hm] at hbound
    apply le_trans _ hbound
    apply le_mul_of_one_le_right (abs_nonneg k) hm
  have hquotient : Denotes (Float.ofInt elapsed / millis) k := by
    apply Decimal.denotes_div (Decimal.denotes_float_ofInt hbound) hmillis _ hk
    · exact_mod_cast h
    · exact_mod_cast hm.ne'
  apply Decimal.denotes_roundWith hquotient
  intro b
  apply Decimal.Binary.floor_eq

/-! ### Moved dates -/

section

variable {unit : String} {d r : Date} {n : Int} (h : d.IsMoved n r unit) (hyear : 0 ≤ d.year)
  (hyear' : d.year ≤ 9999) (hmoved : 0 ≤ r.year) (hmoved' : r.year ≤ 9999)

include h hyear hyear' hmoved hmoved'

/-- Dates in years of four digits are moved by small amounts only. -/
theorem abs_lt_of_isMoved :
  |n| < 10 ^ 7
  := by
  have hd := Date.number_bounds hyear hyear'
  have hr := Date.number_bounds hmoved hmoved'
  have hmonth := d.isDay.month_le
  have hmonth' := r.isDay.month_le
  rw [abs_lt]
  cases h <;> omega

/-- The start of a date is moved to the start of the moved date. -/
theorem shiftBy?_of_isMoved :
  shiftBy? unit n (.ofDate d) = some (.ofDate r)
  := by
  have hn := abs_lt_of_isMoved h hyear hyear' hmoved hmoved'
  rw [abs_lt] at hn
  cases h with
  | day h => apply DateTime.addDays?_ofDate h
  | week h =>
    apply DateTime.addDays?_ofDate
    omega
  | month h hday =>
    apply DateTime.addMonths?_ofDate _ h hday
    rw [abs_lt]
    omega
  | year h hmonth hday =>
    apply DateTime.addMonths?_ofDate _ _ hday
    · rw [abs_lt]
      omega
    · omega

/-- The difference to the moved date is the amount by which the date was moved. -/
theorem denotes_difference :
  Denotes (difference unit (.ofDate d) (.ofDate r)) n
  := by
  have hn := abs_lt_of_isMoved h hyear hyear' hmoved hmoved'
  have hd := Date.number_bounds hyear hyear'
  have hr := Date.number_bounds hmoved hmoved'
  have helapsed := DateTime.millisSince_ofDate r d
  have hbound : |DateTime.millisSince (.ofDate r) (.ofDate d)| ≤ 2 ^ 53 := by
    rw [helapsed, abs_le]
    omega
  have hexact : Denotes (Float.ofInt n) n := by
    apply Decimal.denotes_float_ofInt
    omega
  cases h with
  | day h =>
    apply denotes_wholeUnits (m := 86400000) (Decimal.denotes_of_any (by decide +kernel))
      (by decide) _ hbound
    rw [helapsed, h]
    ring
  | week h =>
    apply denotes_wholeUnits (m := 604800000) (Decimal.denotes_of_any (by decide +kernel))
      (by decide) _ hbound
    rw [helapsed, h]
    ring
  | month h hday =>
    have hmonths : (r.year - d.year) * 12 + ((r.month : Int) - d.month) = n := by
      omega
    rw [← hmonths] at hexact ⊢
    apply hexact
  | year h hmonth hday =>
    have hyears : r.year - d.year = n := by omega
    rw [← hyears] at hexact ⊢
    apply hexact

end

/-! ### The functions -/

section

variable {unit : String} {d r : Date} {n : Int} {u a e : Value} (draw : Float)
  (hu : Unicode.toLower u.chars = unit.toList) (he : e.toDate? = some (.ofDate d))

include hu he

/-- A date is moved to the text of the moved date. -/
theorem dateAdd_of_shiftBy? (ha : wholeAmount? a.toNumber = some n)
    (hr : shiftBy? unit n (.ofDate d) = some (.ofDate r)) :
  dateAdd ⟨[u, a, e], draw⟩ = .ofChars r.isoText
  := by
  have hunit : lowerText ⟨[u, a, e], draw⟩ 0 = unit := by
    rw [lowerText, ← String.ofList_toList (s := unit), ← hu]
    rfl
  have hdate : Call.date? ⟨[u, a, e], draw⟩ 2 = some (.ofDate d) := he
  have hamount : wholeAmount? (Call.number ⟨[u, a, e], draw⟩ 1) = some n := ha
  rw [dateAdd, hdate, Option.bind_eq_bind, Option.bind_some, hamount, Option.bind_eq_bind,
    Option.bind_some, hunit, hr]
  rfl

theorem dateDiff_of_toDate? {v : Value} (hv : v.toDate? = some (.ofDate r)) :
  dateDiff ⟨[u, e, v], draw⟩ = .number (difference unit (.ofDate d) (.ofDate r))
  := by
  have hunit : lowerText ⟨[u, e, v], draw⟩ 0 = unit := by
    rw [lowerText, ← String.ofList_toList (s := unit), ← hu]
    rfl
  have hstart : Call.date? ⟨[u, e, v], draw⟩ 1 = some (.ofDate d) := he
  have hstop : Call.date? ⟨[u, e, v], draw⟩ 2 = some (.ofDate r) := hv
  rw [dateDiff]
  split
  · next start stop h h' =>
    obtain rfl := Option.some.inj (h.symm.trans hstart)
    obtain rfl := Option.some.inj (h'.symm.trans hstop)
    rw [hunit]
  · next h => cases h _ _ hstart hstop

end

/-- The text of a date in a year of four digits has the date form of the date. -/
theorem toDate?_of_chars {v : Value} {d : Date} (hyear : 0 ≤ d.year) (hyear' : d.year ≤ 9999)
    (hv : v.chars = d.isoText) :
  v.toDate? = some (.ofDate d)
  := by
  rw [Value.toDate?, hv, Calendar.Date.ofText?_isoText hyear hyear']

end Library

/-! ### Formulas -/

namespace Expr

/-- A date in a year of four digits is moved by days and weeks and, up to the day 28, by months and
years.  If the moved date is in a year of four digits too, the difference between the two in the
same unit is the amount. -/
theorem evaluate_dateDiff_dateAdd {unit : String} {d : Date} {n : Int}
    (hunit : unit ∈ ["day", "week"] ∨ unit ∈ ["month", "year"] ∧ d.day ≤ 28)
    (hyear : 0 ≤ d.year) (hyear' : d.year ≤ 9999) (hmoved : 0 ≤ d.movedYear unit n)
    (hmoved' : d.movedYear unit n ≤ 9999) :
  ∃ r : Date, d.IsMoved n r unit
    ∧ ∀ {ctx : Context} {u a e : Expr}, ctx.registry = .builtin
      → Unicode.toLower (u.evaluate ctx).chars = unit.toList
      → Denotes (a.evaluate ctx).toNumber n → (e.evaluate ctx).chars = d.isoText
      → (evaluate ctx (.call "DATEADD" [u, a, e])).chars = r.isoText
        ∧ (evaluate ctx (.call "DATEDIFF" [u, e, .call "DATEADD" [u, a, e]])).IsInt n
  := by
  have hfirst : Calendar.firstYear ≤ d.movedYear unit n := le_trans (by decide) hmoved
  have hlast : d.movedYear unit n ≤ Calendar.lastYear := le_trans hmoved' (by decide)
  obtain ⟨r, hr, hryear⟩ := Date.exists_isMoved hunit hfirst hlast
  rw [← hryear] at hmoved hmoved'
  use r, hr
  intro ctx u a e hregistry hu ha he
  have hn := Library.abs_lt_of_isMoved hr hyear hyear' hmoved hmoved'
  have hamount : Library.wholeAmount? (a.evaluate ctx).toNumber = some n := by
    rw [Library.wholeAmount?_of_denotes ha, if_pos (by omega)]
  have hdate := Library.toDate?_of_chars hyear hyear' he
  have hadd : evaluate ctx (.call "DATEADD" [u, a, e]) = .ofChars r.isoText := by
    rw [evaluate_call hregistry "DATEADD" Library.dateAdd rfl]
    apply Library.dateAdd_of_shiftBy? ctx.draw hu hdate hamount
    apply Library.shiftBy?_of_isMoved hr hyear hyear' hmoved hmoved'
  have hchars := Value.chars_ofChars r.isoText
  constructor
  · rw [hadd, hchars]
  · have hdiff := Library.denotes_difference hr hyear hyear' hmoved hmoved'
    have hmovedDate := Library.toDate?_of_chars hmoved hmoved' hchars
    have hdiff' : evaluate ctx (.call "DATEDIFF" [u, e, .call "DATEADD" [u, a, e]])
        = .number (Library.difference unit (.ofDate d) (.ofDate r)) := by
      rw [evaluate_call hregistry "DATEDIFF" Library.dateDiff rfl, evaluateAll, evaluateAll,
        evaluateAll, evaluateAll, hadd, Library.dateDiff_of_toDate? ctx.draw hu hdate hmovedDate]
    rw [hdiff']
    use hdiff
    apply Decimal.numberText_of_denotes hdiff
    omega

/-- Weeks back into the first of the years, and months into the last month of the last one. -/
theorem evaluate_dateDiff_dateAdd_extremes :
  let ctx : Context := ⟨.builtin, none, 0.0⟩
  let amount : Int → Expr := fun n => .literal (.number (.ofInt n))
  let text : String → Expr := fun s => .literal (.text s)
  let date : Expr := text "2024-02-27"
  (evaluate ctx (.call "DATEDIFF" [text "Week", date,
      .call "DATEADD" [text "Week", amount (-105615), date]])).IsInt (-105615)
    ∧ (evaluate ctx (.call "DATEDIFF" [text "month", date,
      .call "DATEADD" [text "month", amount 95710, date]])).IsInt 95710
  := by
  intro ctx amount text date
  have hamount : ∀ n : Int, |n| ≤ 2 ^ 53 → Denotes ((amount n).evaluate ctx).toNumber n := by
    intro n hn
    apply Decimal.denotes_float_ofInt hn
  let d : Date := ⟨738942, by decide, by decide⟩
  obtain ⟨r, -, hweek⟩ := @evaluate_dateDiff_dateAdd "week" d (-105615)
    (Or.inl (by decide)) (by decide +kernel) (by decide +kernel) (by decide +kernel)
    (by decide +kernel)
  obtain ⟨r', -, hmonth⟩ := @evaluate_dateDiff_dateAdd "month" d 95710
    (Or.inr (by decide +kernel)) (by decide +kernel) (by decide +kernel) (by decide +kernel)
    (by decide +kernel)
  have hregistry : ctx.registry = .builtin := rfl
  constructor
  · apply (hweek hregistry _ (hamount _ (by norm_num)) _).2 <;> decide +kernel
  · apply (hmonth hregistry _ (hamount _ (by norm_num)) _).2 <;> decide +kernel

end Expr

end FieldFormula
