import FieldFormula.Proofs.Calendar.Rolling
import FieldFormula.Proofs.Calendar.Writing
import FieldFormula.Proofs.Decimal.Comparison
import FieldFormula.Proofs.Decimal.Reading
import FieldFormula.Proofs.Registry.Lookup

/-!
# Dates that are built and taken apart

The function that builds a date from a year, a month and a day writes it as a text, and the
functions of its parts read the text again.  It takes amounts of less than `10 ^ 15` only.  A month
that is an amount makes a date of a year of four digits only with a year and a day that are amounts
too, and then the parts are those of the date.

* `Library.wholeAmount?_of_denotes`, `Library.abs_lt_of_wholeAmount?`: which integers are amounts.
* `Library.dateSerial_of_lt`: the date of amounts.
* `Library.isInt_numberOfDate`: parts are read off the text of a date.
* `Expr.evaluate_dateSerial`: the parts of the date that a formula builds.
-/

namespace FieldFormula

open Calendar (Date DateTime makeDate?)
open Decimal (Denotes)

/-- The value is an integer: its number form is the integer, and its text form is the digits. -/
structure Value.IsInt (v : Value) (k : Int) : Prop where
  denotes : Denotes v.toNumber k
  toText : v.toText = toString k

namespace Library

/-! ### Whole amounts -/

theorem denotes_amountLimit :
  Denotes 1e15 (10 ^ 15)
  := by
  have hlimit : Denotes 1e15 (10 ^ 15 : Int) := Decimal.denotes_of_any (by decide +kernel)
  exact_mod_cast hlimit

theorem wholeAmount?_of_denotes {x : Float} {k : Int} (hx : Denotes x k) :
  wholeAmount? x = if |k| < 10 ^ 15 then some k else none
  := by
  have hlt : x.abs < 1e15 ↔ |k| < 10 ^ 15 := by
    rw [Decimal.lt_iff (Decimal.denotes_abs hx) denotes_amountLimit]
    exact_mod_cast Iff.rfl
  obtain ⟨b, hform, hvalue⟩ := Decimal.denotes_iff.mp hx
  simp only [wholeAmount?, hform, hlt, Decimal.Binary.truncate_eq hvalue]

/-- Amounts are small. -/
theorem abs_lt_of_wholeAmount? {x : Float} {n : Int} (h : wholeAmount? x = some n) :
  |n| < 10 ^ 15
  := by
  rw [wholeAmount?] at h
  cases hform : Decimal.Binary.ofFloat? x with
  | none =>
    rw [hform] at h
    contradiction
  | some b =>
    simp only [hform, Option.ite_none_right_eq_some, Option.some.injEq] at h
    obtain ⟨hlt, rfl⟩ := h
    have hx : Denotes x b.toRat := Decimal.denotes_iff.mpr ⟨b, hform, rfl⟩
    have hvalue : |b.toRat| < 10 ^ 15 :=
      (Decimal.lt_iff (Decimal.denotes_abs hx) denotes_amountLimit).mp hlt
    exact_mod_cast b.abs_truncate_le.trans_lt hvalue

/-! ### Dates -/

section

variable {y m d : Int} {date : Date} {a b c : Value} (ha : Denotes a.toNumber y)
  (hb : Denotes b.toNumber m) (hc : Denotes c.toNumber d) (draw : Float)

include ha hb hc

/-- The date of whole amounts. -/
theorem dateSerial_of_lt (hy : |y| < 10 ^ 15) (hm : |m| < 10 ^ 15) (hd : |d| < 10 ^ 15) :
  dateSerial ⟨[a, b, c], draw⟩ = dayValue (makeDate? y m d)
  := by
  have hyear : wholeAmount? (Call.number ⟨[a, b, c], draw⟩ 0) = some y := by
    apply (wholeAmount?_of_denotes ha).trans (if_pos hy)
  have hmonth : wholeAmount? (Call.number ⟨[a, b, c], draw⟩ 1) = some m := by
    apply (wholeAmount?_of_denotes hb).trans (if_pos hm)
  have hday : wholeAmount? (Call.number ⟨[a, b, c], draw⟩ 2) = some d := by
    apply (wholeAmount?_of_denotes hc).trans (if_pos hd)
  simp only [dateSerial, hyear, hmonth, hday, Option.bind_eq_bind, Option.bind_some]

end

/-- The parts of a date that is written as a text are read off the text. -/
theorem isInt_numberOfDate {date : Date} (hyear : 0 ≤ date.year) (hyear' : date.year ≤ 9999)
    (draw : Float) {f : DateTime → Int} (hlow : 0 ≤ f (.ofDate date))
    (hhigh : f (.ofDate date) < 10 ^ 4) :
  (numberOfDate f (Call.date? ⟨[dayValue (some date)], draw⟩ 0)).IsInt (f (.ofDate date))
  := by
  have hchars : (dayValue (some date)).chars = date.isoText := by
    rw [dayValue, Value.chars_ofChars]
  have hread : Call.date? ⟨[dayValue (some date)], draw⟩ 0 = some (.ofDate date) := by
    rw [← Calendar.Date.ofText?_isoText hyear hyear', ← hchars]
    rfl
  have hbound : |f (.ofDate date)| ≤ 2 ^ 53 := by
    rw [abs_of_nonneg hlow]
    omega
  have hdenotes := Decimal.denotes_float_ofInt hbound
  rw [hread]
  use hdenotes
  apply Decimal.numberText_of_denotes hdenotes hbound

end Library

/-! ### Formulas -/

namespace Expr

/-- A date that is built from a year, a month and a day, which may be out of range, is read back
from its text, and its year, its month and its day are those of the date.  The month must be an
amount, which is less than `10 ^ 15`; then the year and the day are amounts as well. -/
theorem evaluate_dateSerial {y m d : Int} {date : Date} (hdate : makeDate? y m d = some date)
    (hyear : 0 ≤ date.year) (hyear' : date.year ≤ 9999) :
  DateTime.ofText? date.isoText = some (.ofDate date)
    ∧ ∀ {ctx : Context} {a b c : Expr}, ctx.registry = .builtin
      → Denotes (a.evaluate ctx).toNumber y → Denotes (b.evaluate ctx).toNumber m
      → Denotes (c.evaluate ctx).toNumber d → |m| < 10 ^ 15 → -2 ^ 63 ≤ d → d < 2 ^ 63
      → (evaluate ctx (.call "YEAR" [.call "DATESERIAL" [a, b, c]])).IsInt date.year
        ∧ (evaluate ctx (.call "MONTH" [.call "DATESERIAL" [a, b, c]])).IsInt date.month
        ∧ (evaluate ctx (.call "MONTHDAY" [.call "DATESERIAL" [a, b, c]])).IsInt date.day
  := by
  use Calendar.Date.ofText?_isoText hyear hyear'
  intro ctx a b c hregistry ha hb hc hm hlow hhigh
  obtain ⟨hy, hd⟩ := Calendar.abs_lt_of_makeDate? hm hlow hhigh hdate
  have hmonth := date.month_lt
  have hday := date.day_lt
  have hserial : evaluateAll ctx [.call "DATESERIAL" [a, b, c]]
      = [Library.dayValue (some date)] := by
    rw [evaluateAll, evaluate_call hregistry "DATESERIAL" Library.dateSerial rfl, ← hdate,
      evaluateAll]
    exact congrArg (· :: []) (Library.dateSerial_of_lt ha hb hc ctx.draw hy hm hd)
  refine ⟨?_, ?_, ?_⟩
  · rw [evaluate_call hregistry "YEAR" Library.year rfl, hserial]
    apply Library.isInt_numberOfDate hyear hyear' ctx.draw (f := (·.date.year)) hyear
    exact Int.lt_of_le_of_lt hyear' (by decide)
  · rw [evaluate_call hregistry "MONTH" Library.month rfl, hserial]
    apply Library.isInt_numberOfDate hyear hyear' ctx.draw (f := fun dt => dt.date.month)
      (Int.natCast_nonneg _)
    show (date.month : Int) < 10 ^ 4
    omega
  · rw [evaluate_call hregistry "MONTHDAY" Library.monthDay rfl, hserial]
    apply Library.isInt_numberOfDate hyear hyear' ctx.draw (f := fun dt => dt.date.day)
      (Int.natCast_nonneg _)
    show (date.day : Int) < 10 ^ 4
    omega

/-- The last day before February of the year after 1924. -/
theorem evaluate_dateSerial_rolled :
  let date : Date := ⟨702756, by decide, by decide⟩
  let ctx : Context := ⟨.builtin, none, 0.0⟩
  let serial : Expr := .call "DATESERIAL"
    [.literal (.number (.ofInt 24)), .literal (.number (.ofInt 14)), .literal (.number (.ofInt 0))]
  makeDate? 24 14 0 = some date
    ∧ DateTime.ofText? date.isoText = some (.ofDate date)
    ∧ (evaluate ctx (.call "YEAR" [serial])).IsInt date.year
    ∧ (evaluate ctx (.call "MONTH" [serial])).IsInt date.month
    ∧ (evaluate ctx (.call "MONTHDAY" [serial])).IsInt date.day
  := by
  intro date ctx serial
  have hdate : makeDate? 24 14 0 = some date := by decide +kernel
  have hamount : ∀ k : Int, |k| ≤ 2 ^ 53
      → Denotes (evaluate ctx (.literal (.number (.ofInt k)))).toNumber k := by
    intro k hk
    apply Decimal.denotes_float_ofInt hk
  obtain ⟨hread, hparts⟩ := evaluate_dateSerial hdate (by decide) (by decide)
  have hregistry : ctx.registry = .builtin := rfl
  use hdate, hread
  apply hparts hregistry (hamount 24 (by norm_num)) (hamount 14 (by norm_num))
    (hamount 0 (by norm_num)) <;> norm_num

/-- A year and a month that are no amounts may cancel each other and make a date, but no formula
builds it. -/
theorem evaluate_dateSerial_large :
  let date : Date := ⟨730150, by decide, by decide⟩
  let ctx : Context := ⟨.builtin, none, 0.0⟩
  let year : Value := .number (.ofInt (-10 ^ 15))
  let month : Value := .number (.ofInt 12000000000024002)
  let day : Value := .number (.ofInt 1)
  makeDate? (-10 ^ 15) 12000000000024002 1 = some date
    ∧ date.year = 2000
    ∧ Denotes year.toNumber (-10 ^ 15)
    ∧ Denotes month.toNumber 12000000000024002
    ∧ Denotes day.toNumber 1
    ∧ (evaluate ctx (.call "YEAR" [.call "DATESERIAL"
      [.literal year, .literal month, .literal day]])).toText = "0"
  := by
  intro date ctx year month day
  have hyear : Decimal.Binary.ofFloat? (.ofInt (-10 ^ 15))
      = some ⟨true, 8000000000000000, -3⟩ := by
    decide +kernel
  have hyear' : Decimal.Binary.toRat ⟨true, 8000000000000000, -3⟩
      = (-8000000000000000 : Int) * 2 ^ (-3 : Int) := rfl
  have hmonth : Decimal.Binary.ofFloat? (.ofInt 12000000000024002)
      = some ⟨false, 6000000000012001, 1⟩ := by
    decide +kernel
  have hmonth' : Decimal.Binary.toRat ⟨false, 6000000000012001, 1⟩
      = (6000000000012001 : Int) * 2 ^ (1 : Int) := rfl
  refine ⟨by decide +kernel, by decide +kernel, ?_, ?_, ?_, ?_⟩
  · apply Decimal.denotes_iff.mpr ⟨_, hyear, _⟩
    rw [hyear']
    norm_num
  · apply Decimal.denotes_iff.mpr ⟨_, hmonth, _⟩
    rw [hmonth']
    norm_num
  · exact_mod_cast Decimal.denotes_float_ofInt (k := 1) (by norm_num)
  · have hregistry : ctx.registry = .builtin := rfl
    rw [evaluate_call hregistry "YEAR" Library.year rfl, evaluateAll,
      evaluate_call hregistry "DATESERIAL" Library.dateSerial rfl]
    decide +kernel

end Expr

end FieldFormula
