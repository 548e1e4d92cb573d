import FieldFormula.Proofs.Calendar.Clock

/-!
# Dates with a time

A date of numbers may be followed by a time of the day and an offset.  The text is read as the
date-time that the offset makes of the date and the time, unless it is a timestamp, which needs an
offset of its own form.

* `ofNumbers?_blank`: the date-time of the parts of a date and the text behind them.
* `timestamp_clock`: a timestamp is a date and a time, and then an offset.
* `DateTime.ofText?_yearFirst`, `DateTime.ofText?_monthFirst`: how such a text is read.
* `DateTime.exists_shift?_eq`: moving a date-time moves its instant by as many seconds.
-/

namespace FieldFormula.Calendar

open Scanner

/-! ### Times behind a date -/

/-- The time behind a date of numbers, and the offset behind it. -/
theorem timeAndZone?_blank {letter : Bool} {s : List Char} {t : Time} (hs : ReadsTime s t)
    {rest : List Char} {zone : Option Int} (hzone : trailingZone? rest = some zone) :
  timeAndZone? letter (' ' :: (s ++ rest)) = some (some s, zone)
  := by
  obtain ⟨c, r, rfl, hc⟩ := hs.head
  have hstart : Text.trimStart (c :: r ++ rest) = c :: r ++ rest := by
    apply Text.trimStart_eq_self
    intro e he
    obtain rfl : c = e := by simpa using he
    apply Decimal.not_isBlank_of_isDigit hc
  have hblank : Text.isBlank ' ' = true := rfl
  rw [timeAndZone?, if_pos (Or.inl hblank), if_pos hblank, hstart,
    hs.isTimeText.splitZone?_append (by simp) hzone, List.reverse_nil, List.nil_append,
    Option.map_some]

/-- The parts of a date and a time behind it, moved by the offset. -/
theorem ofNumbers?_blank {letter : Bool} {d : Date} (hyear : 0 ≤ d.year) {s : List Char} {t : Time}
    (hs : ReadsTime s t) {rest : List Char} {zone : Option Int}
    (hzone : trailingZone? rest = some zone) :
  ofNumbers? letter (d.year.natAbs, d.month, d.day) (' ' :: (s ++ rest))
    = match zone with
      | some minutes => DateTime.addSeconds? ⟨d, t⟩ (-minutes * 60)
      | none => some ⟨d, t⟩
  := by
  have hparts : Date.ofParts? d.year.natAbs d.month d.day = some d := by
    rw [Int.natAbs_of_nonneg hyear]
    apply d.ofParts?_parts
  simp only [ofNumbers?, timeAndZone?_blank hs hzone, hparts, hs.ofText?, Option.bind_eq_bind,
    Option.bind_some]
  cases zone <;> rfl

/-! ### Timestamps -/

section

variable {d : Date}

theorem timestamp_monthFirst {width : Nat} (hwidth : width ≤ 2) (rest : List Char) :
  timestamp (d.monthFirst width ++ rest) = none
  := by
  rw [timestamp, bind_of_eq_none (Date.number_monthFirst hwidth rest)]

variable (hyear : d.year.natAbs < 10 ^ 4)

include hyear

theorem timestamp_slashes (rest : List Char) :
  timestamp (d.yearFirst '/' ++ rest) = none
  := by
  have hhyphen : ∀ s, char '-' ('/' :: s) = none := by
    intro s
    rw [char_cons, if_neg (by decide)]
  simp only [Date.yearFirst, triple, List.append_assoc, List.cons_append]
  rw [timestamp, bind_of_eq_some (number_padded_full le_rfl (by decide) hyear _),
    bind_of_eq_none (hhyphen _)]

/-- A timestamp does not end with its date. -/
theorem timestamp_date :
  timestamp (d.yearFirst '-') = none
  := by
  have hend : any [] = none := rfl
  rw [← List.append_nil (d.yearFirst '-')]
  simp only [Date.yearFirst, triple, List.append_assoc, List.cons_append]
  rw [timestamp, bind_of_eq_some (number_padded_full le_rfl (by decide) hyear _),
    bind_of_eq_some (char_self '-' _),
    bind_of_eq_some (number_padded_full le_rfl (by decide) d.month_lt _),
    bind_of_eq_some (char_self '-' _),
    bind_of_eq_some (number_padded_full le_rfl (by decide) d.day_lt _), bind_of_eq_none hend]

/-- A timestamp is a date and a time, and then an offset. -/
theorem timestamp_clock {separator : Char} (hseparator : separator = 'T' ∨ separator = ' ')
    (t : Time) {rest : List Char} (hpoint : ∀ c ∈ rest.head?, c ≠ '.') :
  timestamp (d.yearFirst '-' ++ separator :: (t.clock ++ rest))
    = (timestampOffset rest).map fun x =>
      (⟨d.year.natAbs, d.month, d.day, t.hour, t.minute, t.secondOfMinute, 0, x.1⟩, x.2)
  := by
  have hhour := t.hour_lt
  have hminute := t.minute_lt
  have hsecond := t.secondOfMinute_lt
  have hguard : ∀ s, (guard (separator == 'T' || separator == 't' || separator == ' ') :
      Scanner Unit) s = some ((), s) := by
    intro s
    rw [guard_apply, if_pos]
    obtain rfl | rfl := hseparator <;> rfl
  simp only [Date.yearFirst, Time.clock, triple, List.append_assoc, List.cons_append]
  rw [timestamp, bind_of_eq_some (number_padded_full le_rfl (by decide) hyear _),
    bind_of_eq_some (char_self '-' _),
    bind_of_eq_some (number_padded_full le_rfl (by decide) d.month_lt _),
    bind_of_eq_some (char_self '-' _),
    bind_of_eq_some (number_padded_full le_rfl (by decide) d.day_lt _),
    bind_of_eq_some (any_cons separator _), bind_of_eq_some (hguard _),
    bind_of_eq_some (number_padded_full le_rfl (by decide) (by omega) _),
    bind_of_eq_some (char_self ':' _),
    bind_of_eq_some (number_padded_full le_rfl (by decide) (by omega) _),
    bind_of_eq_some (char_self ':' _),
    bind_of_eq_some (number_padded_full le_rfl (by decide) (by omega) _),
    bind_of_eq_some (optional_of_head? hpoint), if_neg (by decide),
    bind_of_eq_some (pure_apply 0 rest)]
  dsimp only
  rw [bind_apply]
  cases timestampOffset rest <;> rfl

end

/-! ### Reading dates with a time -/

theorem ReadsTime.isBlank_getLast? {s : List Char} {t : Time} (hs : ReadsTime s t)
    (separator : Char) {rest : List Char} (hrest : ∀ c ∈ rest.getLast?, Text.isBlank c = false) :
  ∀ c ∈ (separator :: (s ++ rest)).getLast?, Text.isBlank c = false
  := by
  obtain ⟨e, r, he, -⟩ := hs.head
  have hne : s ++ rest ≠ [] := by simp [he]
  rw [List.getLast?_cons_of_ne_nil hne]
  apply Text.forall_getLast?_append hs.isTimeText.last hrest

namespace DateTime

variable {d : Date} (hyear : 0 ≤ d.year) (hyear' : d.year ≤ 9999) {s : List Char} {t : Time}
  (hs : ReadsTime s t) {rest : List Char} (hrest : ∀ c ∈ rest.getLast?, Text.isBlank c = false)
  {zone : Option Int} (hzone : trailingZone? rest = some zone)

include hyear hyear' hs hrest hzone

/-- A date with the year first and a time is read with the offset behind them, if the text is not
a timestamp. -/
theorem ofText?_yearFirst {separator : Char} (hseparator : separator = '-' ∨ separator = '/')
    (hstamp : timestamp (d.yearFirst separator ++ ' ' :: (s ++ rest)) = none) :
  DateTime.ofText? (d.yearFirst separator ++ ' ' :: (s ++ rest))
    = match zone with
      | some minutes => DateTime.addSeconds? ⟨d, t⟩ (-minutes * 60)
      | none => some ⟨d, t⟩
  := by
  have hblank : Text.isBlank separator = false := by
    obtain rfl | rfl := hseparator <;> rfl
  have hplain := ofText?_triple hblank (hs.isBlank_getLast? ' ' hrest) hstamp
  rw [← Date.yearFirst] at hplain
  rw [hplain, Date.ofPlain?_yearFirst (by omega) hseparator, ofNumbers?_blank hyear hs hzone]

/-- A date with the month first and a time is read with the offset behind them. -/
theorem ofText?_monthFirst {width : Nat} (hwidth : width ≤ 2) :
  DateTime.ofText? (d.monthFirst width ++ ' ' :: (s ++ rest))
    = match zone with
      | some minutes => DateTime.addSeconds? ⟨d, t⟩ (-minutes * 60)
      | none => some ⟨d, t⟩
  := by
  have hplain := ofText?_triple rfl (hs.isBlank_getLast? ' ' hrest)
    (timestamp_monthFirst (d := d) hwidth (' ' :: (s ++ rest)))
  rw [← Date.monthFirst] at hplain
  rw [hplain, Date.ofPlain?_monthFirst (by omega) hwidth, ofNumbers?_blank hyear hs hzone]

end DateTime

/-! ### Instants -/

namespace DateTime

/-- The number of seconds since the start of day zero. -/
def instant (a : DateTime) : Int :=
  a.date.number * secondsPerDay + a.time.second

/-- Moving a date-time moves its instant by as many seconds. -/
theorem exists_shift?_eq {d : Date} {base n : Int} {nano : Nat} (h : nano < 2 * nanosPerSecond)
    (hlow : firstDay ≤ d.number + (base + n) / secondsPerDay)
    (hhigh : d.number + (base + n) / secondsPerDay ≤ lastDay) :
  ∃ r, shift? d base n nano h = some r
    ∧ r.instant = d.number * secondsPerDay + base + n
    ∧ r.time.nano = nano
  := by
  have hdate : d.addDays? ((base + n) / secondsPerDay)
      = some ⟨d.number + (base + n) / secondsPerDay, hlow, hhigh⟩ := by
    rw [Date.addDays?, Date.ofNumber?_eq_some_iff]
  simp only [shift?, hdate, Option.bind_eq_bind, Option.bind_some, Option.pure_def]
  refine ⟨_, rfl, ?_, rfl⟩
  simp only [instant, secondsPerDay]
  omega

end DateTime

end FieldFormula.Calendar
