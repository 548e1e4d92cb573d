import FieldFormula.Proofs.Calendar.DateTime

/-!
# Date-times with an offset

A date-time with an offset behind it stands for the instant that many seconds earlier, on the
clock of universal time.  The timestamps and the dates of numbers agree on it, with or without a
colon in the offset and a blank before it.

* `Offset.timestampOffset_text`, `Offset.trailingZone?_text`: what is read of an offset.
* `DateTime.exists_subtractOffset?_eq`: an offset moves the instant of a date-time.
* `exists_ofText?_spellings`: every spelling of a date-time with an offset is the same instant.
-/

namespace FieldFormula.Calendar

open Scanner

/-! ### Offsets -/

namespace Scanner

theorem timestampOffset_eq {s : List Char} (h : ∀ c ∈ s.head?, c ≠ 'Z' ∧ c ≠ 'z') :
  timestampOffset s = offset true true s
  := by
  have hpeek : peek? s = some (s.head?, s) := rfl
  rw [timestampOffset, bind_of_eq_some hpeek]
  generalize s.head? = first at h
  split
  · exact absurd rfl (h _ rfl).1
  · exact absurd rfl (h _ rfl).2
  · rfl

/-- A timestamp has no blank before its offset. -/
theorem timestampOffset_blank (s : List Char) :
  timestampOffset (' ' :: s) = none
  := by
  have hsign : offsetSign true (' ' :: s) = none := rfl
  rw [timestampOffset_eq (by simp), offset, bind_of_eq_none hsign]

end Scanner

/-- An offset from universal time of less than a day. -/
structure Offset where
  negative : Bool
  hours : Nat
  minutes : Nat
  hours_lt : hours < 24
  minutes_lt : minutes < 60

namespace Offset

/-- The number of minutes that local time is ahead. -/
def inMinutes (o : Offset) : Int :=
  if o.negative then -(o.hours * 60 + o.minutes) else o.hours * 60 + o.minutes

/-- A sign, the hours and the minutes, with a colon between them or none. -/
def text (colon : Bool) (o : Offset) : List Char :=
  (if o.negative then '-' else '+')
    :: (padded 2 o.hours ++ ((if colon then [':'] else []) ++ padded 2 o.minutes))

variable (o : Offset)

theorem eq_of_mem_head?_text (colon : Bool) :
  ∀ c ∈ (o.text colon).head?, c = '+' ∨ c = '-'
  := by
  intro c hc
  obtain rfl : (if o.negative then '-' else '+') = c := by simpa [text] using hc
  split
  · exact Or.inr rfl
  · exact Or.inl rfl

theorem head?_text_ne_point (colon : Bool) :
  ∀ c ∈ (o.text colon).head?, c ≠ '.'
  := by
  intro c hc
  obtain rfl | rfl := o.eq_of_mem_head?_text colon c hc <;> decide

theorem offsetSign_sign (minusSign negative : Bool) (s : List Char) :
  offsetSign minusSign ((if negative then '-' else '+') :: s) = some (negative, s)
  := by
  cases negative <;> rfl

/-- An offset with a colon is that of a timestamp, in seconds. -/
theorem offset_text (minusSign : Bool) :
  offset minusSign true (o.text true) = some (o.inMinutes * 60, [])
  := by
  have hhours := o.hours_lt
  have hminutes := o.minutes_lt
  have hguard : (guard (o.minutes < 60) : Scanner Unit) [] = some ((), []) := by
    rw [guard_apply, if_pos hminutes]
  rw [offset, text, bind_of_eq_some (offsetSign_sign _ _ _),
    bind_of_eq_some (number_padded_full le_rfl (by decide) (by omega) _), if_pos rfl,
    if_pos rfl, List.cons_append, List.nil_append, ← List.append_nil (padded 2 o.minutes),
    bind_of_eq_some (char_self ':' _)]
  dsimp only
  rw [bind_of_eq_some (number_padded_full le_rfl (by decide) (by omega) _),
    bind_of_eq_some hguard, pure_apply, inMinutes]
  split <;> ring_nf

theorem offset_text_eq_none (minusSign : Bool) :
  offset minusSign true (o.text false) = none
  := by
  have hhours := o.hours_lt
  obtain ⟨e, r, he, hdigit⟩ := exists_padded_eq_cons 2 o.minutes
  have hcolon : char ':' (padded 2 o.minutes) = none := by
    rw [he, char_cons, if_neg]
    rintro rfl
    contradiction
  rw [offset, text, bind_of_eq_some (offsetSign_sign _ _ _),
    bind_of_eq_some (number_padded_full le_rfl (by decide) (by omega) _)]
  apply bind_of_eq_none hcolon

theorem zone_text (colon : Bool) :
  zone (o.text colon) = some (o.inMinutes, [])
  := by
  have hhours := o.hours_lt
  have hminutes := o.minutes_lt
  have hletter : optional 'Z' (o.text colon) = some (false, o.text colon) := by
    apply optional_of_head?
    rintro c hc rfl
    have hsign := o.eq_of_mem_head?_text colon _ hc
    contradiction
  have hcolon : optional ':' ((if colon then [':'] else []) ++ padded 2 o.minutes)
      = some (colon, padded 2 o.minutes ++ []) := by
    rw [List.append_nil]
    cases colon
    · obtain ⟨e, r, he, hdigit⟩ := exists_padded_eq_cons 2 o.minutes
      apply optional_of_head?
      rw [if_neg (by simp), List.nil_append, he]
      rintro d hd rfl
      obtain rfl : e = ':' := by simpa using hd
      contradiction
    · rfl
  rw [zone, bind_of_eq_some hletter, if_neg (by simp), text,
    bind_of_eq_some (offsetSign_sign _ _ _),
    bind_of_eq_some (number_padded_full le_rfl (by decide) (by omega) _), bind_of_eq_some hcolon,
    bind_of_eq_some (number_padded_full le_rfl (by decide) (by omega) _), pure_apply]
  rw [inMinutes]

theorem timestampOffset_text (colon : Bool) :
  timestampOffset (o.text colon) = if colon then some (o.inMinutes * 60, []) else none
  := by
  rw [timestampOffset_eq]
  · cases colon
    · apply o.offset_text_eq_none
    · apply o.offset_text
  · intro c hc
    obtain rfl | rfl := o.eq_of_mem_head?_text colon c hc <;> decide

/-- An offset behind a time may have blanks before it. -/
theorem trailingZone?_text {blanks : List Char} (hblanks : ∀ c ∈ blanks, Text.isBlank c = true)
    (colon : Bool) :
  trailingZone? (blanks ++ o.text colon) = some (some o.inMinutes)
  := by
  have hstart : Text.trimStart (blanks ++ o.text colon) = o.text colon := by
    rw [Text.trimStart, List.dropWhile_append_of_pos hblanks, ← Text.trimStart]
    apply Text.trimStart_eq_self
    intro c hc
    obtain rfl | rfl := o.eq_of_mem_head?_text colon c hc <;> rfl
  rw [trailingZone?, hstart]
  have hzone := all?_eq_some (o.zone_text colon)
  rw [text] at hzone ⊢
  simp only [hzone, Option.map_some]

theorem isBlank_getLast?_text (colon : Bool) :
  ∀ c ∈ (o.text colon).getLast?, Text.isBlank c = false
  := by
  intro c hc
  have hne := padded_ne_nil 2 o.minutes
  rw [text, List.getLast?_cons_of_ne_nil (by simp [hne]),
    List.getLast?_append_of_ne_nil _ (by simp [hne]), List.getLast?_append_of_ne_nil _ hne] at hc
  apply Decimal.not_isBlank_of_isDigit (isDigit_of_mem_padded (List.mem_of_getLast? hc))

theorem inMinutes_bounds :
  -1440 < o.inMinutes ∧ o.inMinutes < 1440
  := by
  have hhours := o.hours_lt
  have hminutes := o.minutes_lt
  rw [inMinutes]
  split <;> omega

end Offset

/-! ### Universal time -/

namespace DateTime

/-- Offsets are less than a day, so the years around the first and the last one hold what they
make of a date-time. -/
theorem exists_subtractOffset?_eq {dt : DateTime} (hfirst : 1 ≤ dt.date.year)
    (hlast : dt.date.year ≤ 9998) (o : Offset) :
  ∃ r, dt.subtractOffset? (o.inMinutes * 60) = some r
    ∧ r.instant = dt.instant - o.inMinutes * 60
    ∧ r.time.nano = dt.time.nano
  := by
  have hoffset := o.inMinutes_bounds
  have hsecond := dt.time.second_lt
  obtain ⟨hlow, hhigh⟩ := yearStart_yearOf dt.date.number
  have hlow' : yearStart 1 ≤ dt.date.number := (yearStart_mono.monotone hfirst).trans hlow
  have hhigh' : dt.date.number < yearStart 9999 := by
    apply hhigh.trans_le (yearStart_mono.monotone _)
    rw [← Date.year]
    omega
  have hbounds : yearStart 1 = 0 ∧ yearStart 9999 = 3651694 ∧ firstDay < -1
      ∧ 3651695 < lastDay := by
    decide
  have hdays : firstDay ≤ dt.date.number + (dt.time.second + -(o.inMinutes * 60)) / secondsPerDay
      ∧ dt.date.number + (dt.time.second + -(o.inMinutes * 60)) / secondsPerDay ≤ lastDay := by
    rw [secondsPerDay] at *
    omega
  obtain ⟨r, hr, hinstant, hnano⟩ := exists_shift?_eq dt.time.nano_lt hdays.1 hdays.2
  use r, hr
  constructor
  · rw [hinstant, instant]
    omega
  · exact hnano

variable {dt : DateTime} (hnano : dt.time.nano = 0) (o : Offset)

include hnano

theorem addSeconds?_eq_subtractOffset? (n : Int) :
  dt.addSeconds? (-n * 60) = dt.subtractOffset? (n * 60)
  := by
  have hwhole : ¬ nanosPerSecond ≤ dt.time.nano := by
    rw [hnano]
    decide
  rw [addSeconds?, if_neg hwhole, subtractOffset?, neg_mul]

variable (hyear : 0 ≤ dt.date.year)

include hyear

theorem universal?_eq {offset : Int} (hoffset : offset.natAbs < secondsPerDay) :
  Written.universal? ⟨dt.date.year.natAbs, dt.date.month, dt.date.day, dt.time.hour, dt.time.minute,
      dt.time.secondOfMinute, 0, offset⟩
    = dt.subtractOffset? offset
  := by
  have hsecond := dt.time.secondOfMinute_lt
  have hdate : Date.ofParts? dt.date.year.natAbs dt.date.month dt.date.day = some dt.date := by
    rw [Int.natAbs_of_nonneg hyear, Date.ofParts?_parts]
  have hlocal : Written.local? ⟨dt.date.year.natAbs, dt.date.month, dt.date.day, dt.time.hour,
      dt.time.minute, dt.time.secondOfMinute, 0, offset⟩ = some dt := by
    simp only [Written.local?, hdate, if_neg hsecond.ne, Time.ofParts?_parts hnano,
      Option.bind_eq_bind, Option.bind_some, Option.pure_def]
  simp only [Written.universal?, guard, if_pos hoffset, hlocal, Option.pure_def,
    Option.bind_eq_bind, Option.bind_some]

/-! ### Spellings -/

/-- The texts of a date-time with an offset. -/
def spellings (dt : DateTime) (o : Offset) : List (List Char) :=
  [dt.date.yearFirst '-' ++ 'T' :: (dt.time.clock ++ o.text true),
    dt.date.yearFirst '-' ++ ' ' :: (dt.time.clock ++ o.text false),
    dt.date.yearFirst '-' ++ ' ' :: (dt.time.clock ++ ' ' :: o.text true),
    dt.date.yearFirst '/' ++ ' ' :: (dt.time.clock ++ o.text true),
    dt.date.monthFirst 2 ++ ' ' :: (dt.time.clock ++ o.text true)]

/-- A timestamp is read as the instant that its offset makes of it. -/
theorem ofText?_timestamp (hyear' : dt.date.year ≤ 9999) {r : DateTime}
    (hr : dt.subtractOffset? (o.inMinutes * 60) = some r) :
  DateTime.ofText? (dt.date.yearFirst '-' ++ 'T' :: (dt.time.clock ++ o.text true)) = some r
  := by
  have hlast := (Time.readsTime_clock hnano).isBlank_getLast? 'T' (o.isBlank_getLast?_text true)
  have htrim : Text.trim (dt.date.yearFirst '-' ++ 'T' :: (dt.time.clock ++ o.text true))
      = dt.date.yearFirst '-' ++ 'T' :: (dt.time.clock ++ o.text true) := by
    apply trim_triple rfl hlast
  have hfour : dt.date.year.natAbs < 10 ^ 4 := by omega
  have hstamp : timestamp.all? (dt.date.yearFirst '-' ++ 'T' :: (dt.time.clock ++ o.text true))
      = some ⟨dt.date.year.natAbs, dt.date.month, dt.date.day, dt.time.hour, dt.time.minute,
        dt.time.secondOfMinute, 0, o.inMinutes * 60⟩ := by
    apply all?_eq_some
    rw [timestamp_clock hfour (Or.inl rfl) dt.time (o.head?_text_ne_point true),
      o.timestampOffset_text]
    rfl
  have hlt : (o.inMinutes * 60).natAbs < secondsPerDay := by
    have h := o.inMinutes_bounds
    rw [secondsPerDay]
    omega
  rw [DateTime.ofText?, htrim, ofTimestamp?, hstamp, Option.bind_eq_bind, Option.bind_some,
    universal?_eq hnano hyear hlt, hr]
  rfl

end DateTime

/-- Every spelling of a date-time with an offset is read as the same instant, which is that of the
date-time without the offset. -/
theorem exists_ofText?_spellings {dt : DateTime} (hyear : 1 ≤ dt.date.year)
    (hyear' : dt.date.year ≤ 9998) (hnano : dt.time.nano = 0) (o : Offset) :
  ∃ r : DateTime, r.instant = dt.instant - o.inMinutes * 60
    ∧ r.time.nano = 0
    ∧ ∀ s ∈ dt.spellings o, DateTime.ofText? s = some r
  := by
  have hzero : 0 ≤ dt.date.year := by omega
  have hfour : dt.date.year ≤ 9999 := by omega
  have hdigits : dt.date.year.natAbs < 10 ^ 4 := by omega
  obtain ⟨r, hr, hinstant, hwhole⟩ := DateTime.exists_subtractOffset?_eq hyear hyear' o
  have hadd : dt.addSeconds? (-o.inMinutes * 60) = some r := by
    rw [DateTime.addSeconds?_eq_subtractOffset? hnano, hr]
  have hclock := Time.readsTime_clock hnano
  have hend := o.isBlank_getLast?_text
  have hzone : ∀ colon, trailingZone? (o.text colon) = some (some o.inMinutes) :=
    o.trailingZone?_text (List.forall_mem_nil _)
  use r, hinstant, hwhole.trans hnano
  simp only [DateTime.spellings, List.forall_mem_cons, List.not_mem_nil, false_imp_iff,
    forall_const, and_true]
  refine ⟨?_, ?_, ?_, ?_, ?_⟩
  · apply DateTime.ofText?_timestamp hnano o hzero hfour hr
  · rw [DateTime.ofText?_yearFirst hzero hfour hclock (hend false) (hzone false) (Or.inl rfl)]
    · exact hadd
    · rw [timestamp_clock hdigits (Or.inr rfl) dt.time (o.head?_text_ne_point false),
        o.timestampOffset_text]
      rfl
  · have hblank : trailingZone? (' ' :: o.text true) = some (some o.inMinutes) := by
      rw [← List.singleton_append]
      apply o.trailingZone?_text
      simp [Text.isBlank]
    have hlast : ∀ c ∈ (' ' :: o.text true).getLast?, Text.isBlank c = false := by
      have hne : o.text true ≠ [] := by simp [Offset.text]
      rw [List.getLast?_cons_of_ne_nil hne]
      apply hend
    rw [DateTime.ofText?_yearFirst hzero hfour hclock hlast hblank (Or.inl rfl)]
    · exact hadd
    · rw [timestamp_clock hdigits (Or.inr rfl) dt.time (by simp), timestampOffset_blank]
      rfl
  · rw [DateTime.ofText?_yearFirst hzero hfour hclock (hend true) (hzone true) (Or.inr rfl)
      (timestamp_slashes hdigits _)]
    exact hadd
  · rw [DateTime.ofText?_monthFirst hzero hfour hclock (hend true) (hzone true) le_rfl]
    exact hadd

/-- The first midnight of the year one, on a clock that is ahead by a day less a minute, is in the
year zero. -/
theorem exists_ofText?_spellings_newYear :
  let dt : DateTime := ⟨⟨0, by decide, by decide⟩, .midnight⟩
  let o : Offset := ⟨false, 23, 59, by decide, by decide⟩
  dt.spellings o = ["0001-01-01T00:00:00+23:59".toList, "0001-01-01 00:00:00+2359".toList,
      "0001-01-01 00:00:00 +23:59".toList, "0001/01/01 00:00:00+23:59".toList,
      "01/01/0001 00:00:00+23:59".toList]
    ∧ ∃ r : DateTime, r.instant = dt.instant - o.inMinutes * 60
      ∧ r.time.nano = 0
      ∧ ∀ s ∈ dt.spellings o, DateTime.ofText? s = some r
  := by
  intro dt o
  constructor
  · decide +kernel
  · exact exists_ofText?_spellings (by decide) (by decide) rfl o

end FieldFormula.Calendar
