import FieldFormula.Proofs.Calendar.Composition
import FieldFormula.Proofs.Calendar.DateTime

/-!
# Date-times written by a pattern

The runs of a letter in a pattern are written as the parts of a date-time that they stand for.  A
pattern that shows all parts, in an order that can be read, writes a text that is read as the
date-time.

* `DateTime.format_run`, `DateTime.format_runs`: what a run of a letter, and what three runs around
  a separator stand for.
* `DateTime.ofText?_format`: reading undoes writing.
* `Date.ofText?_isoText`: a date is read back from its text.
-/

namespace FieldFormula.Calendar

open Scanner

/-- A run of a letter that is one token. -/
def IsToken (a : Char × Nat) : Prop :=
  isPatternLetter a.1 = true ∧ 0 < a.2 ∧ a.2 ≤ maxRun a.1

instance : DecidablePred IsToken := fun a =>
  inferInstanceAs (Decidable (isPatternLetter a.1 = true ∧ 0 < a.2 ∧ a.2 ≤ maxRun a.1))

/-- Three runs of letters around a separator. -/
def runs (separator : Char) (a b c : Char × Nat) : List Char :=
  List.replicate a.2 a.1 ++ separator :: List.replicate b.2 b.1
    ++ separator :: List.replicate c.2 c.1

namespace DateTime

/-! ### Runs of letters -/

section

variable (dt : DateTime)

/-- A run of a letter is one token if it is no longer than the longest token of the letter. -/
theorem format_run {a : Char × Nat} (ha : IsToken a) {rest : List Char}
    (hrest : ∀ d ∈ rest.head?, d ≠ a.1) :
  dt.format (List.replicate a.2 a.1 ++ rest) = dateToken dt a.1 a.2 ++ dt.format rest
  := by
  obtain ⟨hc, hpos, hn⟩ := ha
  have hseparate : AreSeparate (List.replicate a.2 a.1) rest := by
    intro d hlast hhead
    rw [List.getLast?_replicate, if_neg hpos.ne', Option.some.injEq] at hlast
    exact absurd hlast.symm (hrest d hhead)
  rw [format_append dt hseparate, format_replicate_of_pos dt hc hpos, min_eq_right hn, Nat.sub_self,
    List.replicate_zero, format_nil, List.append_nil]

/-- Three runs around a separator are three tokens around it. -/
theorem format_runs {separator : Char} (hseparator : isPatternLetter separator = false)
    {a b c : Char × Nat} (ha : IsToken a) (hb : IsToken b) (hc : IsToken c) {rest : List Char}
    (hrest : ∀ d ∈ rest.head?, d ≠ c.1) :
  dt.format (runs separator a b c ++ rest)
    = dateToken dt a.1 a.2 ++ separator :: dateToken dt b.1 b.2
      ++ separator :: dateToken dt c.1 c.2 ++ dt.format rest
  := by
  have hends : ∀ {e : Char × Nat}, IsToken e → ∀ s, ∀ d ∈ (separator :: s).head?, d ≠ e.1 := by
    rintro e he s d hd rfl
    obtain rfl : separator = e.1 := by simpa using hd
    simp [he.1] at hseparator
  simp only [runs, List.append_assoc, List.cons_append]
  rw [format_run dt ha (hends ha _), format_of_not_letter dt hseparator,
    format_run dt hb (hends hb _), format_of_not_letter dt hseparator, format_run dt hc hrest]

end

/-! ### Patterns of dates and times -/

variable {dt : DateTime}

theorem dateToken_year (hyear : 0 ≤ dt.date.year) :
  dateToken dt 'y' 4 = padded 4 dt.date.year.natAbs
  := by
  show paddedInt 4 dt.date.year = _
  rw [paddedInt, if_neg (by omega)]

theorem dateToken_month {width : Nat} (hwidth : width = 1 ∨ width = 2) :
  dateToken dt 'M' width = padded width dt.date.month
  := by
  obtain rfl | rfl := hwidth <;> rfl

theorem dateToken_day {width : Nat} (hwidth : width = 1 ∨ width = 2) :
  dateToken dt 'd' width = padded width dt.date.day
  := by
  obtain rfl | rfl := hwidth <;> rfl

theorem dateToken_half (capital : Bool) :
  dateToken dt (if capital then 'T' else 't') 2 = dt.time.half capital
  := by
  cases capital
  · show (if 12 ≤ dt.time.hour then ['p', 'm'] else ['a', 'm']).take 2 = _
    rw [Time.half]
    split <;> rfl
  · show (if 12 ≤ dt.time.hour then ['P', 'M'] else ['A', 'M']).take 2 = _
    rw [Time.half]
    split <;> rfl

/-- A date with the year first and a time on a clock of twenty-four hours. -/
theorem format_yearFirst {separator : Char} (hseparator : isPatternLetter separator = false)
    (hyear : 0 ≤ dt.date.year) :
  dt.format (runs separator ('y', 4) ('M', 2) ('d', 2)
      ++ ' ' :: (runs ':' ('H', 2) ('m', 2) ('s', 2) ++ []))
    = dt.date.yearFirst separator ++ ' ' :: (dt.time.clock ++ [])
  := by
  rw [format_runs dt hseparator (by decide) (by decide) (by decide) (by simp),
    format_of_not_letter dt (by decide),
    format_runs dt (by decide) (by decide) (by decide) (by decide) (by simp), dateToken_year hyear,
    format_nil]
  rfl

/-- A date with the month first and a time on a clock of twelve hours. -/
theorem format_monthFirst {width : Nat} (hwidth : width = 1 ∨ width = 2) (capital : Bool)
    (hyear : 0 ≤ dt.date.year) :
  dt.format (runs '/' ('M', width) ('d', width) ('y', 4)
      ++ ' ' :: (runs ':' ('h', width) ('m', 2) ('s', 2)
        ++ ' ' :: (List.replicate 2 (if capital then 'T' else 't') ++ [])))
    = dt.date.monthFirst width ++ ' ' :: (dt.time.halfClock width capital ++ [])
  := by
  have hdate : IsToken ('M', width) ∧ IsToken ('d', width) ∧ IsToken ('h', width) := by
    obtain rfl | rfl := hwidth <;> decide
  obtain ⟨hmonth, hday, hhour⟩ := hdate
  have hhalf : IsToken (if capital then 'T' else 't', 2) := by
    cases capital <;> decide
  rw [format_runs dt (by decide) hmonth hday (by decide) (by simp),
    format_of_not_letter dt (by decide),
    format_runs dt (by decide) hhour (by decide) (by decide) (by simp),
    format_of_not_letter dt (by decide), format_run dt hhalf (by simp), format_nil,
    dateToken_year hyear, dateToken_month hwidth, dateToken_day hwidth, dateToken_half]
  simp only [Date.monthFirst, Time.halfClock, triple, List.append_assoc, List.cons_append]
  rfl

/-! ### Reading what is written -/

section

variable (hyear : 0 ≤ dt.date.year) (hyear' : dt.date.year ≤ 9999) (hnano : dt.time.nano = 0)

include hyear hyear' hnano

theorem ofText?_format_yearFirst {separator : Char}
    (hseparator : separator = '-' ∨ separator = '/') :
  DateTime.ofText? (dt.format (runs separator ('y', 4) ('M', 2) ('d', 2)
      ++ ' ' :: (runs ':' ('H', 2) ('m', 2) ('s', 2) ++ [])))
    = some dt
  := by
  have hfour : dt.date.year.natAbs < 10 ^ 4 := by omega
  have hstamp : timestamp (dt.date.yearFirst separator ++ ' ' :: (dt.time.clock ++ []))
      = none := by
    obtain rfl | rfl := hseparator
    -- after the time, a timestamp has an offset
    · rw [timestamp_clock hfour (Or.inr rfl) dt.time (by simp)]
      rfl
    · apply timestamp_slashes hfour
  have hletter : isPatternLetter separator = false := by
    obtain rfl | rfl := hseparator <;> rfl
  rw [format_yearFirst hletter hyear,
    ofText?_yearFirst hyear hyear' (Time.readsTime_clock hnano) (by simp) rfl hseparator hstamp]

theorem ofText?_format_monthFirst {width : Nat} (hwidth : width = 1 ∨ width = 2) (capital : Bool) :
  DateTime.ofText? (dt.format (runs '/' ('M', width) ('d', width) ('y', 4)
      ++ ' ' :: (runs ':' ('h', width) ('m', 2) ('s', 2)
        ++ ' ' :: (List.replicate 2 (if capital then 'T' else 't') ++ []))))
    = some dt
  := by
  have hle : width ≤ 2 := by omega
  rw [format_monthFirst hwidth capital hyear,
    ofText?_monthFirst hyear hyear' (Time.readsTime_halfClock hnano hle capital) (by simp) rfl hle]

end

/-- A date-time of whole seconds in a year of four digits is read back from its text, by any of
the patterns that show all of its parts. -/
theorem ofText?_format {dt : DateTime} (hyear : 0 ≤ dt.date.year) (hyear' : dt.date.year ≤ 9999)
    (hnano : dt.time.nano = 0) {pattern : String}
    (hpattern : pattern ∈ ["yyyy-MM-dd HH:mm:ss", "yyyy/MM/dd HH:mm:ss", "MM/dd/yyyy hh:mm:ss tt",
      "M/d/yyyy h:mm:ss TT"]) :
  DateTime.ofText? (dt.format pattern.toList) = some dt
  := by
  simp only [List.mem_cons, List.not_mem_nil, or_false] at hpattern
  obtain rfl | rfl | rfl | rfl := hpattern
  · exact ofText?_format_yearFirst hyear hyear' hnano (Or.inl rfl)
  · exact ofText?_format_yearFirst hyear hyear' hnano (Or.inr rfl)
  · exact ofText?_format_monthFirst hyear hyear' hnano (Or.inr rfl) false
  · exact ofText?_format_monthFirst hyear hyear' hnano (Or.inl rfl) true

/-- Noon on the leap day of the year zero. -/
theorem ofText?_format_noon :
  let dt : DateTime := ⟨⟨-307, by decide, by decide⟩, ⟨43200, 0, by decide, by decide⟩⟩
  dt.format "M/d/yyyy h:mm:ss TT".toList = "2/29/0000 12:00:00 PM".toList
    ∧ DateTime.ofText? (dt.format "M/d/yyyy h:mm:ss TT".toList) = some dt
  := by
  intro dt
  constructor
  · apply (format_monthFirst (Or.inl rfl) true (by decide)).trans
    decide +kernel
  · apply ofText?_format (by decide) (by decide) rfl
    decide

end DateTime

/-! ### Dates as text -/

namespace Scanner

theorem allDigits_padded (width n : Nat) {rest : List Char}
    (hends : ∀ c ∈ rest.head?, ¬ c.isDigit) :
  allDigits 1 (padded width n ++ rest) = some (padded width n, rest)
  := by
  have hpos := List.length_pos_iff.mpr (padded_ne_nil width n)
  rw [allDigits, Decimal.takeWhile_digits hends (fun c hc => isDigit_of_mem_padded hc),
    if_neg (by omega), List.drop_left]

theorem blanks_padded (width n : Nat) (rest : List Char) :
  blanks (padded width n ++ rest) = some ((), padded width n ++ rest)
  := by
  obtain ⟨d, ds, hds, hd⟩ := exists_padded_eq_cons width n
  have hd := Decimal.not_isBlank_of_isDigit hd
  rw [hds, List.cons_append, blanks, Text.trimStart_eq_self (by simpa using hd)]

/-- A year of at most four digits is read if no digit follows it. -/
theorem signedYear_padded {width n : Nat} (hwidth : width ≤ 4) (hn : n < 10 ^ 4) {rest : List Char}
    (hends : ∀ c ∈ rest.head?, ¬ c.isDigit) :
  signedYear (padded width n ++ rest) = some ((n : Int), rest)
  := by
  obtain ⟨d, ds, hds, hd⟩ := exists_padded_eq_cons width n
  have hblank := blanks_padded width n rest
  have hnumber := number_padded (by decide) hwidth hn hends
  rw [hds, List.cons_append] at hblank hnumber ⊢
  have hpeek : peek? (d :: (ds ++ rest)) = some (some d, d :: (ds ++ rest)) := rfl
  have hsign : some d ≠ some '-' ∧ some d ≠ some '+' := by
    constructor <;> (rintro ⟨⟩; contradiction)
  rw [signedYear, bind_of_eq_some hblank, bind_of_eq_some hpeek]
  generalize some d = first at hsign
  split
  · exact absurd rfl hsign.1
  · exact absurd rfl hsign.2
  · rw [bind_of_eq_some hnumber, pure_apply]

theorem signedYear_minus (s : List Char) :
  signedYear ('-' :: s) = (allDigits 1 s).bind fun x => some (-(Decimal.digitsValue x.1 : Int), x.2)
  := rfl

theorem signedYear_plus (s : List Char) :
  signedYear ('+' :: s) = (allDigits 1 s).bind fun x => some ((Decimal.digitsValue x.1 : Int), x.2)
  := rfl

/-- A year is read back from its text. -/
theorem signedYear_yearText (year : Int) :
  signedYear (yearText year) = some (year, [])
  := by
  have hdigits : allDigits 1 (padded 4 year.natAbs ++ []) = some (padded 4 year.natAbs, []) :=
    allDigits_padded 4 year.natAbs (by simp)
  rw [List.append_nil] at hdigits
  rw [yearText]
  split
  · rw [signedYear_minus, hdigits, Option.bind_some, digitsValue_padded]
    congr 2
    omega
  · split
    · rw [signedYear_plus, hdigits, Option.bind_some, digitsValue_padded]
      congr 2
      omega
    · have hyear : signedYear (padded 4 year.natAbs ++ []) = some ((year.natAbs : Int), []) :=
        signedYear_padded (le_refl 4) (by omega) (by simp)
      rw [List.append_nil] at hyear
      rw [hyear]
      congr 2
      omega

end Scanner

theorem yearText_injective :
  Function.Injective yearText
  := by
  intro a b h
  have hread := signedYear_yearText a
  rw [h, signedYear_yearText b] at hread
  exact (Prod.mk.inj (Option.some.inj hread)).1.symm

theorem padded_injective (width : Nat) :
  Function.Injective (padded width)
  := Function.LeftInverse.injective (digitsValue_padded width)

namespace Date

/-- Dates are told apart by their texts. -/
theorem isoText_injective :
  Function.Injective isoText
  := by
  have hwidth : ∀ {n : Nat}, n < 10 ^ 2 → (padded 2 n).length = 2 := by
    intro n hn
    have hlength := length_padded 2 n
    have hle := length_padded_le (by decide) le_rfl hn
    omega
  intro d e h
  -- the texts of month and day have fixed lengths
  have hlengths : (padded 2 d.month).length = (padded 2 e.month).length
      ∧ (padded 2 d.day).length = (padded 2 e.day).length := by
    rw [hwidth d.month_lt, hwidth e.month_lt, hwidth d.day_lt, hwidth e.day_lt]
    exact ⟨rfl, rfl⟩
  obtain ⟨hfront, hday⟩ := List.append_inj' h (by simp [hlengths])
  obtain ⟨hyear, hmonth⟩ := List.append_inj' hfront (by simp [hlengths])
  have hmonth := padded_injective 2 (List.cons.inj hmonth).2
  have hday := padded_injective 2 (List.cons.inj hday).2
  have hd := ofParts?_parts d
  rw [yearText_injective hyear, hmonth, hday, ofParts?_parts e] at hd
  exact (Option.some.inj hd).symm

variable {d : Date} (hyear : 0 ≤ d.year) (hyear' : d.year ≤ 9999)

include hyear hyear'

theorem isoText_eq_yearFirst :
  d.isoText = d.yearFirst '-'
  := by
  rw [isoText, yearText, if_neg (by omega), if_neg (by omega)]
  rfl

/-- A date in a year of four digits is read back from its text, at midnight. -/
theorem ofText?_isoText :
  DateTime.ofText? d.isoText = some (.ofDate d)
  := by
  have hplain := ofPlain?_yearFirst (d := d) (by omega) (Or.inl rfl) []
  rw [List.append_nil] at hplain
  have hread := ofText?_triple_nil rfl (timestamp_date (d := d) (by omega))
  rw [← yearFirst] at hread
  rw [isoText_eq_yearFirst hyear hyear', hread, hplain, ofNumbers?_nil hyear]

end Date

end FieldFormula.Calendar
