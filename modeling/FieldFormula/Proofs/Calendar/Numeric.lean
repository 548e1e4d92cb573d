import FieldFormula.Calendar.Reading
import FieldFormula.Proofs.Calendar.Date
import FieldFormula.Proofs.Calendar.Scanner
import FieldFormula.Proofs.Token.Writing

/-!
# Dates of numbers

Dates and times of the day are written as three numbers around a separator.  A date of numbers at
the front of a text is read as the date, whatever follows it, since the text is no mail date, and
its first number tells which of the three is the year.

* `Scanner.mailDate_eq_none`: no mail date begins with three characters without a blank.
* `Date.ofPlain?_yearFirst`, `Date.ofPlain?_monthFirst`: a date is read off the front of a text.
* `Date.ofNumbers?_nil`: the parts of a date alone are the date.
* `ofText?_triple`: a text that begins with three numbers is no mail date.
-/

namespace FieldFormula

theorem Text.trimStart_eq_self {s : List Char} (hfirst : ∀ c ∈ s.head?, isBlank c = false) :
  trimStart s = s
  := by
  cases s with
  | nil => rfl
  | cons c s => rw [trimStart, List.dropWhile_cons_of_neg (by simp [hfirst c rfl])]

theorem Text.trim_eq_self {s : List Char} (hfirst : ∀ c ∈ s.head?, isBlank c = false)
    (hlast : ∀ c ∈ s.getLast?, isBlank c = false) :
  trim s = s
  := by
  rw [trim, trimStart_eq_self hfirst]
  rw [← List.head?_reverse] at hlast
  have hend : trimStart s.reverse = s.reverse := trimStart_eq_self hlast
  rw [trimEnd, ← trimStart, hend, List.reverse_reverse]

/-- A text ends as its last part that is not empty. -/
theorem Text.forall_getLast?_append {P : Char → Prop} {s t : List Char}
    (hs : ∀ c ∈ s.getLast?, P c) (ht : ∀ c ∈ t.getLast?, P c) :
  ∀ c ∈ (s ++ t).getLast?, P c
  := by
  intro c hc
  rw [List.getLast?_append, Option.mem_def, Option.or_eq_some_iff] at hc
  obtain hlast | ⟨-, hlast⟩ := hc
  · apply ht c hlast
  · apply hs c hlast

namespace Calendar

open Decimal Scanner

/-! ### Dates of mail headers -/

namespace Scanner

theorem toLower_of_isDigit {c : Char} (hc : c.isDigit) :
  c.toLower = c
  := by
  apply Char.toLower_eq_of_not_isUpper
  grind [Char.isUpper, Char.isDigit]

/-- No name is taken off a text that begins with a digit. -/
theorem oneOf_of_isDigit {names : List String} {c : Char} (hc : c.isDigit)
    (hnames : ∀ name ∈ names, ∃ d r, name.toList = d :: r ∧ ¬ d.isDigit) (s : List Char) :
  oneOf names (c :: s) = none
  := by
  apply oneOf_eq_none
  intro name hname
  obtain ⟨d, r, hd, hletter⟩ := hnames name hname
  use d, r, hd
  rw [toLower_of_isDigit hc]
  rintro rfl
  contradiction

theorem mailWeekday_of_isDigit {c : Char} (hc : c.isDigit) (s : List Char) :
  mailWeekday (c :: s) = some (none, c :: s)
  := by
  have hnone : oneOf (abbreviated weekdayNames) (c :: s) = none := by
    apply oneOf_of_isDigit hc
    simp [abbreviated, weekdayNames]
  rw [mailWeekday, hnone]

/-- A blank follows the day of a mail date, so three characters without a blank begin none. -/
theorem mailDate_eq_none {c : Char} {s : List Char} (hc : c.isDigit)
    (hblank : ∀ d ∈ (c :: s).take 3, Text.isBlank d = false) :
  mailDate (c :: s) = none
  := by
  have hstart : blanks (c :: s) = some ((), c :: s) := by
    have hc := hblank c List.mem_cons_self
    rw [blanks, Text.trimStart, List.dropWhile_cons_of_neg (by simp [hc])]
  rw [mailDate, bind_of_eq_some hstart, bind_of_eq_some (mailWeekday_of_isDigit hc s),
    bind_of_eq_some hstart]
  cases hnumber : number 1 2 (c :: s) with
  | none => apply bind_of_eq_none hnumber
  | some x =>
    obtain ⟨n, r⟩ := x
    obtain ⟨k, hk, rfl⟩ := exists_drop_eq_of_number hnumber
    have hend : someBlanks ((c :: s).drop k) = none := by
      cases hdrop : (c :: s).drop k with
      | nil => rfl
      | cons d r =>
        have hget : ((c :: s).take 3)[k]? = some d := by
          rw [List.getElem?_take_of_lt (by omega), ← List.head?_drop, hdrop, List.head?_cons]
        have hd := hblank d (List.mem_of_getElem? hget)
        rw [someBlanks, if_neg (by simp [hd])]
    rw [bind_of_eq_some hnumber, bind_of_eq_none hend]

end Scanner

/-! ### Three numbers -/

/-- Three numbers around a separator, each with at least as many digits as its width. -/
def triple (separator : Char) (a b c : Nat × Nat) : List Char :=
  padded a.1 a.2 ++ separator :: padded b.1 b.2 ++ separator :: padded c.1 c.2

theorem isDigit_or_eq_of_mem_triple {separator e : Char} {a b c : Nat × Nat}
    (he : e ∈ triple separator a b c) :
  e.isDigit ∨ e = separator
  := by
  simp only [triple, List.mem_append, List.mem_cons] at he
  obtain (ha | rfl | hb) | rfl | hc := he
  · exact Or.inl (isDigit_of_mem_padded ha)
  · exact Or.inr rfl
  · exact Or.inl (isDigit_of_mem_padded hb)
  · exact Or.inr rfl
  · exact Or.inl (isDigit_of_mem_padded hc)

/-- Three numbers begin with a digit and are five characters at least. -/
theorem exists_triple_eq_cons (separator : Char) (a b c : Nat × Nat) :
  ∃ d ds, triple separator a b c = d :: ds ∧ d.isDigit ∧ 2 ≤ ds.length
  := by
  obtain ⟨d, ds, hds, hd⟩ := exists_padded_eq_cons a.1 a.2
  use d, ds ++ separator :: padded b.1 b.2 ++ separator :: padded c.1 c.2
  refine ⟨?_, hd, ?_⟩
  · rw [triple, hds, List.cons_append, List.cons_append]
  · simp only [List.length_append, List.length_cons]
    omega

/-! ### Dates -/

namespace Scanner

theorem isoSeparator_cons {separator : Char} (h : separator = '-' ∨ separator = '/')
    (s : List Char) :
  isoSeparator (separator :: s) = some ((), s)
  := by
  rw [isoSeparator, bind_of_eq_some (any_cons separator s), guard_apply]
  simp [h]

end Scanner

namespace Date

/-- A date with the year first. -/
def yearFirst (separator : Char) (d : Date) : List Char :=
  triple separator (4, d.year.natAbs) (2, d.month) (2, d.day)

/-- A date with the month first, whose month and day have at least `width` digits. -/
def monthFirst (width : Nat) (d : Date) : List Char :=
  triple '/' (width, d.month) (width, d.day) (4, d.year.natAbs)

variable {d : Date} (hyear : d.year.natAbs < 10 ^ 4)

include hyear

theorem yearFirst_apply {separator : Char} (hseparator : separator = '-' ∨ separator = '/')
    (rest : List Char) :
  Scanner.yearFirst (d.yearFirst separator ++ rest) = some ((d.year.natAbs, d.month, d.day), rest)
  := by
  simp only [yearFirst, triple, List.append_assoc, List.cons_append]
  rw [Scanner.yearFirst, bind_of_eq_some (number_padded_full le_rfl (by decide) hyear _),
    bind_of_eq_some (isoSeparator_cons hseparator _),
    bind_of_eq_some (number_padded_full (by decide) (by decide) d.month_lt _),
    bind_of_eq_some (isoSeparator_cons hseparator _),
    bind_of_eq_some (number_padded_full (by decide) (by decide) d.day_lt _), pure_apply]

theorem monthFirst_apply {width : Nat} (hwidth : width ≤ 2) (rest : List Char) :
  Scanner.monthFirst (d.monthFirst width ++ rest) = some ((d.year.natAbs, d.month, d.day), rest)
  := by
  have hends : ∀ s, ∀ c ∈ ('/' :: s).head?, ¬ c.isDigit := by simp
  simp only [monthFirst, triple, List.append_assoc, List.cons_append]
  rw [Scanner.monthFirst,
    bind_of_eq_some (number_padded (by decide) hwidth d.month_lt (hends _)),
    bind_of_eq_some (char_self '/' _),
    bind_of_eq_some (number_padded (by decide) hwidth d.day_lt (hends _)),
    bind_of_eq_some (char_self '/' _),
    bind_of_eq_some (number_padded_full le_rfl (by decide) hyear _), pure_apply]

omit hyear in
/-- No year is as short as a month. -/
theorem number_monthFirst {width : Nat} (hwidth : width ≤ 2) (rest : List Char) :
  Scanner.number 4 4 (d.monthFirst width ++ rest) = none
  := by
  simp only [monthFirst, triple, List.append_assoc, List.cons_append]
  apply number_padded_eq_none (by decide) hwidth d.month_lt (by decide)
  simp

theorem ofPlain?_yearFirst {separator : Char} (hseparator : separator = '-' ∨ separator = '/')
    (rest : List Char) :
  ofPlain? (d.yearFirst separator ++ rest) = ofNumbers? true (d.year.natAbs, d.month, d.day) rest
  := by
  rw [ofPlain?, yearFirst_apply hyear hseparator]

theorem ofPlain?_monthFirst {width : Nat} (hwidth : width ≤ 2) (rest : List Char) :
  ofPlain? (d.monthFirst width ++ rest) = ofNumbers? false (d.year.natAbs, d.month, d.day) rest
  := by
  have hnone : Scanner.yearFirst (d.monthFirst width ++ rest) = none := by
    rw [Scanner.yearFirst, bind_of_eq_none (number_monthFirst hwidth rest)]
  rw [ofPlain?, hnone]
  simp only [monthFirst_apply hyear hwidth]

omit hyear in
/-- The parts of a date alone are the date, at midnight. -/
theorem ofNumbers?_nil (hnonneg : 0 ≤ d.year) (letter : Bool) :
  ofNumbers? letter (d.year.natAbs, d.month, d.day) [] = some (.ofDate d)
  := by
  have hparts : ofParts? d.year.natAbs d.month d.day = some d := by
    rw [Int.natAbs_of_nonneg hnonneg, ofParts?_parts]
  simp only [ofNumbers?, timeAndZone?, hparts, Option.bind_eq_bind, Option.bind_some]
  rfl

end Date

/-! ### Texts that begin with three numbers -/

section

variable {separator : Char} (hseparator : Text.isBlank separator = false) {a b c : Nat × Nat}

include hseparator

theorem isBlank_of_mem_triple :
  ∀ e ∈ triple separator a b c, Text.isBlank e = false
  := by
  intro e he
  obtain hdigit | rfl := isDigit_or_eq_of_mem_triple he
  · apply Decimal.not_isBlank_of_isDigit hdigit
  · apply hseparator

variable {rest : List Char} (hlast : ∀ e ∈ rest.getLast?, Text.isBlank e = false)

include hlast

theorem trim_triple :
  Text.trim (triple separator a b c ++ rest) = triple separator a b c ++ rest
  := by
  apply Text.trim_eq_self
  · obtain ⟨d, ds, hds, hd, -⟩ := exists_triple_eq_cons separator a b c
    intro e he
    obtain rfl : d = e := by simpa [hds] using he
    apply Decimal.not_isBlank_of_isDigit hd
  · apply Text.forall_getLast?_append _ hlast
    intro e he
    apply isBlank_of_mem_triple hseparator e (List.mem_of_getLast? he)

/-- Three numbers at the front of a text keep it from being the date of a mail header. -/
theorem ofText?_triple (hstamp : timestamp (triple separator a b c ++ rest) = none) :
  DateTime.ofText? (triple separator a b c ++ rest) = ofPlain? (triple separator a b c ++ rest)
  := by
  have hmail : mailDate (triple separator a b c ++ rest) = none := by
    obtain ⟨d, ds, hds, hd, hlength⟩ := exists_triple_eq_cons separator a b c
    have htake : ((d :: ds) ++ rest).take 3 = (d :: ds).take 3 := by
      apply List.take_append_of_le_length
      rw [List.length_cons]
      omega
    rw [hds, List.cons_append]
    apply mailDate_eq_none hd
    rw [← List.cons_append, htake, ← hds]
    intro e he
    apply isBlank_of_mem_triple hseparator e (List.mem_of_mem_take he)
  rw [DateTime.ofText?, trim_triple hseparator hlast, ofTimestamp?, all?_eq_none hstamp,
    ofMailDate?, all?_eq_none hmail]
  rfl

omit hlast in
/-- Three numbers that are not the front of a timestamp are read as a date of numbers. -/
theorem ofText?_triple_nil (hstamp : timestamp (triple separator a b c) = none) :
  DateTime.ofText? (triple separator a b c) = ofPlain? (triple separator a b c)
  := by
  rw [← List.append_nil (triple separator a b c)] at hstamp ⊢
  apply ofText?_triple hseparator (by simp) hstamp

end

end Calendar

end FieldFormula
