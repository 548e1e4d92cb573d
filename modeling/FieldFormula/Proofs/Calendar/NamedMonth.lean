import FieldFormula.Proofs.Calendar.TimeShape
import FieldFormula.Proofs.Calendar.Writing
import FieldFormula.Proofs.Text.Search

/-!
# Dates with the name of a month

A date is written with the name of its month, piece by piece of a form, and each piece is read off
the text behind which it stands.  So the date is read back.  A time may follow the date behind a
space, but the text is split at its last space.  A time with a space before the half of the day is
not found there, and then nothing is read at all.

* `Scanner.piece_pieceText`, `ofForm?_formText`: a date is read back from any of the forms.
* `ofNamedMonth?_formText`: no other form is found before the right one.
* `DateTime.ofText?_namedMonth`: which times may follow a date.
-/

namespace FieldFormula.Calendar

open Scanner

/-! ### Written dates -/

namespace Date

/-- The text of a piece of a date. -/
def pieceText (d : Date) : Piece → List Char
  | .monthName => (monthTitles.getD (d.month - 1) "").toList
  | .day => padded 1 d.day
  | .year => padded 1 d.year.natAbs
  | .weekday => (weekdayTitles.getD d.weekday "").toList
  | .shortWeekday => (weekdayTitles.getD d.weekday "").toList.take 3
  | .blank => [' ']
  | .comma => [',']

/-- A date that is written in a form, without leading zeros. -/
def formText (d : Date) (form : List Piece) : List Char :=
  form.flatMap d.pieceText

/-- The parts with the part of a date that a piece shows. -/
def withPiece (d : Date) (p : Parts) : Piece → Parts
  | .monthName => { p with month := d.month }
  | .day => { p with day := d.day }
  | .year => { p with year := d.year }
  | .weekday => { p with weekday := some d.weekday }
  | .shortWeekday => { p with weekday := some d.weekday }
  | .blank => p
  | .comma => p

end Date

/-! ### Names -/

theorem longOrShort_monthTitle {i : Nat} (hi : i < 12) (rest : List Char) :
  longOrShort monthNames ((monthTitles.getD i "").toList ++ rest) = some (i, rest)
  := by
  interval_cases i <;> rfl

theorem longOrShort_weekdayTitle {i : Nat} (hi : i < 7) (rest : List Char) :
  longOrShort weekdayNames ((weekdayTitles.getD i "").toList ++ rest) = some (i, rest)
  := by
  interval_cases i <;> rfl

theorem oneOf_weekdayTitle {i : Nat} (hi : i < 7) (rest : List Char) :
  oneOf (abbreviated weekdayNames) ((weekdayTitles.getD i "").toList.take 3 ++ rest)
    = some (i, rest)
  := by
  interval_cases i <;> rfl

/-! ### Characters of pieces -/

/-- What stands behind a piece must not belong to it: a number ends before a digit, and a run of
blanks before a blank. -/
def EndsPiece (x : Piece) (rest : List Char) : Prop :=
  match x with
  | .day | .year => ∀ c ∈ rest.head?, ¬ c.isDigit
  | .blank => ∀ c ∈ rest.head?, Text.isBlank c = false
  | _ => True

/-- The second piece does not continue the first one. -/
def mayPrecede : Piece → Piece → Bool
  | .day, .day | .day, .year | .year, .day | .year, .year => false
  | .blank, .blank => false
  | _, _ => true

/-- The characters of a piece. -/
def Piece.isChar : Piece → Char → Bool
  | .monthName | .weekday | .shortWeekday => Char.isAlpha
  | .day | .year => Char.isDigit
  | .blank => (· == ' ')
  | .comma => (· == ',')

theorem Piece.not_isDigit {x : Piece} {c : Char} (hc : x.isChar c) (hday : x ≠ .day)
    (hyear : x ≠ .year) :
  ¬ c.isDigit
  := by
  have hletter : c.isAlpha → ¬ c.isDigit := by
    grind [Char.isAlpha, Char.isUpper, Char.isLower, Char.isDigit]
  cases x with
  | day | year => contradiction
  | monthName | weekday | shortWeekday => exact hletter hc
  | blank =>
    obtain rfl : c = ' ' := by simpa [isChar] using hc
    decide
  | comma =>
    obtain rfl : c = ',' := by simpa [isChar] using hc
    decide

theorem Piece.not_isBlank {x : Piece} {c : Char} (hc : x.isChar c) (hblank : x ≠ .blank) :
  Text.isBlank c = false
  := by
  cases x with
  | blank => contradiction
  | day | year => exact Decimal.not_isBlank_of_isDigit hc
  | monthName | weekday | shortWeekday => exact not_isBlank_of_isAlpha hc
  | comma =>
    obtain rfl : c = ',' := by simpa [isChar] using hc
    rfl

theorem getD_mem {titles : List String} {i : Nat} (hi : i < titles.length) :
  titles.getD i "" ∈ titles
  := by
  rw [List.getD_eq_getElem _ _ hi]
  apply List.getElem_mem hi

namespace Date

variable (d : Date)

theorem weekday_lt :
  d.weekday < 7
  := by
  rw [weekday, weekdayOf]
  omega

theorem monthTitle_mem :
  monthTitles.getD (d.month - 1) "" ∈ monthTitles
  := by
  obtain ⟨-, hle, -, -⟩ := d.isDay
  apply getD_mem
  rw [show monthTitles.length = 12 from rfl]
  omega

theorem weekdayTitle_mem :
  weekdayTitles.getD d.weekday "" ∈ weekdayTitles
  := getD_mem d.weekday_lt

theorem isChar_of_mem_pieceText {x : Piece} {c : Char} (hc : c ∈ d.pieceText x) :
  x.isChar c
  := by
  have hmonths : ∀ title ∈ monthTitles, ∀ c ∈ title.toList, c.isAlpha := by
    simp [monthTitles]
  have hweekdays : ∀ title ∈ weekdayTitles, ∀ c ∈ title.toList, c.isAlpha := by
    simp [weekdayTitles]
  cases x with
  | monthName => exact hmonths _ d.monthTitle_mem c hc
  | day | year => exact isDigit_of_mem_padded hc
  | weekday => exact hweekdays _ d.weekdayTitle_mem c hc
  | shortWeekday => exact hweekdays _ d.weekdayTitle_mem c (List.mem_of_mem_take hc)
  | blank | comma => simpa [pieceText, Piece.isChar] using hc

theorem exists_pieceText_eq_cons (x : Piece) :
  ∃ c s, d.pieceText x = c :: s ∧ x.isChar c
  := by
  have hmonths : ∀ title ∈ monthTitles, title.toList ≠ [] := by decide
  have hweekdays : ∀ title ∈ weekdayTitles, title.toList ≠ [] := by decide
  have hne : d.pieceText x ≠ [] := by
    cases x with
    | monthName => exact hmonths _ d.monthTitle_mem
    | day | year => exact padded_ne_nil _ _
    | weekday => exact hweekdays _ d.weekdayTitle_mem
    | shortWeekday => simpa [pieceText] using hweekdays _ d.weekdayTitle_mem
    | blank | comma => exact List.cons_ne_nil _ _
  obtain ⟨c, s, hs⟩ := List.exists_cons_of_ne_nil hne
  have hc : c ∈ d.pieceText x := by
    rw [hs]
    apply List.mem_cons_self
  exact ⟨c, s, hs, d.isChar_of_mem_pieceText hc⟩

theorem endsPiece_pieceText {x y : Piece} (h : mayPrecede x y = true) (rest : List Char) :
  EndsPiece x (d.pieceText y ++ rest)
  := by
  obtain ⟨c, s, hs, hc⟩ := d.exists_pieceText_eq_cons y
  rw [hs]
  cases x with
  | day | year =>
    rintro e ⟨⟩
    apply Piece.not_isDigit hc <;> (rintro rfl; contradiction)
  | blank =>
    rintro e ⟨⟩
    apply Piece.not_isBlank hc
    rintro rfl
    contradiction
  | _ => trivial

end Date

/-! ### Reading a date back -/

theorem ofForm?_eq_none {form : List Piece} {s : List Char}
    (h : form.foldlM piece ⟨0, 0, 0, none⟩ s = none) :
  ofForm? form s = none
  := by
  rw [ofForm?, all?_eq_none h]
  rfl

/-- A form that begins with a month is not read off a text that begins with a day. -/
theorem ofForm?_monthName (d : Date) (rest rest' : List Piece) :
  ofForm? (.monthName :: rest) (d.formText (.day :: rest')) = none
  := by
  obtain ⟨c, s, hs, hc⟩ := exists_padded_eq_cons 1 d.day
  have htext : d.formText (.day :: rest') = c :: (s ++ d.formText rest') := by
    rw [Date.formText, List.flatMap_cons, Date.pieceText, hs]
    rfl
  have hmonth : oneOf (abbreviated monthNames) (c :: (s ++ d.formText rest')) = none := by
    apply oneOf_of_isDigit hc
    simp [abbreviated, monthNames]
  rw [htext]
  apply ofForm?_eq_none
  rw [List.foldlM_cons]
  apply bind_of_eq_none
  apply bind_of_eq_none
  apply bind_of_eq_none hmonth

section

variable {d : Date} (hyear : 0 ≤ d.year) (hyear' : d.year ≤ 9999)

include hyear hyear'

/-- A piece of a date is read off the text. -/
theorem Scanner.piece_pieceText (p : Parts) {x : Piece} {rest : List Char}
    (hrest : EndsPiece x rest) :
  piece p x (d.pieceText x ++ rest) = some (d.withPiece p x, rest)
  := by
  cases x with
  | monthName =>
    obtain ⟨hone, hle, -, -⟩ := d.isDay
    have hmonth := longOrShort_monthTitle (i := d.month - 1) (by omega) rest
    rw [piece, Date.pieceText, bind_of_eq_some hmonth, pure_apply, Nat.sub_add_cancel hone]
    rfl
  | day =>
    have hday : number 1 2 (padded 1 d.day ++ rest) = some (d.day, rest) :=
      number_padded (by decide) (by decide) d.day_lt hrest
    rw [piece, Date.pieceText, bind_of_eq_some (blanks_padded 1 d.day rest),
      bind_of_eq_some hday, pure_apply]
    rfl
  | year =>
    have hread : signedYear (padded 1 d.year.natAbs ++ rest)
        = some ((d.year.natAbs : Int), rest) :=
      signedYear_padded (by decide) (by omega) hrest
    rw [Int.natAbs_of_nonneg hyear] at hread
    rw [piece, Date.pieceText, bind_of_eq_some hread, pure_apply]
    rfl
  | weekday =>
    rw [piece, Date.pieceText, bind_of_eq_some (longOrShort_weekdayTitle d.weekday_lt rest),
      pure_apply]
    rfl
  | shortWeekday =>
    rw [piece, Date.pieceText, bind_of_eq_some (oneOf_weekdayTitle d.weekday_lt rest), pure_apply]
    rfl
  | blank =>
    have hblanks : blanks (' ' :: rest) = some ((), rest) := by
      have hstart : Text.trimStart (' ' :: rest) = Text.trimStart rest := rfl
      rw [blanks, hstart, Text.trimStart_eq_self hrest]
    exact bind_of_eq_some hblanks _
  | comma => exact bind_of_eq_some (char_self ',' rest) _

/-- A form is read off its text. -/
theorem Scanner.foldlM_formText (p : Parts) {form : List Piece} {rest : List Char}
    (hform : form.IsChain (mayPrecede · ·)) (hrest : ∀ x ∈ form.getLast?, EndsPiece x rest) :
  form.foldlM piece p (d.formText form ++ rest) = some (form.foldl d.withPiece p, rest)
  := by
  induction form generalizing p with
  | nil => rfl
  | cons x form ih =>
    have hends : EndsPiece x (d.formText form ++ rest) := by
      cases form with
      | nil => exact hrest x rfl
      | cons y form =>
        rw [Date.formText, List.flatMap_cons, List.append_assoc]
        apply d.endsPiece_pieceText
        exact (List.isChain_cons_cons.mp hform).1
    have hlast : ∀ y ∈ form.getLast?, EndsPiece y rest := by
      intro y hy
      apply hrest
      rw [List.getLast?_cons, Option.mem_def.mp hy]
      rfl
    rw [Date.formText, List.flatMap_cons, ← Date.formText, List.append_assoc, List.foldlM_cons,
      bind_of_eq_some (piece_pieceText hyear hyear' p hends), ih _ hform.tail hlast]
    rfl

/-- A date is read back from any of the forms. -/
theorem ofForm?_formText {form : List Piece} (hform : form ∈ namedForms) :
  ofForm? form (d.formText form) = some d
  := by
  have hchain : form.IsChain (mayPrecede · ·) := by
    revert form
    decide
  have hends : ∀ x ∈ form.getLast?, EndsPiece x [] := by
    intro x _
    cases x <;> simp [EndsPiece]
  have hread := foldlM_formText hyear hyear' ⟨0, 0, 0, none⟩ hchain hends
  rw [List.append_nil] at hread
  have hparts : form.foldl d.withPiece ⟨0, 0, 0, none⟩ = ⟨d.year, d.month, d.day, none⟩
      ∨ form.foldl d.withPiece ⟨0, 0, 0, none⟩ = ⟨d.year, d.month, d.day, some d.weekday⟩ := by
    simp only [namedForms, List.mem_cons, List.not_mem_nil, or_false] at hform
    obtain rfl | rfl | rfl | rfl | rfl | rfl := hform
    · exact Or.inl rfl
    · exact Or.inl rfl
    · exact Or.inl rfl
    · exact Or.inl rfl
    · exact Or.inr rfl
    · exact Or.inr rfl
  rw [ofForm?, all?_eq_some hread]
  obtain hparts | hparts := hparts
  · simp [hparts, d.ofParts?_parts]
  · simp [hparts, d.ofParts?_parts]

/-- A form that goes on with a comma is not read off a text that goes on with a blank. -/
theorem ofForm?_comma (front rest rest' : List Piece) (hfront : front.IsChain (mayPrecede · ·))
    (hends : ∀ x ∈ front.getLast?, mayPrecede x .blank = true) :
  ofForm? (front ++ .comma :: rest) (d.formText (front ++ .blank :: rest')) = none
  := by
  have htext : d.formText (front ++ .blank :: rest')
      = d.formText front ++ (d.pieceText .blank ++ d.formText rest') := by
    rw [Date.formText, List.flatMap_append, List.flatMap_cons]
    rfl
  have hread := foldlM_formText hyear hyear' ⟨0, 0, 0, none⟩ hfront fun x hx =>
    d.endsPiece_pieceText (hends x hx) (d.formText rest')
  apply ofForm?_eq_none
  rw [htext, List.foldlM_append, bind_of_eq_some hread, List.foldlM_cons]
  apply bind_of_eq_none
  rfl

/-- A date is read back from the first three forms, since no form before the right one is found. -/
theorem ofNamedMonth?_formText {form : List Piece} (hform : form ∈ namedForms.take 3) :
  ofNamedMonth? (d.formText form) = some d
  := by
  have hread := ofForm?_formText hyear hyear' (List.mem_of_mem_take hform)
  -- up to the day the first two forms are the same
  have hcomma : ofForm? [.monthName, .blank, .day, .comma, .blank, .year]
      (d.formText [.monthName, .blank, .day, .blank, .year]) = none :=
    ofForm?_comma hyear hyear' [.monthName, .blank, .day] _ _ (by decide) (by decide)
  simp only [namedForms, List.take_succ_cons, List.take_zero, List.mem_cons, List.not_mem_nil,
    or_false] at hform
  rw [ofNamedMonth?, namedForms]
  obtain rfl | rfl | rfl := hform
  · rw [List.findSome?_cons, hread]
  · rw [List.findSome?_cons, hcomma, List.findSome?_cons, hread]
  · rw [List.findSome?_cons, ofForm?_monthName, List.findSome?_cons, ofForm?_monthName,
      List.findSome?_cons, hread]

end

/-! ### A time behind the date -/

namespace Date

variable (d : Date) (form : List Piece)

/-- A date has no mark of a date of numbers or of a time in it. -/
theorem notMem_formText {c : Char} (hc : c ∈ ['-', '/', ':']) :
  c ∉ d.formText form
  := by
  rw [formText, List.mem_flatMap]
  rintro ⟨x, -, hx⟩
  have hchar := d.isChar_of_mem_pieceText hx
  simp only [List.mem_cons, List.not_mem_nil, or_false] at hc
  obtain rfl | rfl | rfl := hc <;> cases x <;> contradiction

end Date

/-- A date begins with no blank, and a time ends with none. -/
theorem Date.trim_formText_append (d : Date) {form : List Piece} (hform : form ∈ namedForms)
    {s : List Char} (hs : s ≠ []) (htrim : Text.trim s = s) :
  Text.trim (d.formText form ++ ' ' :: s) = d.formText form ++ ' ' :: s
  := by
  apply Text.trim_eq_self
  · obtain ⟨x, rest, rfl, hx⟩ : ∃ x rest, form = x :: rest ∧ x ≠ .blank := by
      revert form
      simp [namedForms]
    obtain ⟨c, r, hc, hchar⟩ := d.exists_pieceText_eq_cons x
    rw [formText, List.flatMap_cons, hc]
    rintro e ⟨⟩
    exact Piece.not_isBlank hchar hx
  · rw [List.append_cons, List.getLast?_append_of_ne_nil _ hs, ← htrim]
    exact isBlank_getLast?_trim s

section

variable (d : Date) (form : List Piece) {front gap half : List Char}
  (h : TimeShape front gap half)

include h

/-- The text of a date and a time is no mail date, since no zone stands at the end. -/
theorem ofMailDate?_formText_append :
  ofMailDate? (d.formText form ++ ' ' :: (front ++ (gap ++ half))) = none
  := by
  have hnone : mailDate (d.formText form ++ ' ' :: (front ++ (gap ++ half))) = none := by
    apply mailDate_needs.eq_none
    rintro ⟨u, r, heq, hzone⟩
    have hcolon : ':' ∉ d.formText form ++ [' '] := by
      simp [d.notMem_formText form]
    rw [List.append_cons] at heq
    obtain ⟨y, -, hy⟩ := exists_append_of_notMem hcolon heq
    rw [List.append_cons] at hy
    exact h.not_endsInZone hy hzone
  rw [ofMailDate?, all?_eq_none hnone]
  rfl

/-- The text of a date and a time is no date of numbers either. -/
theorem DateTime.ofText?_formText_append
    (htrim : Text.trim (d.formText form ++ ' ' :: (front ++ (gap ++ half)))
      = d.formText form ++ ' ' :: (front ++ (gap ++ half))) :
  DateTime.ofText? (d.formText form ++ ' ' :: (front ++ (gap ++ half)))
    = ofNamedMonthAndTime? (d.formText form ++ ' ' :: (front ++ (gap ++ half)))
  := by
  have hmark : ∀ {c}, c = '-' ∨ c = '/' →
      c ∉ d.formText form ++ ' ' :: (front ++ (gap ++ half)) := by
    intro c hc hmem
    obtain hmem | hmem := List.mem_append.mp hmem
    · apply d.notMem_formText form _ hmem
      obtain rfl | rfl := hc <;> decide
    · obtain rfl | hmem := List.mem_cons.mp hmem
      · revert hc
        decide
      · exact h.notMem hc hmem
  have hstamp := timestamp_needs.eq_none (hmark (Or.inl rfl))
  have hyearFirst := yearFirst_needs.eq_none (not_or.mpr ⟨hmark (Or.inl rfl), hmark (Or.inr rfl)⟩)
  have hmonthFirst := monthFirst_needs.eq_none (hmark (Or.inr rfl))
  rw [DateTime.ofText?, htrim, ofTimestamp?, all?_eq_none hstamp,
    ofMailDate?_formText_append d form h, ofPlain?, hyearFirst, hmonthFirst]
  rfl

end

/-- A time may follow a date behind a space, if it has no space in it. -/
theorem DateTime.ofText?_namedMonth {d : Date} (hyear : 0 ≤ d.year) (hyear' : d.year ≤ 9999)
    {form : List Piece} (hform : form ∈ namedForms.take 3) {s : List Char} {t : Time}
    (htrim : Text.trim s = s) (ht : Time.ofText? s = some t) :
  DateTime.ofText? (d.formText form ++ ' ' :: s) = if ' ' ∈ s then none else some ⟨d, t⟩
  := by
  have htime : Scanner.time s = some (t, []) := by
    rw [Time.ofText?, htrim] at ht
    exact all?_eq_some_iff.mp ht
  obtain ⟨front, gap, half, rfl, h⟩ := exists_timeShape htime
  have hcolon : ':' ∈ front ++ (gap ++ half) := List.mem_append_left _ h.colon
  have hdate := ofNamedMonth?_formText hyear hyear' hform
  have hall : ofNamedMonth? (d.formText form ++ ' ' :: (front ++ (gap ++ half))) = none :=
    ofNamedMonth?_of_colon (List.mem_append_right _ (List.mem_cons_of_mem _ hcolon))
  rw [DateTime.ofText?_formText_append d form h
    (d.trim_formText_append (List.mem_of_mem_take hform) (List.ne_nil_of_mem hcolon) htrim),
    ofNamedMonthAndTime?, hall]
  dsimp only
  split
  · next hspace =>
    -- the text is split within the time
    obtain ⟨x, r, hx, hr⟩ := Text.exists_last_of_mem hspace
    have hcut : Text.cutLast? [' '] (d.formText form ++ ' ' :: (front ++ (gap ++ half)))
        = some (d.formText form ++ ' ' :: x, r) := by
      rw [hx, ← List.cons_append, ← List.append_assoc]
      exact Text.cutLast?_append _ hr
    rw [hcut, Option.bind_eq_bind, Option.bind_some, h.ofText?_eq_none rfl hx]
    rfl
  · next hspace =>
    rw [Text.cutLast?_append _ hspace, Option.bind_eq_bind, Option.bind_some, ht]
    rw [Option.bind_eq_bind, Option.bind_some, hdate]
    rfl

/-- The last second before midnight, where the half of the day follows without a space. -/
theorem DateTime.ofText?_namedMonth_lastSecond :
  let d : Date := ⟨739010, by decide, by decide⟩
  let form : List Piece := [.day, .blank, .monthName, .blank, .year]
  let s := "11:59:59.123456789pM".toList
  let t : Time := ⟨86399, 123456789, by decide, by decide⟩
  d.formText form ++ ' ' :: s = "5 May 2024 11:59:59.123456789pM".toList
    ∧ Time.ofText? s = some t
    ∧ DateTime.ofText? (d.formText form ++ ' ' :: s) = some ⟨d, t⟩
  := by
  intro d form s t
  have hform : form ∈ namedForms.take 3 := by simp [namedForms, form]
  have ht : Time.ofText? s = some t := by decide +kernel
  have hread := DateTime.ofText?_namedMonth (d := d) (by decide +kernel) (by decide +kernel) hform
    (by decide +kernel) ht
  rw [if_neg (by decide +kernel)] at hread
  exact ⟨by decide +kernel, ht, hread⟩

/-- A time with a space before the half of the day is read, but not behind a date with the name of a
month. -/
theorem DateTime.ofText?_namedMonth_half :
  let d : Date := ⟨738889, by decide, by decide⟩
  let form : List Piece := [.monthName, .blank, .day, .comma, .blank, .year]
  let s := "3:05 PM".toList
  d.formText form ++ ' ' :: s = "January 5, 2024 3:05 PM".toList
    ∧ Text.trim s = s
    ∧ Time.ofText? s = some ⟨54300, 0, by decide, by decide⟩
    ∧ DateTime.ofText? (d.formText form ++ ' ' :: s) = none
  := by
  decide +kernel

end FieldFormula.Calendar
