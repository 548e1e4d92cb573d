import FieldFormula.Calendar.Pattern
import FieldFormula.Proofs.Calendar.Numeric

/-!
# Times of the day

A time is written on a clock of twenty-four or of twelve hours.  None of its characters begins an
offset, so a text that holds a time and an offset is split between them, and the time is read as
what was written.

* `IsTimeText.splitZone?_append`: a text is split where its time ends.
* `Scanner.time_triple`: what is read of three numbers and the half of the day.
* `Time.readsTime_clock`, `Time.readsTime_halfClock`: both clocks are read as the time.
-/

namespace FieldFormula.Calendar

open Scanner

/-! ### Where a time ends -/

theorem Scanner.zone_eq_none {c : Char} (hletter : c ≠ 'Z') (hplus : c ≠ '+') (hminus : c ≠ '-')
    (s : List Char) :
  zone (c :: s) = none
  := by
  have hsign : offsetSign false (c :: s) = none := by
    rw [offsetSign, bind_of_eq_some (any_cons c s)]
    split
    · contradiction
    · contradiction
    · rfl
    · rfl
  have hother : optional 'Z' (c :: s) = some (false, c :: s) := by
    apply optional_of_head?
    simpa using hletter
  rw [zone, bind_of_eq_some hother]
  apply bind_of_eq_none hsign

/-- The characters of a time, which begin no offset, up to its last one, which is not blank. -/
structure IsTimeText (s : List Char) : Prop where
  inside : ∀ c ∈ s, c ≠ '\n' ∧ c ≠ 'Z' ∧ c ≠ '+' ∧ c ≠ '-'
  last : ∀ c ∈ s.getLast?, Text.isBlank c = false

/-- No offset begins within a time. -/
theorem IsTimeText.trailingZone?_append {s : List Char} (hs : IsTimeText s) (hne : s ≠ [])
    (rest : List Char) :
  trailingZone? (s ++ rest) = none
  := by
  have hnonempty : s.dropWhile Text.isBlank ≠ [] := by
    intro hnil
    have hlast := List.getLast?_eq_some_getLast hne
    have hblank := List.dropWhile_eq_nil_iff.mp hnil _ (List.getLast_mem hne)
    rw [hs.last _ hlast] at hblank
    contradiction
  obtain ⟨c, r, hc⟩ := List.exists_cons_of_ne_nil hnonempty
  have hstart : Text.trimStart (s ++ rest) = c :: (r ++ rest) := by
    rw [Text.trimStart, List.dropWhile_append, hc]
    rfl
  have hmem : c ∈ s := by
    apply (List.dropWhile_sublist Text.isBlank).mem
    rw [hc]
    apply List.mem_cons_self
  obtain ⟨-, hletter, hplus, hminus⟩ := hs.inside c hmem
  rw [trailingZone?, hstart]
  simp only [all?_eq_none (zone_eq_none hletter hplus hminus _), Option.map_none]

theorem IsTimeText.of_cons {c : Char} {s : List Char} (hs : IsTimeText (c :: s)) :
  IsTimeText s
  := by
  constructor
  · intro d hd
    apply hs.inside d (List.mem_cons_of_mem c hd)
  · intro d hd
    apply hs.last
    rw [List.getLast?_cons, hd]
    rfl

/-- A text is split where its time ends. -/
theorem IsTimeText.splitZone?_append {s : List Char} (hs : IsTimeText s) (hne : s ≠ [])
    {rest : List Char} {zone : Option Int} (hzone : trailingZone? rest = some zone)
    (taken : List Char) :
  splitZone? taken (s ++ rest) = some (taken.reverse ++ s, zone)
  := by
  induction s generalizing taken with
  | nil => contradiction
  | cons c s ih =>
    have hline := (hs.inside c List.mem_cons_self).1
    rw [List.cons_append, splitZone?, if_neg hline]
    by_cases hnil : s = []
    · subst hnil
      simp [hzone]
    · rw [hs.of_cons.trailingZone?_append hnil rest]
      simp only [ih hs.of_cons hnil, List.reverse_cons, List.append_assoc, List.singleton_append]

/-! ### Reading a time -/

theorem Scanner.secondsAndFraction_apply {second : Nat} {rest : List Char}
    (hsecond : second < 10 ^ 2) (hpoint : ∀ c ∈ rest.head?, c ≠ '.') :
  secondsAndFraction (':' :: (padded 2 second ++ rest)) = some ((second, 0), rest)
  := by
  rw [secondsAndFraction, bind_of_eq_some (optional_self ':' _), if_pos rfl,
    bind_of_eq_some (number_padded_full le_rfl (by decide) hsecond _),
    bind_of_eq_some (optional_of_head? hpoint), if_neg (by decide), pure_apply]

/-- Three numbers are the parts of a time, where the half of the day tells which of two hours the
first one is. -/
theorem Scanner.time_triple {width hour minute second : Nat} {rest : List Char} {half : Option Bool}
    (hwidth : width ≤ 2) (hhour : hour < 10 ^ 2) (hminute : minute < 10 ^ 2)
    (hsecond : second < 10 ^ 2) (hpoint : ∀ c ∈ rest.head?, c ≠ '.')
    (hhalf : halfDay (Text.trimStart rest) = some (half, [])) :
  time (triple ':' (width, hour) (2, minute) (2, second) ++ rest)
    = match half with
      | none => (Time.ofParts? hour minute second 0).map (·, [])
      | some afternoon =>
        if 1 ≤ hour ∧ hour ≤ 12 then
          (Time.ofParts? (if afternoon then hour % 12 + 12 else hour % 12) minute second 0).map
            (·, [])
        else none
  := by
  have hends : ∀ s, ∀ c ∈ (':' :: s).head?, ¬ c.isDigit := by simp
  have hblanks : blanks rest = some ((), Text.trimStart rest) := rfl
  simp only [triple, List.append_assoc, List.cons_append]
  rw [time, bind_of_eq_some (number_padded (by decide) hwidth hhour (hends _)),
    bind_of_eq_some (char_self ':' _),
    bind_of_eq_some (number_padded_full le_rfl (by decide) hminute _),
    bind_of_eq_some (secondsAndFraction_apply hsecond hpoint)]
  dsimp only
  rw [bind_of_eq_some hblanks, bind_of_eq_some hhalf]
  cases half with
  | none => rfl
  | some afternoon =>
    dsimp only
    rw [bind_apply, guard_apply]
    split <;> simp_all

namespace Time

/-- A time on a clock of twenty-four hours. -/
def clock (t : Time) : List Char :=
  triple ':' (2, t.hour) (2, t.minute) (2, t.secondOfMinute)

/-- The half of the day that holds a time, in capitals or small letters. -/
def half (capital : Bool) (t : Time) : List Char :=
  if capital then
    if 12 ≤ t.hour then ['P', 'M'] else ['A', 'M']
  else
    if 12 ≤ t.hour then ['p', 'm'] else ['a', 'm']

/-- A time on a clock of twelve hours, whose hour has at least `width` digits. -/
def halfClock (width : Nat) (capital : Bool) (t : Time) : List Char :=
  triple ':' (width, hour12 t) (2, t.minute) (2, t.secondOfMinute) ++ ' ' :: t.half capital

theorem hour_lt (t : Time) :
  t.hour < 24
  := by
  have h := t.second_lt
  rw [secondsPerDay] at h
  rw [hour]
  omega

theorem minute_lt (t : Time) :
  t.minute < 60
  := Nat.mod_lt _ (by decide)

theorem secondOfMinute_lt (t : Time) :
  t.secondOfMinute < 60
  := Nat.mod_lt _ (by decide)

theorem ext_parts {a b : Time} (hsecond : a.second = b.second) (hnano : a.nano = b.nano) :
  a = b
  := by
  cases a
  cases b
  simp_all

/-- A time has the parts that it is made of. -/
theorem ofParts?_parts {t : Time} (hnano : t.nano = 0) :
  ofParts? t.hour t.minute t.secondOfMinute 0 = some t
  := by
  have hvalid : t.hour < 24 ∧ t.minute < 60 ∧ t.secondOfMinute < 60 ∧ 0 < 2 * nanosPerSecond
      ∧ (nanosPerSecond ≤ 0 → t.secondOfMinute = 59) :=
    ⟨t.hour_lt, t.minute_lt, t.secondOfMinute_lt, by decide, fun h => absurd h (by decide)⟩
  rw [ofParts?, dif_pos hvalid, Option.some.injEq]
  apply ext_parts
  · simp only [hour, minute, secondOfMinute]
    omega
  · exact hnano.symm

theorem hour12_bounds (t : Time) :
  1 ≤ hour12 t ∧ hour12 t ≤ 12
  := by
  rw [hour12]
  omega

/-- The hour on a clock of twelve hours and the half of the day determine the hour. -/
theorem hour12_eq (t : Time) :
  (if decide (12 ≤ t.hour) then hour12 t % 12 + 12 else hour12 t % 12) = t.hour
  := by
  have hhour := t.hour_lt
  simp only [decide_eq_true_eq, hour12]
  split <;> omega

theorem halfDay_half (capital : Bool) (t : Time) :
  halfDay (t.half capital) = some (some (decide (12 ≤ t.hour)), [])
  := by
  rw [half]
  by_cases hnoon : 12 ≤ t.hour
  · simp only [hnoon]
    cases capital <;> decide
  · simp only [hnoon]
    cases capital <;> decide

end Time

/-! ### Clocks -/

theorem isTimeText_triple {a b c : Nat × Nat} {rest : List Char} (hrest : IsTimeText rest) :
  IsTimeText (triple ':' a b c ++ rest)
  := by
  constructor
  · intro e he
    obtain hfront | he := List.mem_append.mp he
    · obtain hdigit | rfl := isDigit_or_eq_of_mem_triple hfront
      · and_intros <;> (rintro rfl; contradiction)
      · decide
    · apply hrest.inside e he
  · apply Text.forall_getLast?_append _ hrest.last
    intro e he
    apply isBlank_of_mem_triple rfl e (List.mem_of_getLast? he)

/-- A text is read as a time of the day, and no offset behind it begins earlier. -/
structure ReadsTime (s : List Char) (t : Time) : Prop where
  isTimeText : IsTimeText s
  head : ∃ c r, s = c :: r ∧ c.isDigit
  ofText? : Time.ofText? s = some t

theorem readsTime_triple {a b c : Nat × Nat} {rest : List Char} {t : Time}
    (hrest : IsTimeText rest) (htime : time (triple ':' a b c ++ rest) = some (t, [])) :
  ReadsTime (triple ':' a b c ++ rest) t
  := by
  constructor
  · apply isTimeText_triple hrest
  · obtain ⟨d, ds, hds, hd, -⟩ := exists_triple_eq_cons ':' a b c
    use d, ds ++ rest
    rw [hds, List.cons_append]
    exact ⟨rfl, hd⟩
  · rw [Time.ofText?, trim_triple rfl hrest.last, all?_eq_some htime]

namespace Time

/-- A time on a clock of twenty-four hours is read as the time. -/
theorem readsTime_clock {t : Time} (hnano : t.nano = 0) :
  ReadsTime t.clock t
  := by
  have hhour := t.hour_lt
  have hminute := t.minute_lt
  have hsecond := t.secondOfMinute_lt
  rw [clock, ← List.append_nil (triple _ _ _ _)]
  apply readsTime_triple ⟨by simp, by simp⟩
  have hhalf : halfDay (Text.trimStart []) = some (none, []) := by decide
  rw [time_triple le_rfl (by omega) (by omega) (by omega) (by simp) hhalf]
  simp only [ofParts?_parts hnano, Option.map_some]

theorem isTimeText_half (capital : Bool) (t : Time) :
  IsTimeText (' ' :: t.half capital)
  := by
  rw [half]
  constructor
  · split <;> split <;> simp
  · split <;> split <;> simp <;> decide

theorem trimStart_half (capital : Bool) (t : Time) :
  Text.trimStart (' ' :: t.half capital) = t.half capital
  := by
  rw [half]
  split <;> split <;> rfl

/-- A time on a clock of twelve hours is read as the time. -/
theorem readsTime_halfClock {t : Time} (hnano : t.nano = 0) {width : Nat} (hwidth : width ≤ 2)
    (capital : Bool) :
  ReadsTime (t.halfClock width capital) t
  := by
  obtain ⟨hlow, hhigh⟩ := t.hour12_bounds
  have hminute := t.minute_lt
  have hsecond := t.secondOfMinute_lt
  have hhalf := halfDay_half capital t
  rw [← trimStart_half] at hhalf
  rw [halfClock]
  apply readsTime_triple (isTimeText_half capital t)
  rw [time_triple hwidth (by omega) (by omega) (by omega) (by simp) hhalf]
  simp only [hlow, hhigh, true_and, if_true, hour12_eq, ofParts?_parts hnano, Option.map_some]

end Time

end FieldFormula.Calendar
