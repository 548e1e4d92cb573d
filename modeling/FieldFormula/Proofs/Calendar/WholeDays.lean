import FieldFormula.Proofs.Calendar.BusinessDays
import Mathlib.Tactic.Linarith

/-!
# Whole days between date-times

A date-time that is moved by days stays before another one or equal to it as long as the days fit
between the two.  Without leap seconds their number is the time from one to the other in whole days.
A leap second counts as the second before it where the time starts, since it is moved as such, and
as the end of that second where the time ends.

* `DateTime.wholeDays_eq`: the number of whole days is that of the time between the two.
* `DateTime.notAfter_iff_of_addDays?_one`: the days that fit between two date-times.
-/

namespace FieldFormula.Calendar

/-- The number of nanoseconds of a day. -/
def nanosPerDay : Nat := secondsPerDay * nanosPerSecond

/-- The time itself or, in a leap second, the end of the second before it. -/
def Time.beforeLeap (t : Time) : Time :=
  ⟨t.second, min t.nano (nanosPerSecond - 1), t.second_lt,
    (min_le_right _ _).trans_lt (by decide)⟩

theorem Time.nano_beforeLeap_lt (t : Time) :
  t.beforeLeap.nano < nanosPerSecond
  := (min_le_right _ _).trans_lt (by decide)

namespace DateTime

/-! ### The time between -/

/-- The number of whole days of 24 hours from one date-time to another, where leap seconds are left
out. -/
def wholeDays (start stop : DateTime) : Int :=
  nanosSince ⟨stop.date, stop.time.beforeLeap⟩ ⟨start.date, start.time.regular⟩ / nanosPerDay

/-- Without leap seconds the whole days are those of the time between two date-times. -/
theorem wholeDays_eq {start stop : DateTime} (hstart : start.time.nano < nanosPerSecond)
    (hstop : stop.time.nano < nanosPerSecond) :
  start.wholeDays stop = stop.nanosSince start / nanosPerDay
  := by
  have hbefore : stop.time.beforeLeap = stop.time := by
    rw [Time.beforeLeap, Time.mk.injEq]
    use rfl, min_eq_left (Nat.le_sub_one_of_lt hstop)
  rw [wholeDays, hbefore, Time.regular_eq_self hstart]

theorem notAfter_iff {a b : DateTime} :
  a.notAfter b = true
    ↔ a.date.number < b.date.number
      ∨ a.date.number = b.date.number
        ∧ (a.time.second < b.time.second
          ∨ a.time.second = b.time.second ∧ a.time.nano ≤ b.time.nano)
  := by
  simp only [notAfter, before, Bool.not_eq_true', Bool.or_eq_false_iff, Bool.and_eq_false_iff,
    decide_eq_false_iff_not, beq_eq_false_iff_ne]
  omega

/-- The nanoseconds between two date-times outside leap seconds. -/
theorem nanosSince_eq {later earlier : DateTime} (hlater : later.time.nano < nanosPerSecond)
    (hearlier : earlier.time.nano < nanosPerSecond) :
  later.nanosSince earlier
    = (later.date.number - earlier.date.number) * nanosPerDay
      + ((later.time.second : Int) - earlier.time.second) * nanosPerSecond
      + ((later.time.nano : Int) - earlier.time.nano)
  := by
  rw [nanosSince, if_neg (by omega), if_neg (by omega), nanosPerDay]
  push_cast
  ring

/-- A date-time outside leap seconds is not after another one if the time between the two, up to the
end of the second before a leap second, is not negative. -/
theorem notAfter_iff_nanosSince {a b : DateTime} (ha : a.time.nano < nanosPerSecond) :
  a.notAfter b = true ↔ 0 ≤ nanosSince ⟨b.date, b.time.beforeLeap⟩ a
  := by
  have hsecond := a.time.second_lt
  have hsecond' := b.time.second_lt
  rw [notAfter_iff, nanosSince_eq b.time.nano_beforeLeap_lt ha]
  simp only [Time.beforeLeap, nanosPerDay, nanosPerSecond, secondsPerDay] at *
  omega

theorem regular_notAfter {a b : DateTime} (h : a.notAfter b = true) :
  notAfter ⟨a.date, a.time.regular⟩ b = true
  := by
  have hle : a.time.nano % nanosPerSecond ≤ a.time.nano := Nat.mod_le _ _
  rw [notAfter_iff] at h ⊢
  simp only [Time.regular]
  omega

theorem wholeDays_nonneg {start stop : DateTime} (h : start.notAfter stop = true) :
  0 ≤ start.wholeDays stop
  := by
  apply Int.ediv_nonneg _ (Int.natCast_nonneg _)
  apply (notAfter_iff_nanosSince start.time.nano_regular_lt).mp (regular_notAfter h)

/-! ### Days that fit -/

theorem addDays?_zero (a : DateTime) :
  a.addDays? 0 = some a
  := by
  rw [addDays?_eq_some_iff (Or.inl le_rfl)]
  use (add_zero _).symm
  rfl

section

variable {start stop following : DateTime} (h : start.addDays? 1 = some following)

include h

/-- The date-time a day later lies on the next day.  It is in no leap second. -/
theorem parts_of_addDays?_one :
  following.date.number = start.date.number + 1 ∧ following.time = start.time.regular
  := (addDays?_eq_some_iff (Or.inl (by decide))).mp h

/-- Days are added one after the other. -/
theorem addDays?_succ (k : Nat) :
  start.addDays? (k + 1 : Nat) = following.addDays? k
  := by
  obtain ⟨hnumber, htime⟩ := parts_of_addDays?_one h
  have hlater : start.time.daysLater (k + 1 : Nat) = following.time.daysLater k := by
    rw [htime, Time.daysLater_eq_self start.time.nano_regular_lt, Time.daysLater,
      if_neg (by omega)]
  have hdate : start.date.addDays? (k + 1 : Nat) = following.date.addDays? k := by
    rw [Date.addDays?, Date.addDays?, hnumber]
    congr 1
    push_cast
    ring
  rw [addDays?_eq (Or.inl (Int.natCast_nonneg _)), addDays?_eq (Or.inl (Int.natCast_nonneg _)),
    hdate, hlater]

/-- From the date-time a day later there is a day less. -/
theorem wholeDays_of_addDays?_one :
  following.wholeDays stop = start.wholeDays stop - 1
  := by
  obtain ⟨hnumber, htime⟩ := parts_of_addDays?_one h
  have hnano := start.time.nano_regular_lt
  have hbefore := stop.time.nano_beforeLeap_lt
  rw [wholeDays, wholeDays, htime, Time.regular_eq_self hnano, nanosSince_eq hbefore hnano,
    nanosSince_eq hbefore hnano, hnumber]
  dsimp only
  rw [nanosPerDay, secondsPerDay, nanosPerSecond]
  omega

/-- The date-time a day later is not after the stop if a whole day fits before the stop. -/
theorem notAfter_iff_of_addDays?_one :
  following.notAfter stop = true ↔ 1 ≤ start.wholeDays stop
  := by
  have hnano : following.time.nano < nanosPerSecond := by
    rw [(parts_of_addDays?_one h).2]
    apply start.time.nano_regular_lt
  have hdays : nanosSince ⟨stop.date, stop.time.beforeLeap⟩ following / nanosPerDay
      = start.wholeDays stop - 1 := by
    rw [← wholeDays_of_addDays?_one h, wholeDays, Time.regular_eq_self hnano]
  have hpos : (0 : Int) < nanosPerDay := by decide
  rw [notAfter_iff_nanosSince hnano, ← Int.ediv_nonneg_iff_of_pos hpos, hdays, Int.sub_nonneg]

end

theorem wholeDays_le (start stop : DateTime) :
  start.wholeDays stop ≤ stop.date.number - start.date.number
  := by
  have hsecond := start.time.second_lt
  have hsecond' := stop.time.second_lt
  rw [wholeDays, nanosSince_eq stop.time.nano_beforeLeap_lt start.time.nano_regular_lt]
  simp only [Time.beforeLeap, Time.regular, nanosPerDay, nanosPerSecond, secondsPerDay] at *
  omega

/-- A day that fits before the stop ends in the calendar. -/
theorem exists_addDays?_one {start stop : DateTime} (h : 1 ≤ start.wholeDays stop) :
  ∃ following, start.addDays? 1 = some following
  := by
  have hlow := start.date.firstDay_le
  have hhigh := stop.date.le_lastDay
  have hle := start.wholeDays_le stop
  use ⟨⟨start.date.number + 1, by omega, by omega⟩, start.time.daysLater 1⟩
  rw [addDays?_eq_some_iff (Or.inl (by decide))]
  exact ⟨rfl, rfl⟩

end DateTime

end FieldFormula.Calendar
