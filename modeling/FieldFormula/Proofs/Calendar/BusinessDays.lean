import FieldFormula.Calendar.Reading
import FieldFormula.Calendar.Rolling
import FieldFormula.Proofs.Calendar.Date
import Mathlib.Algebra.Order.Ring.Int
import Mathlib.Tactic.Ring
import Mathlib.Tactic.Use

/-!
# Business days

The business days are the days from Monday to Friday.  Every week has five of them, so the number
of business days between two days is the difference of their ranks, where the rank of a day counts
the weeks before it five times each and the business days of its own week up to it.

A business day that is moved forward reaches the business day whose rank is higher by the amount.
Moved backward it passes the days in which the same amount is counted forward, a weekend among
them if that way runs past Friday.  These are the days of the way back only if both ways pass a
weekend, or neither does.

* `businessDays_eq`: the number of business days between two days.
* `DateTime.addWeekdays?_eq_some_iff`: the day to which a business day is moved.
* `DateTime.addWeekdays?_natCast`: moving forward counts business days.
* `DateTime.addWeekdays?_one_leapSecond`: a leap second does not keep its time.
* `DateTime.isMirrored_iff`: where moving backward does so too.
-/

namespace FieldFormula.Calendar

/-! ### Counting business days -/

/-- The day with the given number lies from Monday to Friday. -/
def IsBusinessDay (n : Int) : Prop :=
  1 ≤ weekdayOf n ∧ weekdayOf n ≤ 5

instance : DecidablePred IsBusinessDay :=
  fun n => inferInstanceAs (Decidable (1 ≤ weekdayOf n ∧ weekdayOf n ≤ 5))

/-- The number of business days after the day `m` up to the day `n`. -/
def businessDays (m n : Int) : Nat :=
  (List.range (n - m).toNat).countP fun i : Nat => IsBusinessDay (m + i + 1)

/-- The number of business days from day zero, which is a Monday, up to the given day. -/
def businessRank (n : Int) : Int :=
  5 * (n / 7) + if n % 7 < 5 then n % 7 + 1 else 5

theorem isBusinessDay_iff (n : Int) :
  IsBusinessDay n ↔ n % 7 < 5
  := by
  rw [IsBusinessDay, weekdayOf]
  omega

/-- The rank of a day is higher than that of the day before by one or, on a weekend, by zero. -/
theorem businessRank_succ (n : Int) :
  businessRank (n + 1) = businessRank n + if IsBusinessDay (n + 1) then 1 else 0
  := by
  simp only [isBusinessDay_iff, businessRank]
  omega

theorem businessDays_add_one (m : Int) (k : Nat) :
  businessDays m (m + (k + 1))
    = businessDays m (m + k) + if IsBusinessDay (m + k + 1) then 1 else 0
  := by
  have hlength : (m + (k + 1) - m).toNat = k + 1 ∧ (m + k - m).toNat = k := by omega
  rw [businessDays, businessDays, hlength.1, hlength.2, List.range_succ, List.countP_append]
  simp

/-- The number of business days between two days is the difference of their ranks. -/
theorem businessDays_eq {m n : Int} (h : m ≤ n) :
  (businessDays m n : Int) = businessRank n - businessRank m
  := by
  obtain ⟨k, rfl⟩ := Int.le.dest h
  clear h
  induction k with
  | zero => simp [businessDays]
  | succ k ih =>
    have hrank := businessRank_succ (m + k)
    rw [Nat.cast_succ, businessDays_add_one, ← add_assoc, hrank]
    push_cast
    rw [ih]
    ring

/-! ### Moving by days -/

namespace Time

/-- The time as which a leap second counts: that of the second before it. -/
def regular (t : Time) : Time :=
  ⟨t.second, t.nano % nanosPerSecond, t.second_lt,
    (Nat.mod_lt _ (by decide)).trans (by decide)⟩

/-- The same time of the day a number of days later.  A leap second counts as the second before it
on other days. -/
def daysLater (t : Time) (n : Int) : Time :=
  if n = 0 then t else t.regular

variable {t : Time}

theorem regular_eq_self (h : t.nano < nanosPerSecond) :
  t.regular = t
  := by
  rw [regular, Time.mk.injEq]
  use rfl, Nat.mod_eq_of_lt h

theorem nano_regular_lt (t : Time) :
  t.regular.nano < nanosPerSecond
  := Nat.mod_lt _ (by decide)

theorem nano_regular (h : nanosPerSecond ≤ t.nano) :
  t.regular.nano = t.nano - nanosPerSecond
  := by
  have hlt := t.nano_lt
  have hmod : t.nano % nanosPerSecond = t.nano - nanosPerSecond := by
    rw [Nat.mod_eq_sub_mod h, Nat.mod_eq_of_lt]
    omega
  apply hmod

theorem daysLater_zero (t : Time) :
  t.daysLater 0 = t
  := if_pos rfl

theorem daysLater_eq_self (h : t.nano < nanosPerSecond) (n : Int) :
  t.daysLater n = t
  := by
  rw [daysLater, regular_eq_self h, ite_self]

theorem daysLater_daysLater {m n k : Int} (h : k = 0 ↔ m = 0 ∧ n = 0) :
  (t.daysLater m).daysLater n = t.daysLater k
  := by
  have hregular : t.regular.regular = t.regular := regular_eq_self t.nano_regular_lt
  by_cases hm : m = 0 <;> by_cases hn : n = 0 <;> simp [daysLater, h, hm, hn, hregular]

end Time

namespace DateTime

/-- A second of the day is moved by whole days to the same second of another day. -/
theorem shift?_days (d : Date) (t : Time) (n : Int) {nano : Nat} (h : nano < 2 * nanosPerSecond) :
  shift? d t.second (n * secondsPerDay) nano h
    = (d.addDays? n).map fun date => ⟨date, t.second, nano, t.second_lt, h⟩
  := by
  have hsecond := t.second_lt
  have hdiv : (t.second + n * secondsPerDay) / secondsPerDay = n := by
    rw [secondsPerDay] at *
    omega
  have hmod : ((t.second + n * secondsPerDay) % secondsPerDay).toNat = t.second := by
    rw [secondsPerDay] at *
    omega
  simp only [shift?, hdiv, hmod, Option.bind_eq_bind, Option.pure_def]
  cases d.addDays? n <;> rfl

/-- Moving by whole days keeps the time of the day.  A leap second is not moved backward here,
since then it counts from its end. -/
theorem addDays?_eq {a : DateTime} {n : Int} (h : 0 ≤ n ∨ a.time.nano < nanosPerSecond) :
  a.addDays? n = (a.date.addDays? n).map fun d => ⟨d, a.time.daysLater n⟩
  := by
  by_cases hleap : nanosPerSecond ≤ a.time.nano
  · have hn : 0 ≤ n := by omega
    have hnano : a.time.nano % nanosPerSecond = a.time.nano - nanosPerSecond :=
      Time.nano_regular hleap
    rw [addDays?, addSeconds?, if_pos hleap]
    obtain rfl | hpos := hn.eq_or_lt
    · have hdate : a.date.addDays? 0 = some a.date := Date.ofNumber?_eq_some_iff.mpr (by simp)
      rw [hdate]
      simp [Time.daysLater]
    · have hseconds : 0 < n * secondsPerDay := mul_pos hpos (by decide)
      simp only [if_neg hseconds.ne', if_pos hseconds, shift?_days, Time.daysLater,
        if_neg hpos.ne', Time.regular, hnano]
  · rw [addDays?, addSeconds?, if_neg hleap, shift?_days, Time.daysLater_eq_self (by omega)]

theorem addDays?_eq_some_iff {a b : DateTime} {n : Int}
    (h : 0 ≤ n ∨ a.time.nano < nanosPerSecond) :
  a.addDays? n = some b
    ↔ b.date.number = a.date.number + n ∧ b.time = a.time.daysLater n
  := by
  rw [addDays?_eq h, Option.map_eq_some_iff]
  constructor
  · rintro ⟨d, hd, rfl⟩
    use Date.ofNumber?_eq_some_iff.mp hd
  · rintro ⟨hnumber, htime⟩
    use b.date, Date.ofNumber?_eq_some_iff.mpr hnumber
    rw [← htime]

/-! ### Moving by business days -/

/-- The position of a date in its week, where Monday is zero.  Saturday and Sunday stand before
Monday. -/
def weekdayIndex (d : Date) : Int :=
  match d.weekday with
  | 0 => -1
  | 6 => -2
  | k => k - 1

theorem weekdayIndex_of_isBusinessDay {d : Date} (h : IsBusinessDay d.number) :
  weekdayIndex d = d.number % 7
  := by
  rw [isBusinessDay_iff] at h
  rw [weekdayIndex, Date.weekday, weekdayOf]
  split <;> omega

/-- The days of the weeks that five business days each make. -/
def daysOfWeeks (n : Int) : Int :=
  if n < 0 then -(n.natAbs / 5 * 7) else n.natAbs / 5 * 7

/-- The days that the other business days make from a position in the week.  They pass a weekend
when as many days forward run past Friday. -/
def daysOfRest (index n : Int) : Int :=
  let rest : Int := if 5 ≤ index + n.natAbs % 5 then n.natAbs % 5 + 2 else n.natAbs % 5
  if n < 0 then -rest else rest

theorem addWeekdays?_eq (a : DateTime) (n : Int) :
  a.addWeekdays? n
    = (a.addDays? (daysOfWeeks n)).bind fun s => s.addDays? (daysOfRest (weekdayIndex s.date) n)
  := by
  rw [addWeekdays?, daysOfWeeks]
  simp only [daysOfRest]
  split
  · simp only [neg_mul, one_mul]
    rfl
  · simp only [one_mul]
    rfl

/-- The day to which a number of business days leads from a business day. -/
def movedDay (day n : Int) : Int :=
  day + daysOfWeeks n + daysOfRest (day % 7) n

/-- Whole weeks and the rest lead the same way, and nowhere only if there are none. -/
theorem days_signs {index : Int} (h : index < 5) (n : Int) :
  (0 ≤ n → 0 ≤ daysOfWeeks n ∧ 0 ≤ daysOfRest index n)
    ∧ (n < 0 → daysOfWeeks n ≤ 0 ∧ daysOfRest index n ≤ 0)
    ∧ (n = 0 ↔ daysOfWeeks n = 0 ∧ daysOfRest index n = 0)
  := by
  rw [daysOfWeeks, daysOfRest]
  omega

/-- The day to which a business day is moved, as long as a leap second is not moved backward. -/
theorem addWeekdays?_eq_some_iff {a b : DateTime} (ha : IsBusinessDay a.date.number) {n : Int}
    (h : 0 ≤ n ∨ a.time.nano < nanosPerSecond) :
  a.addWeekdays? n = some b
    ↔ b.date.number = movedDay a.date.number n ∧ b.time = a.time.daysLater n
  := by
  have hfriday := (isBusinessDay_iff _).mp ha
  obtain ⟨hforward, hbackward, hzero⟩ := days_signs hfriday n
  have hindex : ∀ d : Date, d.number = a.date.number + daysOfWeeks n →
      weekdayIndex d = a.date.number % 7 := by
    intro d hd
    have hd' : d.number % 7 = a.date.number % 7 := by
      rw [hd, daysOfWeeks]
      omega
    rw [weekdayIndex_of_isBusinessDay, hd']
    rwa [isBusinessDay_iff, hd']
  have htime := Time.daysLater_daysLater (t := a.time) hzero
  have hweeks : 0 ≤ daysOfWeeks n ∨ a.time.nano < nanosPerSecond :=
    h.imp_left fun hn => (hforward hn).1
  have hrest : 0 ≤ daysOfRest (a.date.number % 7) n
      ∨ (a.time.daysLater (daysOfWeeks n)).nano < nanosPerSecond := by
    apply h.imp (fun hn => (hforward hn).2)
    intro hnano
    rwa [Time.daysLater_eq_self hnano]
  rw [addWeekdays?_eq, Option.bind_eq_some_iff, movedDay]
  constructor
  · rintro ⟨s, hs, hb⟩
    rw [addDays?_eq_some_iff hweeks] at hs
    rw [← hs.2] at hrest htime
    rwa [hindex s.date hs.1, addDays?_eq_some_iff hrest, hs.1, htime] at hb
  · -- the day after the weeks lies on the way, so it is in the calendar as well
    rintro ⟨hnumber, hb⟩
    have hbounds : firstDay ≤ a.date.number + daysOfWeeks n
        ∧ a.date.number + daysOfWeeks n ≤ lastDay := by
      have ha₁ := a.date.firstDay_le
      have ha₂ := a.date.le_lastDay
      have hb₁ := b.date.firstDay_le
      have hb₂ := b.date.le_lastDay
      omega
    let s : DateTime := ⟨⟨_, hbounds.1, hbounds.2⟩, a.time.daysLater (daysOfWeeks n)⟩
    use s, (addDays?_eq_some_iff hweeks).mpr ⟨rfl, rfl⟩
    rw [hindex s.date rfl, addDays?_eq_some_iff hrest, htime]
    use hnumber

/-- As many days as the amount leaves beside whole weeks pass a weekend forward from a position in
the week if and only if they do so backward. -/
def PassesAlike (index n : Int) : Prop :=
  5 ≤ index + n.natAbs % 5 ↔ index < n.natAbs % 5

instance (index n : Int) : Decidable (PassesAlike index n) :=
  inferInstanceAs (Decidable (5 ≤ index + n.natAbs % 5 ↔ index < n.natAbs % 5))

/-- A business day is moved to the business day whose rank differs by the amount if it is moved
forward, and backward only where the way forward passes a weekend just as the way back does. -/
theorem businessRank_movedDay_iff {day n : Int} (h : IsBusinessDay day) :
  IsBusinessDay (movedDay day n) ∧ businessRank (movedDay day n) = businessRank day + n
    ↔ 0 ≤ n ∨ PassesAlike (day % 7) n
  := by
  simp only [isBusinessDay_iff, movedDay, daysOfWeeks, daysOfRest, businessRank, PassesAlike] at *
  omega

theorem le_movedDay {n : Int} (hn : 0 ≤ n) (day : Int) :
  day ≤ movedDay day n
  := by
  simp only [movedDay, daysOfWeeks, daysOfRest]
  omega

theorem movedDay_le {n : Int} (hn : n ≤ 0) {day : Int} (h : IsBusinessDay day) :
  movedDay day n ≤ day
  := by
  simp only [isBusinessDay_iff, movedDay, daysOfWeeks, daysOfRest] at *
  omega

/-- Business days of one rank are the same. -/
theorem eq_of_businessRank_eq {m n : Int} (hm : IsBusinessDay m) (hn : IsBusinessDay n)
    (h : businessRank m = businessRank n) :
  m = n
  := by
  simp only [isBusinessDay_iff, businessRank] at *
  omega

/-- The day at the right distance is reached forward, and backward where the ways pass alike. -/
theorem movedDay_eq_iff {m n k : Int} (hm : IsBusinessDay m) (hn : IsBusinessDay n)
    (h : businessRank n = businessRank m + k) :
  movedDay m k = n ↔ 0 ≤ k ∨ PassesAlike (m % 7) k
  := by
  rw [← businessRank_movedDay_iff hm]
  constructor
  · rintro rfl
    use hn
  · rintro ⟨hday, hrank⟩
    apply eq_of_businessRank_eq hday hn
    rw [hrank, h]

/-- A business day is moved forward to the business day up to which, from the day after it on, there
are as many business days as the amount says, wherever that day lies in the calendar.  The time of
day stays the same, except that a leap second on another day is the second before it, at the same
fraction of a second. -/
theorem addWeekdays?_natCast {a : DateTime} (ha : IsBusinessDay a.date.number) (n : Nat) :
  (∀ d : Date, (∃ t, a.addWeekdays? n = some ⟨d, t⟩)
      ↔ a.date.number ≤ d.number ∧ IsBusinessDay d.number
        ∧ businessDays a.date.number d.number = n)
    ∧ ∀ b, a.addWeekdays? n = some b →
      (a.time.nano < nanosPerSecond ∨ n = 0 → b.time = a.time)
        ∧ (nanosPerSecond ≤ a.time.nano → 0 < n →
          b.time.second = a.time.second ∧ b.time.nano = a.time.nano - nanosPerSecond)
  := by
  have hn : 0 ≤ (n : Int) := Int.natCast_nonneg n
  have hle := le_movedDay hn a.date.number
  obtain ⟨hday, hrank⟩ := (businessRank_movedDay_iff ha).mpr (Or.inl hn)
  constructor
  · intro d
    constructor
    · rintro ⟨t, h⟩
      obtain ⟨hnumber, -⟩ := (addWeekdays?_eq_some_iff ha (Or.inl hn)).mp h
      have hnumber' : d.number = movedDay a.date.number n := hnumber
      rw [← hnumber'] at hle hday hrank
      have hcount := businessDays_eq hle
      refine ⟨hle, hday, ?_⟩
      omega
    · rintro ⟨hle', hday', hcount⟩
      use a.time.daysLater n
      rw [addWeekdays?_eq_some_iff ha (Or.inl hn)]
      refine ⟨?_, rfl⟩
      apply eq_of_businessRank_eq hday' hday
      have hcount' := businessDays_eq hle'
      rw [hrank]
      omega
  · intro b h
    obtain ⟨-, htime⟩ := (addWeekdays?_eq_some_iff ha (Or.inl hn)).mp h
    rw [htime]
    constructor
    · rintro (hnano | rfl)
      · apply Time.daysLater_eq_self hnano
      · apply Time.daysLater_zero
    · intro hleap hpos
      rw [Time.daysLater, if_neg (by omega)]
      exact ⟨rfl, Time.nano_regular hleap⟩

/-- Two business days forward from a Thursday, at noon and in a leap second. -/
theorem addWeekdays?_natCast_thursday :
  let thursday : Date := ⟨738888, by decide, by decide⟩
  let monday : Date := ⟨738892, by decide, by decide⟩
  let noon : Time := ⟨43200, 0, by decide, by decide⟩
  let leap : Time := ⟨86399, 1500000000, by decide, by decide⟩
  DateTime.addWeekdays? ⟨thursday, noon⟩ 2 = some ⟨monday, noon⟩
    ∧ ∃ t, DateTime.addWeekdays? ⟨thursday, leap⟩ 2 = some ⟨monday, t⟩
      ∧ t.second = 86399 ∧ t.nano = 500000000
  := by
  intro thursday monday noon leap
  constructor
  · obtain ⟨hdate, htime⟩ := @addWeekdays?_natCast ⟨thursday, noon⟩ (by decide) 2
    obtain ⟨t, ht⟩ := (hdate monday).mpr (by decide +kernel)
    obtain rfl : t = noon := (htime _ ht).1 (Or.inl (by decide))
    apply ht
  · obtain ⟨hdate, htime⟩ := @addWeekdays?_natCast ⟨thursday, leap⟩ (by decide) 2
    obtain ⟨t, ht⟩ := (hdate monday).mpr (by decide +kernel)
    obtain ⟨hsecond, hnano⟩ := (htime _ ht).2 (by decide) (by decide)
    exact ⟨t, ht, hsecond, hnano.trans (by decide)⟩

/-- A leap second does not keep its time: one business day after the leap second at the end of
June 2015, it is the last second before midnight. -/
theorem addWeekdays?_one_leapSecond :
  let tuesday : Date := ⟨735778, by decide, by decide⟩
  let wednesday : Date := ⟨735779, by decide, by decide⟩
  let leap : DateTime := ⟨tuesday, ⟨86399, 1250000000, by decide, by decide⟩⟩
  let moved : DateTime := ⟨wednesday, ⟨86399, 250000000, by decide, by decide⟩⟩
  DateTime.ofText? "2015-06-30T23:59:60.25Z".toList = some leap
    ∧ IsBusinessDay leap.date.number
    ∧ leap.addWeekdays? 1 = some moved
    ∧ moved.time ≠ leap.time
  := by
  decide +kernel

/-! ### Moving there and back -/

/-- The number of business days after the earlier of two days up to the later one. -/
def businessDistance (m n : Int) : Nat :=
  if m ≤ n then businessDays m n else businessDays n m

theorem businessDistance_eq_natAbs_iff {m n k : Int} (h : 0 ≤ k ∧ m ≤ n ∨ k ≤ 0 ∧ n ≤ m) :
  businessDistance m n = k.natAbs ↔ businessRank n = businessRank m + k
  := by
  rw [businessDistance]
  split
  · next hle =>
    have hcount := businessDays_eq hle
    obtain ⟨hk, -⟩ | ⟨hk, hle'⟩ := h
    · omega
    · obtain rfl := hle.antisymm hle'
      omega
  · next hlt =>
    have hcount := businessDays_eq (le_of_not_ge hlt)
    omega

/-- Moving by a number of business days leads to a business day at that distance, and moving back by
as many leads back. -/
def IsMirrored (a : DateTime) (n : Int) : Prop :=
  ∃ b, a.addWeekdays? n = some b ∧ IsBusinessDay b.date.number
    ∧ businessDistance a.date.number b.date.number = n.natAbs
    ∧ b.addWeekdays? (-n) = some a

theorem isMirrored_iff_movedDay {a b : DateTime} (ha : IsBusinessDay a.date.number)
    (hnano : a.time.nano < nanosPerSecond) {n : Int} (hb : a.addWeekdays? n = some b) :
  a.IsMirrored n
    ↔ IsBusinessDay b.date.number ∧ businessRank b.date.number = businessRank a.date.number + n
      ∧ movedDay b.date.number (-n) = a.date.number
  := by
  obtain ⟨hnumber, htime⟩ := (addWeekdays?_eq_some_iff ha (Or.inr hnano)).mp hb
  rw [Time.daysLater_eq_self hnano] at htime
  have hway : 0 ≤ n ∧ a.date.number ≤ b.date.number ∨ n ≤ 0 ∧ b.date.number ≤ a.date.number := by
    rw [hnumber]
    apply (le_total 0 n).imp
    · exact fun hn => ⟨hn, le_movedDay hn _⟩
    · exact fun hn => ⟨hn, movedDay_le hn ha⟩
  have hback : IsBusinessDay b.date.number →
      (b.addWeekdays? (-n) = some a ↔ movedDay b.date.number (-n) = a.date.number) := by
    intro hday
    rw [addWeekdays?_eq_some_iff hday (Or.inr (htime ▸ hnano)), htime,
      Time.daysLater_eq_self hnano, eq_comm]
    exact and_iff_left rfl
  constructor
  · rintro ⟨b', hb', hday, hdistance, hreturn⟩
    obtain rfl := Option.some.inj (hb.symm.trans hb')
    exact ⟨hday, (businessDistance_eq_natAbs_iff hway).mp hdistance, (hback hday).mp hreturn⟩
  · rintro ⟨hday, hrank, hreturn⟩
    exact ⟨b, hb, hday, (businessDistance_eq_natAbs_iff hway).mpr hrank, (hback hday).mpr hreturn⟩

/-- Moving by business days is mirrored only where, from the later of the two days, the ways forward
and backward both pass a weekend or neither does. -/
theorem isMirrored_iff {a b : DateTime} (ha : IsBusinessDay a.date.number)
    (hnano : a.time.nano < nanosPerSecond) {n : Int} (hb : a.addWeekdays? n = some b) :
  a.IsMirrored n
    ↔ PassesAlike ((if n < 0 then a.date.number else b.date.number) % 7) n
  := by
  obtain ⟨hnumber, -⟩ := (addWeekdays?_eq_some_iff ha (Or.inr hnano)).mp hb
  have hmoved := businessRank_movedDay_iff (n := n) ha
  rw [← hnumber] at hmoved
  rw [isMirrored_iff_movedDay ha hnano hb]
  obtain hn | hn := lt_or_ge n 0
  · rw [if_pos hn]
    rw [or_iff_right hn.not_ge] at hmoved
    rw [← hmoved]
    constructor
    · rintro ⟨hday, hrank, -⟩
      use hday
    · rintro ⟨hday, hrank⟩
      refine ⟨hday, hrank, ?_⟩
      rw [movedDay_eq_iff hday ha (by omega)]
      omega
  · obtain ⟨hday, hrank⟩ := hmoved.mpr (Or.inl hn)
    have hfriday := (isBusinessDay_iff _).mp hday
    rw [if_neg hn.not_gt, and_iff_right hday, and_iff_right hrank,
      movedDay_eq_iff hday ha (by omega), PassesAlike, PassesAlike, Int.natAbs_neg]
    omega

/-- A Wednesday is two business days behind the Monday of its week, and moving leads there and
back. -/
theorem isMirrored_iff_wednesday :
  let wednesday : Date := ⟨738894, by decide, by decide⟩
  (DateTime.ofDate wednesday).IsMirrored (-2)
  := by
  intro wednesday
  let monday : Date := ⟨738892, by decide, by decide⟩
  apply (@isMirrored_iff (.ofDate wednesday) (.ofDate monday) (by decide) (by decide) (-2)
    (by decide +kernel)).mpr
  decide

/-- One business day backward, a Friday is moved to the Tuesday of its week, which is three business
days away, and a Monday to the Sunday before it. -/
theorem addWeekdays?_one_backward :
  let friday : Date := ⟨738889, by decide, by decide⟩
  let tuesday : Date := ⟨738886, by decide, by decide⟩
  let monday : Date := ⟨738885, by decide, by decide⟩
  let sunday : Date := ⟨738884, by decide, by decide⟩
  (DateTime.ofDate friday).addWeekdays? (-1) = some (.ofDate tuesday)
    ∧ businessDistance friday.number tuesday.number = 3
    ∧ (DateTime.ofDate monday).addWeekdays? (-1) = some (.ofDate sunday)
    ∧ ¬ IsBusinessDay sunday.number
  := by
  decide +kernel

end DateTime

end FieldFormula.Calendar
