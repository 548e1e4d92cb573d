import FieldFormula.Proofs.Calendar.WholeDays
import FieldFormula.Proofs.Calendar.Writing
import FieldFormula.Proofs.Registry.Lookup
import FieldFormula.Proofs.Text.Search

/-!
# Lists of days

The function that lists the days from one date-time to another adds one day after the other as long
as the result is not after the second date-time.  So it lists the first date-time moved by every
number of days that fits between the two, and it stops by itself: however many more steps it may
take, the list stays the same.

* `Library.map_daysUntil`: the days that are listed.
* `Expr.evaluate_dateList`: the text of the list in a formula.
-/

namespace FieldFormula

open Calendar (Date DateTime)

namespace Library

/-! ### The days that are listed -/

theorem daysUntil_of_before {start stop : DateTime} (h : stop.before start = true) (fuel : Nat) :
  daysUntil stop start fuel = []
  := by
  cases fuel with
  | zero => rfl
  | succ fuel => rw [daysUntil, DateTime.notAfter, h, if_neg (by decide)]

/-- The listed days are those that fit before the stop, if there are enough steps to reach it. -/
theorem map_daysUntil {start stop : DateTime} (h : start.notAfter stop = true) {fuel : Nat}
    (hfuel : start.wholeDays stop < fuel) :
  (daysUntil stop start fuel).map some
    = (List.range ((start.wholeDays stop).toNat + 1)).map fun k : Nat => start.addDays? k
  := by
  induction fuel generalizing start with
  | zero =>
    have hnonneg := DateTime.wholeDays_nonneg h
    omega
  | succ fuel ih =>
    rw [daysUntil, if_pos h, List.range_succ_eq_map, List.map_cons, List.map_cons, List.map_map,
      Nat.cast_zero, start.addDays?_zero]
    congr 1
    obtain hpos | hzero := lt_or_ge 0 (start.wholeDays stop)
    · obtain ⟨following, hfollowing⟩ := DateTime.exists_addDays?_one hpos
      have hdays : following.wholeDays stop = start.wholeDays stop - 1 :=
        DateTime.wholeDays_of_addDays?_one hfollowing
      have hrest := ih ((DateTime.notAfter_iff_of_addDays?_one hfollowing).mpr hpos) (by omega)
      have hcount : (following.wholeDays stop).toNat + 1 = (start.wholeDays stop).toNat := by omega
      rw [hfollowing]
      dsimp only
      rw [hrest, hcount]
      apply List.map_congr_left
      intro k _
      exact (DateTime.addDays?_succ hfollowing k).symm
    · rw [Int.toNat_of_nonpos hzero, List.range_zero, List.map_nil, List.map_eq_nil_iff]
      cases hone : start.addDays? 1 with
      | none => rfl
      | some following =>
        apply daysUntil_of_before
        have hafter : ¬ following.notAfter stop = true :=
          mt (DateTime.notAfter_iff_of_addDays?_one hone).mp (by omega)
        simpa [DateTime.notAfter] using hafter

/-! ### The texts of the days -/

section

variable {start : DateTime} {dates : List DateTime} {n : Nat}
  (h : dates.map some = (List.range n).map fun k : Nat => start.addDays? k)

include h

/-- The listed days follow one another. -/
theorem number_of_map_some {k : Nat} (hk : k < dates.length) :
  dates[k].date.number = start.date.number + k
  := by
  have hget : (dates.map some)[k]? = ((List.range n).map fun k : Nat => start.addDays? k)[k]? := by
    rw [h]
  have hlength := congrArg List.length h
  rw [List.length_map, List.length_map, List.length_range] at hlength
  rw [List.getElem?_map, List.getElem?_map, List.getElem?_range (by omega),
    List.getElem?_eq_getElem hk, Option.map_some, Option.map_some, Option.some.injEq] at hget
  exact ((DateTime.addDays?_eq_some_iff (Or.inl (Int.natCast_nonneg k))).mp hget.symm).1

/-- No day is listed twice. -/
theorem nodup_isoText :
  (dates.map (·.date.isoText)).Nodup
  := by
  rw [List.Nodup, List.pairwise_map, List.pairwise_iff_getElem]
  intro i j hi hj hlt heq
  have hnumber := congrArg Date.number (Date.isoText_injective heq)
  rw [number_of_map_some h hi, number_of_map_some h hj] at hnumber
  omega

end

theorem semicolon_notMem_isoText (d : Date) :
  ';' ∉ d.isoText
  := by
  have hdigits : ∀ width n, ';' ∉ Calendar.padded width n := by
    intro width n hmem
    have hdigit := Calendar.isDigit_of_mem_padded hmem
    contradiction
  have hyear : ';' ∉ Calendar.yearText d.year := by
    rw [Calendar.yearText]
    split
    · simp [hdigits]
    · split <;> simp [hdigits]
  simp [Date.isoText, hyear, hdigits]

/-- The function lists the days from one date-time to another. -/
theorem dateList_of_toDate? {a b : Value} {start stop : DateTime} (ha : a.toDate? = some start)
    (hb : b.toDate? = some stop) (draw : Float) :
  dateList ⟨[a, b], draw⟩
    = .ofChars (Text.join [';'] ((daysUntil stop start
      ((stop.date.number - start.date.number).toNat + 1)).map (·.date.isoText)))
  := by
  have hstart : Call.date? ⟨[a, b], draw⟩ 0 = some start := ha
  have hstop : Call.date? ⟨[a, b], draw⟩ 1 = some stop := hb
  rw [dateList]
  split
  · next start' stop' h h' =>
    obtain rfl := Option.some.inj (h.symm.trans hstart)
    obtain rfl := Option.some.inj (h'.symm.trans hstop)
    rfl
  · next h => cases h _ _ hstart hstop

end Library

/-! ### Formulas -/

namespace Expr

/-- The list of days from one date-time to another is empty if the second one is before the first
one.  Otherwise it has the dates of the first one moved by every number of days up to the number of
whole days between the two, each of them once.  Without leap seconds these are the whole days of the
time between the two.  Either way the list ends by itself, and more steps do not make it longer. -/
theorem evaluate_dateList {ctx : Context} {a b : Expr} {start stop : DateTime}
    (hregistry : ctx.registry = .builtin) (ha : (a.evaluate ctx).toDate? = some start)
    (hb : (b.evaluate ctx).toDate? = some stop) :
  (stop.before start = true →
      (evaluate ctx (.call "DATELIST" [a, b])).chars = []
        ∧ ∀ fuel, Library.daysUntil stop start fuel = [])
    ∧ (start.notAfter stop = true →
      ∃ (K : Nat) (dates : List DateTime), K = start.wholeDays stop
        ∧ (start.time.nano < Calendar.nanosPerSecond → stop.time.nano < Calendar.nanosPerSecond
          → K = stop.nanosSince start / Calendar.nanosPerDay)
        ∧ dates.map some = (List.range (K + 1)).map (fun k : Nat => start.addDays? k)
        ∧ (evaluate ctx (.call "DATELIST" [a, b])).chars
          = Text.join [';'] (dates.map (·.date.isoText))
        ∧ Text.splitOn [';'] (evaluate ctx (.call "DATELIST" [a, b])).chars
          = dates.map (·.date.isoText)
        ∧ (dates.map (·.date.isoText)).Nodup
        ∧ ∀ fuel, K < fuel → Library.daysUntil stop start fuel = dates)
  := by
  have hlist : (evaluate ctx (.call "DATELIST" [a, b])).chars
      = Text.join [';'] ((Library.daysUntil stop start
        ((stop.date.number - start.date.number).toNat + 1)).map (·.date.isoText)) := by
    rw [evaluate_call hregistry "DATELIST" Library.dateList rfl, evaluateAll, evaluateAll,
      evaluateAll, Library.dateList_of_toDate? ha hb, Value.chars_ofChars]
  constructor
  · intro hbefore
    rw [hlist]
    use by rw [Library.daysUntil_of_before hbefore]; rfl
    apply Library.daysUntil_of_before hbefore
  · intro hafter
    have hnonneg := DateTime.wholeDays_nonneg hafter
    have hle := start.wholeDays_le stop
    have hdays := @Library.map_daysUntil start stop hafter
    let dates := Library.daysUntil stop start ((stop.date.number - start.date.number).toNat + 1)
    have hdates : dates.map some
        = (List.range ((start.wholeDays stop).toNat + 1)).map fun k : Nat => start.addDays? k :=
      hdays (by omega)
    have hne : dates.map (·.date.isoText) ≠ [] := by
      have hlength := congrArg List.length hdates
      simp only [List.length_map, List.length_range] at hlength
      rw [← List.length_pos_iff, List.length_map]
      omega
    refine ⟨(start.wholeDays stop).toNat, dates, ?_, ?_, hdates, hlist, ?_,
      Library.nodup_isoText hdates, ?_⟩
    · omega
    · intro hstart hstop
      rw [← DateTime.wholeDays_eq hstart hstop]
      omega
    · rw [hlist]
      apply Text.splitOn_join hne
      intro s hs
      obtain ⟨dt, -, rfl⟩ := List.mem_map.mp hs
      apply Library.semicolon_notMem_isoText
    · intro fuel hfuel
      apply List.map_injective_iff.mpr (Option.some_injective _)
      rw [hdays (by omega), hdates]

/-- From the leap second at the end of 2016 on, a list has the next day if it reaches the end of the
second before midnight.  The other way round it is empty. -/
theorem evaluate_dateList_newYear :
  let ctx : Context := ⟨.builtin, none, 0.0⟩
  let a : Expr := .literal (.text "2016-12-31T23:59:60.5Z")
  let b : Expr := .literal (.text "2017-01-01T23:59:59.7Z")
  (∃ dates : List DateTime, dates.length = 2
      ∧ (evaluate ctx (.call "DATELIST" [a, b])).chars
        = Text.join [';'] (dates.map (·.date.isoText))
      ∧ (dates.map (·.date.isoText)).Nodup)
    ∧ (evaluate ctx (.call "DATELIST" [b, a])).chars = []
  := by
  intro ctx a b
  let start : DateTime :=
    ⟨⟨736328, by decide, by decide⟩, ⟨86399, 1500000000, by decide, by decide⟩⟩
  let stop : DateTime := ⟨⟨736329, by decide, by decide⟩, ⟨86399, 700000000, by decide, by decide⟩⟩
  have ha : (a.evaluate ctx).toDate? = some start := by decide +kernel
  have hb : (b.evaluate ctx).toDate? = some stop := by decide +kernel
  have hregistry : ctx.registry = .builtin := rfl
  constructor
  · obtain ⟨K, dates, hK, -, hdates, htext, -, hnodup, -⟩ :=
      (evaluate_dateList hregistry ha hb).2 (by decide)
    have hcount : start.wholeDays stop = 1 := by decide
    have hlength := congrArg List.length hdates
    simp only [List.length_map, List.length_range] at hlength
    exact ⟨dates, by omega, htext, hnodup⟩
  · exact ((evaluate_dateList hregistry hb ha).1 (by decide)).1

/-- From the start of the last day of 2016 to its leap second there are 24 hours, but the list does
not have the next day. -/
theorem evaluate_dateList_leapSecond :
  let ctx : Context := ⟨.builtin, none, 0.0⟩
  let a : Expr := .literal (.text "2016-12-31")
  let b : Expr := .literal (.text "2016-12-31T23:59:60Z")
  let start : DateTime := .ofDate ⟨736328, by decide, by decide⟩
  let next : DateTime := .ofDate ⟨736329, by decide, by decide⟩
  let stop : DateTime := ⟨start.date, ⟨86399, 1000000000, by decide, by decide⟩⟩
  (a.evaluate ctx).toDate? = some start
    ∧ (b.evaluate ctx).toDate? = some stop
    ∧ start.notAfter stop = true
    ∧ stop.nanosSince start / Calendar.nanosPerDay = 1
    ∧ start.addDays? 1 = some next
    ∧ (evaluate ctx (.call "DATELIST" [a, b])).chars = start.date.isoText
    ∧ (evaluate ctx (.call "DATELIST" [a, b])).chars
      ≠ Text.join [';'] [start.date.isoText, next.date.isoText]
  := by
  intro ctx a b start next stop
  have hlist : (evaluate ctx (.call "DATELIST" [a, b])).chars = start.date.isoText := by
    have hregistry : ctx.registry = .builtin := rfl
    rw [evaluate_call hregistry "DATELIST" Library.dateList rfl]
    decide +kernel
  refine ⟨by decide +kernel, by decide +kernel, by decide, by decide, by decide, hlist, ?_⟩
  rw [hlist]
  decide +kernel

end Expr

end FieldFormula
