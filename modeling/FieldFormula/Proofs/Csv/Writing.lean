import FieldFormula.Csv.Reading
import Mathlib.Tactic.Use

/-!
# Reading written records

Written records are read back.  A field that stands without quotes holds no byte with a meaning of
its own, so each of its bytes is added to the field that is read.  In a field in quotes all bytes
are added, and a quote that is written twice is added once.  A record never leaves its line empty,
so it is not skipped.

* `exists_readFields_append`: bytes without a meaning of their own.
* `exists_readFields_renderField`, `exists_readFields_renderFields`: written fields.
* `readRecord?_renderRecord`: a written record.
* `fields_recordsAt_render`: written records.
-/

namespace FieldFormula.Csv

/-! ### Single bytes -/

/-- Whether a byte has a meaning of its own outside of quotes. -/
def isSpecial (b : UInt8) : Bool :=
  b == comma || b == quote || endsRecord b

theorem isSpecial_eq_false_iff {b : UInt8} :
  isSpecial b = false ↔ b ≠ comma ∧ b ≠ quote ∧ endsRecord b = false
  := by
  simp [isSpecial, and_assoc]

theorem readFields_cons {b : UInt8} (hb : endsRecord b = false) (p : Progress)
    (s : List UInt8) :
  readFields p (b :: s) = readFields (p.next b) s
  := by
  have hinside : p.isEndedBy b = false := by rw [Progress.isEndedBy, hb, Bool.and_false]
  rw [readFields, hinside]
  rfl

/-- A byte without a meaning of its own is added to the field. -/
theorem readFields_cons_of_plain (p : Progress) {b : UInt8} (hb : isSpecial b = false)
    (s : List UInt8) :
  readFields p (b :: s)
    = readFields (p.add (if p.phase = .quoted then .quoted else .plain) b) s
  := by
  obtain ⟨hcomma, hquote, hends⟩ := isSpecial_eq_false_iff.mp hb
  rw [readFields_cons hends, Progress.next]
  by_cases hphase : p.phase = .quoted <;> simp [hphase, hcomma, hquote]

/-- A comma ends the field outside of quotes. -/
theorem readFields_comma {p : Progress} (hp : p.phase ≠ .quoted) (s : List UInt8) :
  readFields p (comma :: s)
    = readFields ⟨.front, [], p.field.reverse :: p.fields, comma :: p.passed⟩ s
  := by
  have hquote : comma ≠ quote := by decide
  rw [readFields_cons rfl, Progress.next]
  simp [hp, hquote]

/-- A quote opens a quoted part at the front of a field. -/
theorem readFields_of_front {p : Progress} (hp : p.phase = .front) (s : List UInt8) :
  readFields p (quote :: s) = readFields (p.turn .quoted quote) s
  := by
  rw [readFields_cons rfl, Progress.next]
  simp [hp]

/-- A quote behind a quote is a byte of the field. -/
theorem readFields_of_behindQuote {p : Progress} (hp : p.phase = .behindQuote) (s : List UInt8) :
  readFields p (quote :: s) = readFields (p.add .quoted quote) s
  := by
  rw [readFields_cons rfl, Progress.next]
  simp [hp]

/-- In a quoted part only a quote has a meaning of its own. -/
theorem readFields_of_quoted {p : Progress} (hp : p.phase = .quoted) (b : UInt8)
    (s : List UInt8) :
  readFields p (b :: s)
    = readFields (if b = quote then p.turn .behindQuote b else p.add .quoted b) s
  := by
  have hinside : p.isEndedBy b = false := by rw [Progress.isEndedBy, hp]; rfl
  rw [readFields, hinside, Progress.next, if_pos hp]
  rfl

/-- A line feed ends the record outside of quotes. -/
theorem readFields_lineFeed {p : Progress} (hp : p.phase ≠ .quoted) (s : List UInt8) :
  readFields p (lineFeed :: s) = ⟨p.result, (lineFeed :: p.passed).reverse, s⟩
  := by
  have hends : p.isEndedBy lineFeed = true := by
    rw [Progress.isEndedBy, show endsRecord lineFeed = true from rfl, Bool.and_true]
    simpa using hp
  rw [readFields, hends]
  rfl

/-! ### Fields -/

/-- Bytes without a meaning of their own are added to the field. -/
theorem exists_readFields_append (p : Progress) {t : List UInt8}
    (ht : ∀ b ∈ t, isSpecial b = false) (s : List UInt8) :
  ∃ q, readFields p (t ++ s) = readFields q s
    ∧ (q.phase = .quoted ↔ p.phase = .quoted)
    ∧ q.field = t.reverse ++ p.field ∧ q.fields = p.fields
  := by
  induction t generalizing p with
  | nil => use p, rfl, Iff.rfl, rfl
  | cons b t ih =>
    obtain ⟨hb, ht⟩ := List.forall_mem_cons.mp ht
    obtain ⟨q, hq, hphase, hfield, hfields⟩ :=
      ih (p.add (if p.phase = .quoted then .quoted else .plain) b) ht
    use q
    rw [List.cons_append, readFields_cons_of_plain p hb, hq, hphase, hfield, hfields]
    refine ⟨rfl, ?_, by simp [Progress.add], rfl⟩
    by_cases h : p.phase = .quoted <;> simp [Progress.add, h]

/-- The bytes between the quotes of a field are added to it, a quote once. -/
theorem exists_readFields_doubled {p : Progress} (hp : p.phase = .quoted) (f s : List UInt8) :
  ∃ q, readFields p (f.flatMap (fun b => if b = quote then [quote, quote] else [b]) ++ s)
      = readFields q s
    ∧ q.phase = .quoted ∧ q.field = f.reverse ++ p.field ∧ q.fields = p.fields
  := by
  induction f generalizing p with
  | nil => use p, rfl, hp, rfl
  | cons b f ih =>
    rw [List.flatMap_cons, List.append_assoc]
    by_cases hb : b = quote
    · subst hb
      obtain ⟨q, hq, hphase, hfield, hfields⟩ :=
        @ih ((p.turn .behindQuote quote).add .quoted quote) rfl
      use q
      rw [if_pos rfl, List.cons_append, List.singleton_append, readFields_of_quoted hp,
        if_pos rfl, readFields_of_behindQuote rfl, hq, hphase, hfield, hfields]
      exact ⟨rfl, rfl, by simp [Progress.add, Progress.turn], rfl⟩
    · obtain ⟨q, hq, hphase, hfield, hfields⟩ := @ih (p.add .quoted b) rfl
      use q
      rw [if_neg hb, List.singleton_append, readFields_of_quoted hp, if_neg hb, hq, hphase, hfield,
        hfields]
      exact ⟨rfl, rfl, by simp [Progress.add], rfl⟩

/-- A field in quotes is read. -/
theorem exists_readFields_quoted {p : Progress} (hp : p.phase = .front) (hfield : p.field = [])
    (f : Field) (s : List UInt8) :
  ∃ q, readFields p (quoted f ++ s) = readFields q s
    ∧ q.phase ≠ .quoted ∧ q.field = f.reverse ∧ q.fields = p.fields
  := by
  obtain ⟨q, hq, hphase, hqfield, hfields⟩ :=
    @exists_readFields_doubled (p.turn .quoted quote) rfl f (quote :: s)
  use q.turn .behindQuote quote
  rw [quoted, List.append_assoc, List.cons_append, List.singleton_append, readFields_of_front hp,
    hq, readFields_of_quoted hphase, if_pos rfl]
  refine ⟨rfl, by simp [Progress.turn], ?_, hfields⟩
  rw [Progress.turn, hqfield, Progress.turn, hfield, List.append_nil]

theorem isSpecial_of_needsQuotes {f : Field} (h : needsQuotes f = false) :
  ∀ b ∈ f, isSpecial b = false
  := by
  intro b hb
  simpa [isSpecial] using List.any_eq_false.mp h b hb

/-- A written field is read. -/
theorem exists_readFields_renderField {p : Progress} (hp : p.phase = .front)
    (hfield : p.field = []) (f : Field) (s : List UInt8) :
  ∃ q, readFields p (renderField f ++ s) = readFields q s
    ∧ q.phase ≠ .quoted ∧ q.field = f.reverse ∧ q.fields = p.fields
  := by
  rw [renderField]
  split
  · apply exists_readFields_quoted hp hfield
  · next h =>
    have hplain := isSpecial_of_needsQuotes (Bool.not_eq_true _ ▸ h)
    obtain ⟨q, hq, hphase, hqfield, hfields⟩ := exists_readFields_append p hplain s
    use q, hq
    rw [Ne, hphase, hp, hqfield, hfield, List.append_nil]
    exact ⟨by simp, rfl, hfields⟩

/-! ### Records -/

/-- Written fields are read up to the end of their line. -/
theorem readFields_renderFields {p : Progress} (hp : p.phase = .front) (hfield : p.field = [])
    {fs : List Field} (hfs : fs ≠ []) (s : List UInt8) :
  ∃ passed, readFields p (renderFields fs ++ lineFeed :: s)
    = ⟨p.fields.reverse ++ fs, passed, s⟩
  := by
  fun_induction renderFields fs generalizing p with
  | case1 => contradiction
  | case2 f =>
    obtain ⟨q, hq, hphase, hqfield, hfields⟩ :=
      exists_readFields_renderField hp hfield f (lineFeed :: s)
    rw [hq, readFields_lineFeed hphase, Progress.result, hqfield, hfields]
    simp
  | case3 f g fs ih =>
    obtain ⟨q, hq, hphase, hqfield, hfields⟩ :=
      exists_readFields_renderField hp hfield f (comma :: (renderFields (g :: fs) ++ lineFeed :: s))
    obtain ⟨passed, hrest⟩ :=
      @ih ⟨.front, [], q.field.reverse :: q.fields, comma :: q.passed⟩ rfl rfl
        (List.cons_ne_nil g fs)
    use passed
    rw [List.append_assoc, List.cons_append, hq, readFields_comma hphase, hrest, hqfield, hfields]
    simp

theorem endsRecord_of_head?_renderField {f : Field} {b : UInt8}
    (h : (renderField f).head? = some b) :
  endsRecord b = false
  := by
  rw [renderField] at h
  split at h
  · rw [← Option.some.inj h]
    rfl
  · next hf =>
    have hplain := isSpecial_of_needsQuotes (Bool.not_eq_true _ ▸ hf) b (List.mem_of_head? h)
    exact (isSpecial_eq_false_iff.mp hplain).2.2

/-- No written fields begin with the end of a line. -/
theorem endsRecord_of_head?_renderFields {fs : List Field} {b : UInt8}
    (h : (renderFields fs).head? = some b) :
  endsRecord b = false
  := by
  fun_cases renderFields fs with
  | case1 => contradiction
  | case2 f => exact endsRecord_of_head?_renderField h
  | case3 f g fs =>
    rw [renderFields, List.head?_append] at h
    obtain hfront | ⟨-, hcomma⟩ := Option.or_eq_some_iff.mp h
    · exact endsRecord_of_head?_renderField hfront
    · rw [← Option.some.inj hcomma]
      rfl

theorem eq_singleton_nil_of_renderFields {fs : List Field} (hfs : fs ≠ [])
    (h : renderFields fs = []) :
  fs = [[]]
  := by
  fun_cases renderFields fs with
  | case1 => contradiction
  | case2 f =>
    rw [renderFields, renderField] at h
    split at h
    · contradiction
    · rw [h]
  | case3 f g fs =>
    rw [renderFields] at h
    simp at h

/-- A written record begins a line that is not empty, and its fields are read. -/
theorem exists_readFields_renderRecord {fs : List Field} (hfs : fs ≠ []) (s : List UInt8) :
  ∃ b line passed, renderRecord fs ++ s = b :: line ∧ endsRecord b = false
    ∧ readFields .start (b :: line) = ⟨fs, passed, s⟩
  := by
  rw [renderRecord]
  cases hline : renderFields fs with
  | nil =>
    obtain rfl := eq_singleton_nil_of_renderFields hfs hline
    use quote, quote :: lineFeed :: s, [quote, quote, lineFeed]
    refine ⟨rfl, rfl, ?_⟩
    rw [readFields_of_front rfl, readFields_of_quoted rfl, if_pos rfl,
      readFields_lineFeed (by simp [Progress.turn])]
    rfl
  | cons b line =>
    obtain ⟨passed, hread⟩ := @readFields_renderFields .start rfl rfl fs hfs s
    rw [hline] at hread
    use b, line ++ lineFeed :: s, passed
    refine ⟨by simp, ?_, hread⟩
    have hhead : (renderFields fs).head? = some b := by rw [hline, List.head?_cons]
    exact endsRecord_of_head?_renderFields hhead

/-- A written record is read, and what follows it is left. -/
theorem readRecord?_renderRecord {fs : List Field} (hfs : fs ≠ []) (s : List UInt8) :
  ∃ passed, readRecord? (renderRecord fs ++ s) = some ⟨fs, passed, s⟩
  := by
  obtain ⟨b, line, passed, hwritten, hb, hread⟩ := exists_readFields_renderRecord hfs s
  use passed
  rw [hwritten, readRecord?, List.dropWhile_cons_of_neg (by simp [hb]),
    List.takeWhile_cons_of_neg (by simp [hb]), hread]
  rfl

/-! ### All records -/

theorem recordsAt_of_eq_none {s : List UInt8} (h : readRecord? s = none) (p : Position) :
  recordsAt p s = []
  := by
  rw [recordsAt]
  split
  · rfl
  · next hc => rw [h] at hc; contradiction

theorem recordsAt_of_eq_some {s : List UInt8} {c : Cut} (h : readRecord? s = some c)
    (p : Position) :
  recordsAt p s = ⟨p, c.fields⟩ :: recordsAt (p.advance c.passed) c.rest
  := by
  rw [recordsAt]
  split
  · next hc => rw [h] at hc; contradiction
  · next hc =>
    rw [h, Option.some.injEq] at hc
    rw [hc]

/-- Written records are read back. -/
theorem fields_recordsAt_render {rs : List (List Field)} (hrs : ∀ fs ∈ rs, fs ≠ [])
    (p : Position) :
  (recordsAt p (render rs)).map (·.fields) = rs
  := by
  induction rs generalizing p with
  | nil =>
    rw [recordsAt_of_eq_none rfl]
    rfl
  | cons fs rs ih =>
    obtain ⟨hfs, hrs⟩ := List.forall_mem_cons.mp hrs
    obtain ⟨passed, hread⟩ := readRecord?_renderRecord hfs (render rs)
    rw [render, List.flatMap_cons, ← render, recordsAt_of_eq_some hread, List.map_cons, ih hrs]

/-- Written records that do not begin like a byte order mark are read back. -/
theorem fields_records_render {rs : List (List Field)} (hrs : ∀ fs ∈ rs, fs ≠ [])
    (hmark : byteOrderMark.isPrefixOf (render rs) = false) :
  (records (render rs)).map (·.fields) = rs
  := by
  rw [records, hmark]
  exact fields_recordsAt_render hrs ⟨0, 1, 0⟩

end FieldFormula.Csv
