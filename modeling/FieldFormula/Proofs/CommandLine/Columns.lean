import FieldFormula.Proofs.Calendar.TimeShape
import FieldFormula.Proofs.CommandLine.Batch
import FieldFormula.Proofs.Expr.Fields

/-!
# Columns and the blanks around their titles

The names of the fields in a formula have no blanks at their ends.  So a field finds no column whose
title has some, and it may find another column, or one more, when the titles are cut off at the
blanks around them.

* `Expr.trimmed_of_mem_fields`: the names of fields have no blanks at their ends.
* `get?_valuesOfRow_append`: the value that a name finds in a row.
* `FindsLast`: the last title that is a name between blanks is the name.
* `rowText_map_trimmed`: then a formula has the same text with the blanks and without them.
* `forall_rowText_field_eq_iff`: a formula that is one field has it in all rows only then.
-/

namespace FieldFormula

/-! ### Names without blanks at their ends -/

theorem Text.trim_trim (s : List Char) :
  trim (trim s) = trim s
  := by
  apply trim_eq_self
  · intro c hc
    have hprefix : trim s <+: trimStart s := by
      rw [trim, trimEnd, ← List.reverse_suffix, List.reverse_reverse]
      apply List.dropWhile_suffix
    obtain ⟨t, ht⟩ := hprefix
    apply Calendar.Scanner.isBlank_head?_trimStart s c
    rw [← ht, List.head?_append, Option.mem_def.mp hc]
    rfl
  · apply Calendar.isBlank_getLast?_trim

/-- A name without the blanks at its ends. -/
def trimmed (name : String) : String :=
  String.ofList (Text.trim name.toList)

theorem trimmed_ofList_trim (s : List Char) :
  trimmed (String.ofList (Text.trim s)) = String.ofList (Text.trim s)
  := by
  rw [trimmed, String.toList_ofList, Text.trim_trim]

namespace Token

theorem fieldName?_ofRun (s : List Char) :
  (ofRun s).fieldName? = none
  := by
  rw [ofRun]
  split
  · rfl
  · split <;> rfl

/-- The token of a field has a name without blanks at its ends. -/
theorem trimmed_of_next {c : Char} {r : List Char} {name : String}
    (h : (next c r).1.fieldName? = some name) :
  trimmed name = name
  := by
  revert h
  fun_cases next c r with
  | case1 r inner =>
    rw [fieldName?, Option.some.injEq]
    rintro rfl
    apply trimmed_ofList_trim
  | case14 =>
    rw [fieldName?_ofRun]
    simp
  | _ => simp [fieldName?, takeFunction, takeNumber, numberOfChars]

theorem trimmed_of_mem_ofChars (s : List Char) :
  ∀ name ∈ (ofChars s).filterMap fieldName?, trimmed name = name
  := by
  fun_induction ofChars s with
  | case1 => simp
  | case2 s c r _ ih =>
    intro name hname
    rw [List.mem_filterMap] at hname
    obtain ⟨t, ht, hname⟩ := hname
    obtain rfl | ht := List.mem_cons.mp ht
    · apply trimmed_of_next hname
    · exact ih name (List.mem_filterMap.mpr ⟨t, ht, hname⟩)

end Token

/-- The names of the fields of a formula have no blanks at their ends. -/
theorem Expr.trimmed_of_mem_fields {source : String} {e : Expr} (he : ofSource source = .ok e)
    {name : String} (hname : name ∈ e.fields) :
  trimmed name = name
  := by
  rw [fields_eq_filterMap he] at hname
  apply Token.trimmed_of_mem_ofChars _ _ hname

namespace CommandLine

/-! ### Columns that a name finds -/

/-- Of the titles that are the name between blanks, the last one is the name. -/
def FindsLast (titles : List String) (name : String) : Prop :=
  ∀ before title after, titles = before ++ title :: after → trimmed title = name →
    (∀ t ∈ after, trimmed t ≠ name) → title = name

theorem get?_valuesOfRow_eq_none {titles : List String} {name : String} (h : name ∉ titles)
    (row : List String) :
  (valuesOfRow titles row).get? name = none
  := by
  rw [FieldMap.get?, List.lookup_eq_none_iff]
  intro p hp
  rw [valuesOfRow, List.mem_reverse] at hp
  rw [bne_iff_ne]
  rintro rfl
  exact h (List.of_mem_zip hp).1

/-- If no title of a name stands behind a column, the value in this column is found, or those in
front of it. -/
theorem get?_valuesOfRow_append {before after : List String} {title name : String}
    (hafter : name ∉ after) {values : List String} (hlength : before.length = values.length)
    (value : String) (rest : List String) :
  (valuesOfRow (before ++ title :: after) (values ++ value :: rest)).get? name
    = if title = name then some value else (valuesOfRow before values).get? name
  := by
  have hnone := get?_valuesOfRow_eq_none hafter rest
  rw [FieldMap.get?, valuesOfRow] at hnone
  rw [valuesOfRow, List.zip_append hlength, List.zip_cons_cons, List.reverse_append,
    List.reverse_cons, List.append_assoc, FieldMap.get?, List.lookup_append, hnone, Option.none_or,
    List.singleton_append, List.lookup_cons]
  split
  · next h => rw [if_pos (eq_of_beq h).symm]
  · next h =>
    rw [if_neg (Ne.symm (ne_of_beq_false h))]
    rfl

theorem exists_eq_append_cons {before after : List String} {title : String} {row : List String}
    (hlength : row.length = (before ++ title :: after).length) :
  ∃ values value rest, row = values ++ value :: rest ∧ before.length = values.length
  := by
  rw [List.length_append, List.length_cons] at hlength
  have hlt : before.length < row.length := by omega
  use row.take before.length, row[before.length], row.drop (before.length + 1)
  constructor
  · rw [← List.drop_eq_getElem_cons hlt, List.take_append_drop]
  · rw [List.length_take, Nat.min_eq_left hlt.le]

/-- Of the titles that are a name between blanks, there is a last one. -/
theorem exists_last_of_mem_map {titles : List String} {name : String}
    (h : name ∈ titles.map trimmed) :
  ∃ before title after, titles = before ++ title :: after ∧ trimmed title = name
    ∧ ∀ t ∈ after, trimmed t ≠ name
  := by
  induction titles using List.reverseRecOn with
  | nil => contradiction
  | append_singleton titles title ih =>
    by_cases htitle : trimmed title = name
    · exact ⟨titles, title, [], rfl, htitle, by simp⟩
    · rw [List.map_append, List.mem_append, List.map_singleton, List.mem_singleton,
        or_iff_left (Ne.symm htitle)] at h
      obtain ⟨before, last, after, rfl, hlast, hafter⟩ := ih h
      refine ⟨before, last, after ++ [title], by simp, hlast, ?_⟩
      rw [List.forall_mem_append, List.forall_mem_singleton]
      exact ⟨hafter, htitle⟩

section

variable {titles : List String} {name : String} (hname : trimmed name = name)

include hname

theorem notMem_of_forall_trimmed (h : ∀ t ∈ titles, trimmed t ≠ name) :
  name ∉ titles ∧ name ∉ titles.map trimmed
  := by
  constructor
  · intro hmem
    exact h name hmem hname
  · rw [List.mem_map, not_exists]
    rintro t ⟨ht, heq⟩
    exact h t ht heq

/-- If the last title that is a name between blanks is the name, then the name finds the same value
with the blanks and without them. -/
theorem get?_valuesOfRow_map_trimmed (hlast : FindsLast titles name) {row : List String}
    (hlength : row.length = titles.length) :
  (valuesOfRow (titles.map trimmed) row).get? name = (valuesOfRow titles row).get? name
  := by
  by_cases hmem : name ∈ titles.map trimmed
  · obtain ⟨before, title, after, rfl, htitle, hafter⟩ := exists_last_of_mem_map hmem
    obtain ⟨values, value, rest, rfl, hvalues⟩ := exists_eq_append_cons hlength
    obtain ⟨hnot, hnot'⟩ := notMem_of_forall_trimmed hname hafter
    have hvalues' : (before.map trimmed).length = values.length := by rwa [List.length_map]
    rw [List.map_append, List.map_cons, get?_valuesOfRow_append hnot' hvalues',
      get?_valuesOfRow_append hnot hvalues, if_pos htitle, if_pos (hlast _ _ _ rfl htitle hafter)]
  · have hall : ∀ t ∈ titles, trimmed t ≠ name := by
      rintro t ht rfl
      exact hmem (List.mem_map_of_mem ht)
    obtain ⟨hnot, hnot'⟩ := notMem_of_forall_trimmed hname hall
    rw [get?_valuesOfRow_eq_none hnot, get?_valuesOfRow_eq_none hnot']

/-- If the last title that is a name between blanks is another one, then in some row the name finds
a value without the blanks, and with them another one or none. -/
theorem exists_get?_valuesOfRow_ne (hlast : ¬ FindsLast titles name) :
  ∃ row, row.length = titles.length
    ∧ (valuesOfRow (titles.map trimmed) row).get? name = some "x"
    ∧ ∀ value, (valuesOfRow titles row).get? name = some value → value = ""
  := by
  simp only [FindsLast, not_forall] at hlast
  obtain ⟨before, title, after, rfl, htitle, hafter, hne⟩ := hlast
  obtain ⟨hnot, hnot'⟩ := notMem_of_forall_trimmed hname hafter
  let values := List.replicate before.length ""
  have hvalues : before.length = values.length := by rw [List.length_replicate]
  have hvalues' : (before.map trimmed).length = values.length := by rwa [List.length_map]
  -- the row is empty but for the column that is found without the blanks
  use values ++ "x" :: List.replicate after.length ""
  refine ⟨?_, ?_, ?_⟩
  · simp [values]
  · rw [List.map_append, List.map_cons, get?_valuesOfRow_append hnot' hvalues', if_pos htitle]
  · intro value hvalue
    rw [get?_valuesOfRow_append hnot hvalues, if_neg hne, FieldMap.get?, List.lookup_eq_some_iff]
      at hvalue
    obtain ⟨front, back, hsplit, -⟩ := hvalue
    have hmem : (name, value) ∈ before.zip values := by
      rw [← List.mem_reverse, ← valuesOfRow, hsplit]
      simp
    exact List.eq_of_mem_replicate (List.of_mem_zip hmem).2

end

/-! ### Texts in a row -/

/-- The text of a formula's value in a row. -/
def rowText (draw : Float) (e : Expr) (titles row : List String) : String :=
  String.ofList (valueText draw e (valuesOfRow titles row))

theorem rowText_field (draw : Float) (name : String) (titles row : List String) :
  rowText draw (.field name) titles row
    = ((valuesOfRow titles row).get? name).getD (Context.echo name)
  := by
  simp [rowText, valueText, Expr.evaluate, Context.fieldText, Value.chars, Value.toText]

/-- A formula has the same text in a row with the blanks and without them if each of its fields
finds the last column that is its name between blanks. -/
theorem rowText_map_trimmed {e : Expr} (he : e.AvoidsRandom .builtin) {titles : List String}
    (hfields : ∀ name ∈ e.fields, trimmed name = name ∧ FindsLast titles name)
    (draw draw' : Float) {row : List String} (hlength : row.length = titles.length) :
  rowText draw e (titles.map trimmed) row = rowText draw' e titles row
  := by
  apply congrArg fun v : Value => String.ofList v.chars
  apply Expr.evaluate_congr Registry.hasBuiltinActions_builtin e he
  intro name hname
  obtain ⟨htrimmed, hlast⟩ := hfields name hname
  rw [Context.fieldText, Context.fieldText, Option.bind_some, Option.bind_some,
    get?_valuesOfRow_map_trimmed htrimmed hlast hlength]

/-- The text of a field is the same in all rows with the blanks and without them if and only if the
last title that is its name between blanks is the name. -/
theorem forall_rowText_field_eq_iff (draw : Float) {name : String} (hname : trimmed name = name)
    (titles : List String) :
  (∀ row, row.length = titles.length →
      rowText draw (.field name) (titles.map trimmed) row = rowText draw (.field name) titles row)
    ↔ FindsLast titles name
  := by
  constructor
  · intro h
    by_contra hlast
    obtain ⟨row, hlength, htrimmed, hraw⟩ := exists_get?_valuesOfRow_ne hname hlast
    have heq := h row hlength
    rw [rowText_field, rowText_field, htrimmed, Option.getD_some] at heq
    cases hvalue : (valuesOfRow titles row).get? name with
    | none =>
      -- the name in brackets stands for a value, and it is not the value
      rw [hvalue, Option.getD_none, Context.echo] at heq
      have hchars := congrArg (fun s : String => s.toList.head?) heq
      simp at hchars
    | some value =>
      rw [hvalue, Option.getD_some, hraw value hvalue] at heq
      contradiction
  · intro hlast row hlength
    rw [rowText_field, rowText_field, get?_valuesOfRow_map_trimmed hname hlast hlength]

end CommandLine

end FieldFormula
