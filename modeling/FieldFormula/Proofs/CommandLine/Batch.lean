import FieldFormula.CommandLine
import FieldFormula.Proofs.Csv.Texts
import FieldFormula.Proofs.Evaluation.Calculation
import FieldFormula.Proofs.Evaluation.Fields
import Mathlib.Data.List.Induction
import Mathlib.Data.Set.List

/-!
# Batches

A batch reads a table and writes a table.  The table that is written has one more column with the
results, and it ends in front of the first row that has another length than the titles.

* `exists_readTable_encode`: the bytes of a text hold a table.
* `readTable_writeTable`: a written table is read back.
* `FieldMap.get?_ofPairs`: of values that are set for one name, the last one counts.
* `batchRows_cons_of_eq`, `batchRows_cons_of_ne`: what a batch does with one record.
* `exists_batchRows_append`: what it does with all records of the expected length.
* `runCommand_batch`: what the command does.
-/

namespace FieldFormula

/-! ### Field maps -/

/-- Of values that are set for one name, the last one counts. -/
theorem FieldMap.get?_ofPairs (pairs : List (String × String)) (name : String) :
  (ofPairs pairs).get? name = pairs.reverse.lookup name
  := by
  induction pairs using List.reverseRecOn with
  | nil => rfl
  | append_singleton pairs pair ih =>
    obtain ⟨other, value⟩ := pair
    have hinsert : ofPairs (pairs ++ [(other, value)]) = (ofPairs pairs).insert other value := by
      rw [ofPairs, List.foldl_append]
      rfl
    rw [hinsert, List.reverse_append, List.reverse_singleton, List.singleton_append,
      List.lookup_cons]
    by_cases h : name = other
    · rw [h, get?_insert_self, beq_self_eq_true]
    · rw [get?_insert_of_ne _ h, ih, beq_eq_false_iff_ne.mpr h]

namespace CommandLine

open Csv

/-! ### Tables -/

/-- The fields of a row. -/
def fieldsOfRow (row : List String) : List Field :=
  row.map fun s => Text.encode s.toList

/-- The rows that bytes hold. -/
def readTable (s : List UInt8) : Except RecordFault (List (List String)) :=
  (records s).mapM fun r => texts r.fields

/-- The bytes of rows. -/
def writeTable (rows : List (List String)) : List UInt8 :=
  render (rows.map fieldsOfRow)

theorem textsFrom_fieldsOfRow (number : Nat) (row : List String) :
  textsFrom number (fieldsOfRow row) = .ok row
  := by
  induction row generalizing number with
  | nil => rfl
  | cons s row ih =>
    rw [fieldsOfRow, List.map_cons, textsFrom, Text.decode_encode, ← fieldsOfRow, ih]
    simp [Except.map]

/-- Records with the fields of rows are read as the rows. -/
theorem mapM_texts {rs : List Record} {rows : List (List String)}
    (h : rs.map (·.fields) = rows.map fieldsOfRow) :
  (rs.mapM fun r => texts r.fields) = .ok rows
  := by
  induction rs generalizing rows with
  | nil =>
    rw [List.map_nil, eq_comm, List.map_eq_nil_iff] at h
    rw [h]
    rfl
  | cons r rs ih =>
    cases rows with
    | nil => contradiction
    | cons row rows =>
      rw [List.map_cons, List.map_cons, List.cons.injEq] at h
      obtain ⟨hr, hrs⟩ := h
      rw [List.mapM_cons, hr, texts, textsFrom_fieldsOfRow, ih hrs]
      rfl

/-- Fields that are texts are those of a row. -/
theorem exists_eq_fieldsOfRow {fs : List Field} (h : ∀ f ∈ fs, IsText f) :
  ∃ row, fs = fieldsOfRow row
  := by
  have hrange : fs ∈ Set.range (List.map fun s : String => Text.encode s.toList) := by
    rw [Set.range_list_map]
    intro f hf
    obtain ⟨t, rfl⟩ := h f hf
    use String.ofList t
    simp only [String.toList_ofList]
  obtain ⟨row, hrow⟩ := hrange
  use row, hrow.symm

/-- The records of a text have the fields of rows. -/
theorem exists_map_fields_records (s : List Char) :
  ∃ rows : List (List String),
    (records (Text.encode s)).map (·.fields) = rows.map fieldsOfRow
  := by
  have hrange : (records (Text.encode s)).map (·.fields) ∈ Set.range (List.map fieldsOfRow) := by
    rw [Set.range_list_map]
    intro fs hfs
    obtain ⟨r, hr, rfl⟩ := List.mem_map.mp hfs
    obtain ⟨row, hrow⟩ := exists_eq_fieldsOfRow (isText_of_mem_records_encode s r hr)
    use row, hrow.symm
  obtain ⟨rows, hrows⟩ := hrange
  use rows, hrows.symm

/-- The bytes of a text hold rows, those of its records. -/
theorem exists_readTable_encode (s : List Char) :
  ∃ rows, readTable (Text.encode s) = .ok rows
    ∧ (records (Text.encode s)).map (·.fields) = rows.map fieldsOfRow
  := by
  obtain ⟨rows, hrows⟩ := exists_map_fields_records s
  use rows, mapM_texts hrows

/-- Written rows are read back. -/
theorem readTable_writeTable {rows : List (List String)} (hrows : ∀ row ∈ rows, row ≠ [])
    (hmark : byteOrderMark.isPrefixOf (writeTable rows) = false) :
  readTable (writeTable rows) = .ok rows
  := by
  apply mapM_texts
  apply fields_records_render _ hmark
  intro fs hfs
  obtain ⟨row, hrow, rfl⟩ := List.mem_map.mp hfs
  rw [fieldsOfRow, Ne, List.map_eq_nil_iff]
  apply hrows row hrow

/-! ### Rows -/

/-- The values that a row has for the titles.  Of values for one title, the last one is found. -/
def valuesOfRow (titles row : List String) : FieldMap :=
  (titles.zip row).reverse

/-- The value of a formula in a record is that in its row, with any draw. -/
theorem valueText_recordFields {e : Expr} (he : e.AvoidsRandom .builtin) (draw draw' : Float)
    (titles row : List String) :
  valueText draw e (recordFields titles row) = valueText draw' e (valuesOfRow titles row)
  := by
  apply congrArg Value.chars
  apply Expr.evaluate_congr Registry.hasBuiltinActions_builtin e he
  intro name _
  have hvalue : (recordFields titles row).get? name = (valuesOfRow titles row).get? name :=
    FieldMap.get?_ofPairs (titles.zip row) name
  rw [Context.fieldText, Context.fieldText, Option.bind_some, Option.bind_some, hvalue]

/-- A row with the text of the formula's value behind it. -/
def resultRow (draw : Float) (e : Expr) (titles row : List String) : List String :=
  row ++ [String.ofList (valueText draw e (valuesOfRow titles row))]

/-- Rows with their titles and a column of results. -/
def resultTable (draw : Float) (e : Expr) (column : String) (titles : List String)
    (rows : List (List String)) : List (List String) :=
  (titles ++ [column]) :: rows.map (resultRow draw e titles)

theorem recordTexts_of_fields {r : Record} {row : List String} (h : r.fields = fieldsOfRow row)
    (n : Nat) :
  recordTexts n r = if row.length = n then .ok row else .error (.length n row.length)
  := by
  rw [recordTexts, h, texts, textsFrom_fieldsOfRow, fieldsOfRow, List.length_map]

section

variable {e : Expr} {titles row : List String} {r : Record}

/-- A record of the expected length is written with its result. -/
theorem batchRows_cons_of_eq (he : e.AvoidsRandom .builtin) (draw draw' : Float)
    (hr : r.fields = fieldsOfRow row) (hlength : row.length = titles.length) (number : Nat)
    (rs : List Record) :
  batchRows (valueText draw e) titles number (r :: rs)
    = (fieldsOfRow (resultRow draw' e titles row)
        :: (batchRows (valueText draw e) titles (number + 1) rs).1,
      (batchRows (valueText draw e) titles (number + 1) rs).2)
  := by
  simp only [batchRows, recordTexts_of_fields hr, if_pos hlength]
  rw [valueText_recordFields he draw draw', hr]
  simp [fieldsOfRow, resultRow]

/-- At a record of another length a batch stops. -/
theorem batchRows_cons_of_ne (hr : r.fields = fieldsOfRow row)
    (hlength : row.length ≠ titles.length) (evaluate : FieldMap → List Char) (number : Nat)
    (rs : List Record) :
  batchRows evaluate titles number (r :: rs)
    = ([], some (number, r.position, .length titles.length row.length))
  := by
  rw [batchRows, recordTexts_of_fields hr, if_neg hlength]

end

/-- The records of the expected length are written with their results, and a batch goes on behind
them. -/
theorem exists_batchRows_append {e : Expr} (he : e.AvoidsRandom .builtin) (draw draw' : Float)
    {titles : List String} {before after : List (List String)}
    (hbefore : ∀ row ∈ before, row.length = titles.length) (number : Nat) {rs : List Record}
    (h : rs.map (·.fields) = (before ++ after).map fieldsOfRow) :
  ∃ rs', rs'.map (·.fields) = after.map fieldsOfRow
    ∧ batchRows (valueText draw e) titles number rs
      = ((before.map (resultRow draw' e titles)).map fieldsOfRow
          ++ (batchRows (valueText draw e) titles (number + before.length) rs').1,
        (batchRows (valueText draw e) titles (number + before.length) rs').2)
  := by
  induction before generalizing number rs with
  | nil => exact ⟨rs, h, rfl⟩
  | cons row before ih =>
    cases rs with
    | nil => contradiction
    | cons r rs =>
      rw [List.cons_append, List.map_cons, List.map_cons, List.cons.injEq] at h
      obtain ⟨hlength, hbefore⟩ := List.forall_mem_cons.mp hbefore
      obtain ⟨rs', hafter, hbatch⟩ := ih hbefore (number + 1) h.2
      use rs', hafter
      rw [batchRows_cons_of_eq he draw draw' h.1 hlength, hbatch, List.length_cons,
        Nat.add_right_comm, Nat.add_assoc]
      rfl

/-! ### The command -/

/-- Rows of fields are printed, or they are written to the file that is given. -/
def Outcome.Writes (o : Outcome) (rows : List (List Field)) : Option String → Prop
  | none => o.output = render rows ∧ o.written = none
  | some path => o.output = [] ∧ o.written = some (path, render rows)

/-- A table is printed, or it is written to the file that is given. -/
def Outcome.Delivers (o : Outcome) (table : List (List String)) : Option String → Prop
  | none => o.output = writeTable table ∧ o.written = none
  | some path => o.output = [] ∧ o.written = some (path, writeTable table)

theorem Outcome.delivers_iff {o : Outcome} {table : List (List String)} {output : Option String} :
  o.Delivers table output ↔ o.Writes (table.map fieldsOfRow) output
  := by
  cases output <;> rfl

section

variable (draw : Float) {w : Workspace} {input : String} {source : Source}
  (output : Option String) (column : String)

theorem readFormula_of_ok {s : String} {e : Expr} (h : Expr.ofSource s = .ok e) :
  readFormula w (.given s) = .ok e
  := by
  simp only [readFormula, readSource, bind, Except.bind, h]
  rfl

theorem exists_readFormula_of_error {s : String} {err : SyntaxError}
    (h : Expr.ofSource s = .error err) :
  ∃ f, readFormula w (.given s) = .error f
  := by
  simp only [readFormula, readSource, bind, Except.bind, h]
  exact ⟨_, rfl⟩

theorem splitHeader_of_fields (input : String) {rs : List Record} {titles : List String}
    {rows : List (List String)}
    (h : rs.map (·.fields) = (titles :: rows).map fieldsOfRow) :
  ∃ rs', splitHeader input rs = .ok (fieldsOfRow titles, titles, rs')
    ∧ rs'.map (·.fields) = rows.map fieldsOfRow
  := by
  cases rs with
  | nil => contradiction
  | cons r rs =>
    rw [List.map_cons, List.map_cons, List.cons.injEq] at h
    use rs
    rw [splitHeader, h.1, texts, textsFrom_fieldsOfRow]
    exact ⟨rfl, h.2⟩

/-- A batch that reads its formula and its input and that may create its output writes the rows in
front of a fault, and it fails when there is one. -/
theorem exists_batch_writes {e : Expr} (he : readFormula w source = .ok e) {bytes : List UInt8}
    (hread : w.read input = .ok bytes) (hcreate : ∀ path ∈ output, w.create path = none)
    {titleFields : List Field} {titles : List String} {rs : List Record}
    (hsplit : splitHeader input (records bytes) = .ok (titleFields, titles, rs))
    {rows : List (List Field)} {fault : Option (Nat × Position × RecordFault)}
    (hrows : batchRows (valueText draw e) titles 1 rs = (rows, fault)) :
  ∃ o, batch draw w input source output column = .ok o
    ∧ o.code = (if fault = none then 0 else 1)
    ∧ o.Writes ((titleFields ++ [Text.encode column.toList]) :: rows) output
  := by
  have hrecords : readRecords w input = .ok (records bytes) := by rw [readRecords, hread]
  have hnone : (output.bind fun path => (w.create path).map fun e => (path, e)) = none := by
    cases output with
    | none => rfl
    | some path => rw [Option.bind_some, hcreate path rfl, Option.map_none]
  rw [batch, he, hrecords]
  simp only [bind, Except.bind, hsplit, hnone, hrows]
  cases fault <;> cases output <;> exact ⟨_, rfl, rfl, rfl, rfl⟩

/-- If the rows in front of a fault are rows of texts, they are delivered. -/
theorem exists_batch_eq_ok {e : Expr} (he : readFormula w source = .ok e) {bytes : List UInt8}
    (hread : w.read input = .ok bytes) (hcreate : ∀ path ∈ output, w.create path = none)
    {titles : List String} {rs : List Record}
    (hsplit : splitHeader input (records bytes) = .ok (fieldsOfRow titles, titles, rs))
    {rows : List (List String)} {fault : Option (Nat × Position × RecordFault)}
    (hrows : batchRows (valueText draw e) titles 1 rs = (rows.map fieldsOfRow, fault)) :
  ∃ o, batch draw w input source output column = .ok o
    ∧ o.code = (if fault = none then 0 else 1)
    ∧ o.Delivers ((titles ++ [column]) :: rows) output
  := by
  obtain ⟨o, hbatch, hcode, hwrites⟩ :=
    exists_batch_writes draw output column he hread hcreate hsplit hrows
  use o, hbatch, hcode
  rw [Outcome.delivers_iff, List.map_cons, fieldsOfRow, List.map_append]
  exact hwrites

/-- A batch without a formula or without an input fails before it writes anything. -/
theorem exists_batch_eq_error
    (h : (∃ f, readFormula w source = .error f) ∨ ∃ e, w.read input = .error e) :
  ∃ f, batch draw w input source output column = .error f
  := by
  cases hformula : readFormula w source with
  | error f =>
    use f
    rw [batch, hformula]
    rfl
  | ok e =>
    obtain ⟨f, hf⟩ | ⟨e', he'⟩ := h
    · rw [hformula] at hf
      contradiction
    · obtain ⟨f, hf⟩ : ∃ f, readRecords w input = .error f := by
        rw [readRecords, he']
        cases e' <;> exact ⟨_, rfl⟩
      use f
      rw [batch, hformula, hf]
      rfl

end

/-- With a formula that calls no random numbers, a batch reads the rows of a text.  When all rows
have the length of the titles, it succeeds and delivers the titles with the column and each row with
the text of its value, for which the last value of a title counts.  It fails at the first row of
another length, when it has delivered the rows in front of it.  What it delivers is read back, where
it does not begin with the bytes of a byte order mark, which reading passes over.  Without a formula
or an input, a batch fails and creates no file.  A file that it creates is taken to be another one
than its input. -/
theorem runCommand_batch (draw : Float) (w : Workspace) (input : String) (source : Source)
    (output : Option String) (column : String) :
  let outcome := runCommand draw w (.batch input source output column)
  (∀ e s, readFormula w source = .ok e → e.AvoidsRandom .builtin →
      w.read input = .ok (Text.encode s) → (∀ path ∈ output, w.create path = none) →
      ∃ table, readTable (Text.encode s) = .ok table
        ∧ ∀ titles rows, table = titles :: rows → ∀ draw',
          let result := resultTable draw' e column titles
          ((∀ row ∈ rows, row.length = titles.length) →
              outcome.code = 0 ∧ outcome.Delivers (result rows) output)
            ∧ (∀ before row after, rows = before ++ row :: after →
              (∀ r ∈ before, r.length = titles.length) → row.length ≠ titles.length →
              outcome.code = 1 ∧ outcome.Delivers (result before) output)
            ∧ ∀ rows', byteOrderMark.isPrefixOf (writeTable (result rows')) = false →
              readTable (writeTable (result rows')) = .ok (result rows'))
    ∧ ((∃ f, readFormula w source = .error f) ∨ (∃ e, w.read input = .error e) →
      outcome.code = 1 ∧ outcome.output = [] ∧ outcome.written = none)
  := by
  intro outcome
  have houtcome : outcome = .ofExcept (batch draw w input source output column) := rfl
  constructor
  · intro e s hformula he hread hcreate
    obtain ⟨table, htable, hfields⟩ := exists_readTable_encode s
    use table, htable
    rintro titles rows rfl draw' result
    obtain ⟨rs, hsplit, hrs⟩ := splitHeader_of_fields input hfields
    refine ⟨?succeeds, ?fails, ?back⟩
    case succeeds =>
      intro hlength
      rw [← List.append_nil rows] at hrs
      obtain ⟨rs', hnil, hrows⟩ := exists_batchRows_append he draw draw' hlength 1 hrs
      rw [List.map_nil, List.map_eq_nil_iff] at hnil
      rw [hnil, batchRows, List.append_nil] at hrows
      obtain ⟨o, hbatch, hcode, hdelivers⟩ :=
        exists_batch_eq_ok draw output column hformula hread hcreate hsplit hrows
      rw [houtcome, hbatch]
      use hcode, hdelivers
    case fails =>
      rintro before row after rfl hlength hrow
      obtain ⟨rs', hafter, hrows⟩ := exists_batchRows_append he draw draw' hlength 1 hrs
      cases rs' with
      | nil => contradiction
      | cons r rs' =>
        rw [List.map_cons, List.map_cons, List.cons.injEq] at hafter
        rw [batchRows_cons_of_ne hafter.1 hrow, List.append_nil] at hrows
        obtain ⟨o, hbatch, hcode, hdelivers⟩ :=
          exists_batch_eq_ok draw output column hformula hread hcreate hsplit hrows
        rw [houtcome, hbatch]
        use hcode, hdelivers
    case back =>
      intro rows'
      apply readTable_writeTable
      simp [result, resultTable, resultRow]
  · intro h
    obtain ⟨f, hf⟩ := exists_batch_eq_error draw output column h
    rw [houtcome, hf]
    exact ⟨rfl, rfl, rfl⟩

/-- A text with a repeated title and a comma in quotes, the same text with a record of another
length behind it, and a call that is not closed. -/
theorem runCommand_batch_quoted :
  let whole := "A,A\nx,\"y,z\"\n".toList
  let short := whole ++ "1\n".toList
  let w : Workspace :=
    ⟨fun path => .ok (Text.encode (if path = "whole.csv" then whole else short)), fun _ => none⟩
  let onWhole := runCommand 0.5 w (.batch "whole.csv" (.given "[[A]]") none "B")
  let onShort := runCommand 0.5 w (.batch "short.csv" (.given "[[A]]") (some "out.csv") "B")
  let unclosed := runCommand 0.5 w (.batch "whole.csv" (.given "=UPPERCASE(") (some "out.csv") "B")
  (onWhole.code = 0 ∧ onWhole.output = Text.encode "A,A,B\nx,\"y,z\",\"y,z\"\n".toList
      ∧ readTable onWhole.output = .ok [["A", "A", "B"], ["x", "y,z", "y,z"]])
    ∧ (onShort.code = 1 ∧ onShort.written = some ("out.csv", onWhole.output))
    ∧ unclosed.code = 1 ∧ unclosed.written = none
  := by
  intro whole short w onWhole onShort unclosed
  have hfield : readFormula w (.given "[[A]]") = .ok (.field "A") := by
    have hnext : Token.next '[' "[A]]".toList = (.field "A", []) := rfl
    have htokens := Token.ofChars_cons (c := '[') rfl (by simp) hnext
    rw [Token.ofChars_nil] at htokens
    apply readFormula_of_ok
    apply (congrArg Expr.ofTokens htokens).trans
    apply Expr.ofTokens_singleton (by simp)
  have hunclosed : ∃ f, readFormula w (.given "=UPPERCASE(") = .error f := by
    have hnext : Token.next '=' "UPPERCASE(".toList = (.function "UPPERCASE", ['(']) := rfl
    have htokens := Token.ofChars_cons (c := '=') rfl (by simp) hnext
    rw [Token.ofChars_leftParen, Token.ofChars_nil] at htokens
    apply exists_readFormula_of_error
    apply (congrArg Expr.ofTokens htokens).trans
    apply Expr.ofTokens_eq_run
  have he : Expr.AvoidsRandom .builtin (.field "A") := by simp [Expr.AvoidsRandom, Expr.calls]
  have hwhole : readTable (Text.encode whole) = .ok [["A", "A"], ["x", "y,z"]] := by
    have hwrite : Text.encode whole = writeTable [["A", "A"], ["x", "y,z"]] := by decide +kernel
    rw [hwrite]
    exact readTable_writeTable (by decide) (by decide +kernel)
  have hshort : readTable (Text.encode short) = .ok [["A", "A"], ["x", "y,z"], ["1"]] := by
    have hwrite : Text.encode short = writeTable [["A", "A"], ["x", "y,z"], ["1"]] := by
      decide +kernel
    rw [hwrite]
    exact readTable_writeTable (by decide) (by decide +kernel)
  have hresult : resultTable 0.5 (.field "A") "B" ["A", "A"] [["x", "y,z"]]
      = [["A", "A", "B"], ["x", "y,z", "y,z"]] := by decide +kernel
  have houtput : Text.encode "A,A,B\nx,\"y,z\",\"y,z\"\n".toList
      = writeTable [["A", "A", "B"], ["x", "y,z", "y,z"]] := by decide +kernel
  have hprinted := runCommand_batch 0.5 w "whole.csv" (.given "[[A]]") none "B"
  have hwritten := runCommand_batch 0.5 w "short.csv" (.given "[[A]]") (some "out.csv") "B"
  have hnothing := runCommand_batch 0.5 w "whole.csv" (.given "=UPPERCASE(") (some "out.csv") "B"
  obtain ⟨_, htable, hall⟩ := hprinted.1 _ whole hfield he rfl (by simp)
  obtain ⟨_, htable', hall'⟩ := hwritten.1 _ short hfield he rfl (by simp [w])
  obtain rfl := Except.ok.inj (hwhole.symm.trans htable)
  obtain rfl := Except.ok.inj (hshort.symm.trans htable')
  obtain ⟨hsucceeds, -, hback⟩ := hall _ _ rfl 0.5
  obtain ⟨-, hfails, -⟩ := hall' _ _ rfl 0.5
  obtain ⟨hcode, hdelivers, -⟩ := hsucceeds (by decide)
  obtain ⟨hcode', -, hdelivers'⟩ := hfails [["x", "y,z"]] ["1"] [] rfl (by decide) (by decide)
  have hread := hback [["x", "y,z"]] (by rw [hresult]; decide +kernel)
  rw [hresult] at hdelivers hdelivers' hread
  refine ⟨⟨hcode, hdelivers.trans houtput.symm, ?_⟩, ⟨hcode', ?_⟩, ?_⟩
  · rw [hdelivers, hread]
  · rw [hdelivers', hdelivers]
  · obtain ⟨hcode'', -, hnone⟩ := hnothing.2 (.inl hunclosed)
    exact ⟨hcode'', hnone⟩

end CommandLine

end FieldFormula
