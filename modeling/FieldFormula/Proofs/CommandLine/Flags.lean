import FieldFormula.Proofs.CommandLine.Columns
import FieldFormula.Proofs.Evaluation.Echo

/-!
# Records as arguments

A record can be given field by field, as arguments that set one field each.  The names that they set
are cut off at the blanks around them, where a batch takes the titles of the columns as they stand.
So the text of a formula is that in the same row, but of titles without the blanks.

* `fieldOf_flag`, `mapM_fieldOf_zipWith_flag`: the arguments of a record are read.
* `exists_batchRows_of_recordTexts`: a batch writes a row for each record that is read.
* `eval_flags`: what is printed for the arguments of a record.
* `exists_batch_record`: what a batch writes for a record.
* `runCommand_eval_batch`: when this is the same.
-/

namespace FieldFormula.CommandLine

open Csv

/-! ### Arguments -/

/-- The argument that sets a field. -/
def flag (name value : String) : String :=
  name ++ "=" ++ value

/-- An argument is split at its first equals sign. -/
theorem fieldOf_flag {name : String} (hname : '=' ∉ name.toList) (value : String) :
  fieldOf (flag name value) = .ok (trimmed name, value)
  := by
  have hchars : (flag name value).toList = name.toList ++ '=' :: value.toList := by
    simp [flag]
  have hne : ∀ c ∈ name.toList, (c != '=') = true := by
    intro c hc
    rw [bne_iff_ne]
    rintro rfl
    exact hname hc
  rw [fieldOf, hchars, List.span_eq_takeWhile_dropWhile, List.takeWhile_append_of_pos hne,
    List.dropWhile_append_of_pos hne]
  simp [trimmed]

theorem mapM_fieldOf_zipWith_flag {titles : List String} (htitles : ∀ t ∈ titles, '=' ∉ t.toList)
    (row : List String) :
  (List.zipWith flag titles row).mapM fieldOf = .ok ((titles.map trimmed).zip row)
  := by
  induction titles generalizing row with
  | nil => rfl
  | cons title titles ih =>
    rw [List.forall_mem_cons] at htitles
    cases row with
    | nil => rfl
    | cons value row =>
      rw [List.zipWith_cons_cons, List.mapM_cons, fieldOf_flag htitles.1, ih htitles.2]
      rfl

/-! ### Records -/

theorem length_of_textsFrom {number : Nat} {fs : List Field} {row : List String}
    (h : textsFrom number fs = .ok row) :
  row.length = fs.length
  := by
  induction fs generalizing number row with
  | nil =>
    obtain rfl := Except.ok.inj h
    rfl
  | cons f fs ih =>
    rw [textsFrom] at h
    split at h
    · cases hrest : textsFrom (number + 1) fs with
      | error e =>
        rw [hrest] at h
        contradiction
      | ok rest =>
        rw [hrest] at h
        obtain rfl := Except.ok.inj h
        rw [List.length_cons, List.length_cons, ih hrest]
    · contradiction

theorem length_of_recordTexts {n : Nat} {r : Record} {row : List String}
    (h : recordTexts n r = .ok row) :
  row.length = n
  := by
  rw [recordTexts] at h
  split at h
  · next hlength => rw [length_of_textsFrom h, hlength]
  · contradiction

section

variable {titles : List String} (evaluate : FieldMap → List Char) (number : Nat)

/-- A record that is read is written with its result, and a batch goes on behind it. -/
theorem batchRows_cons_of_recordTexts {r : Record} {row : List String}
    (h : recordTexts titles.length r = .ok row) (rs : List Record) :
  batchRows evaluate titles number (r :: rs)
    = ((r.fields ++ [Text.encode (evaluate (recordFields titles row))])
        :: (batchRows evaluate titles (number + 1) rs).1,
      (batchRows evaluate titles (number + 1) rs).2)
  := by
  simp only [batchRows, h]

/-- A batch goes on behind the records that are read, with one row for each of them. -/
theorem exists_batchRows_of_recordTexts {before : List Record}
    (hbefore : ∀ b ∈ before, ∃ row, recordTexts titles.length b = .ok row) (rs : List Record) :
  ∃ rows number', rows.length = before.length
    ∧ batchRows evaluate titles number (before ++ rs)
      = (rows ++ (batchRows evaluate titles number' rs).1,
        (batchRows evaluate titles number' rs).2)
  := by
  induction before generalizing number with
  | nil => exact ⟨[], number, rfl, rfl⟩
  | cons b before ih =>
    obtain ⟨⟨row, hrow⟩, hbefore⟩ := List.forall_mem_cons.mp hbefore
    obtain ⟨rows, number', hlength, hbatch⟩ := ih (number + 1) hbefore
    use (b.fields ++ [Text.encode (evaluate (recordFields titles row))]) :: rows, number'
    constructor
    · rw [List.length_cons, hlength, List.length_cons]
    · rw [List.cons_append, batchRows_cons_of_recordTexts evaluate number hrow, hbatch]
      rfl

end

/-! ### The commands -/

theorem Outcome.output_lines_singleton (l messages : String) :
  (Outcome.lines [l] messages).output = Text.encode (l.toList ++ ['\n'])
  := by
  rw [lines, List.flatMap_singleton]

section

variable {w : Workspace} {source : Source} {e : Expr} (he : readFormula w source = .ok e)

include he

theorem exists_ofSource_of_readFormula :
  ∃ s, Expr.ofSource s = .ok e
  := by
  cases hsource : readSource w source with
  | error f =>
    rw [readFormula, hsource] at he
    contradiction
  | ok s =>
    use s
    rw [readFormula, hsource] at he
    cases hformula : Expr.ofSource s with
    | error err =>
      simp only [bind, Except.bind, hformula] at he
      contradiction
    | ok e' =>
      simp only [bind, Except.bind, hformula] at he
      rw [Except.ok.inj he]

/-- The text of a formula is printed as a line. -/
theorem exists_eval_eq_ok (draw : Float) (fields : List (String × String)) (warn : Bool) :
  ∃ messages, eval draw w source fields none warn
    = .ok (.lines [String.ofList (valueText draw e (.ofPairs fields))] messages)
  := by
  rw [eval, he]
  exact ⟨_, rfl⟩

variable (hrandom : e.AvoidsRandom .builtin)

include hrandom

/-- For the arguments of a record, the text of a formula in the row without the blanks around its
titles is printed. -/
theorem eval_flags {titles : List String} (htitles : ∀ t ∈ titles, '=' ∉ t.toList)
    (row : List String) (draw draw' : Float) (warn : Bool) :
  ∃ fields, (List.zipWith flag titles row).mapM fieldOf = .ok fields
    ∧ (runCommand draw w (.eval source fields none warn)).code = 0
    ∧ (runCommand draw w (.eval source fields none warn)).output
      = Text.encode ((rowText draw' e (titles.map trimmed) row).toList ++ ['\n'])
  := by
  refine ⟨_, mapM_fieldOf_zipWith_flag htitles row, ?_⟩
  obtain ⟨messages, heval⟩ :=
    exists_eval_eq_ok he draw ((titles.map trimmed).zip row) warn
  have htext := valueText_recordFields hrandom draw draw' (titles.map trimmed) row
  rw [recordFields] at htext
  rw [runCommand, heval, htext, ← rowText, Outcome.ofExcept]
  exact ⟨rfl, Outcome.output_lines_singleton _ messages⟩

/-- For a record behind others that are read, the text of a formula in the row is written. -/
theorem exists_batch_record {input : String} {output : Option String} {bytes : List UInt8}
    (hread : w.read input = .ok bytes) (hcreate : ∀ path ∈ output, w.create path = none)
    {header r : Record} {before after : List Record}
    (hrecords : records bytes = header :: (before ++ r :: after)) {titles row : List String}
    (htitles : texts header.fields = .ok titles)
    (hbefore : ∀ b ∈ before, ∃ row, recordTexts titles.length b = .ok row)
    (hrow : recordTexts titles.length r = .ok row) (column : String) (draw draw' : Float) :
  ∃ rows, (runCommand draw w (.batch input source output column)).Writes rows output
    ∧ rows[before.length + 1]?
      = some (r.fields ++ [Text.encode (rowText draw' e titles row).toList])
  := by
  have hsplit : splitHeader input (records bytes)
      = .ok (header.fields, titles, before ++ r :: after) := by
    rw [hrecords, splitHeader, htitles]
  obtain ⟨rows, number, hlength, hrows⟩ :=
    exists_batchRows_of_recordTexts (valueText draw e) 1 hbefore (r :: after)
  obtain ⟨o, hbatch, -, hwrites⟩ :=
    exists_batch_writes draw output column he hread hcreate hsplit hrows
  have houtcome : runCommand draw w (.batch input source output column) = o := by
    rw [runCommand, hbatch]
    rfl
  refine ⟨_, houtcome ▸ hwrites, ?_⟩
  rw [List.getElem?_cons_succ, List.getElem?_append_right hlength.le, hlength, Nat.sub_self,
    batchRows_cons_of_recordTexts _ number hrow, List.getElem?_cons_zero,
    valueText_recordFields hrandom draw draw' titles row, rowText, String.toList_ofList]

end

/-- With a formula that calls no random numbers, the text that is printed for the arguments of a
record is that in the row without the blanks around its titles, and the text that a batch writes for
the record is that in the row as it stands.  They are the same if, for each field of the formula,
the last of the titles that are its name between blanks is the name itself.  For a formula that is
one field, they are the same in all rows only then. -/
theorem runCommand_eval_batch {w : Workspace} {source : Source} {e : Expr}
    (he : readFormula w source = .ok e) (hrandom : e.AvoidsRandom .builtin)
    {input : String} {output : Option String} {bytes : List UInt8}
    (hread : w.read input = .ok bytes) (hcreate : ∀ path ∈ output, w.create path = none)
    {header r : Record} {before after : List Record}
    (hrecords : records bytes = header :: (before ++ r :: after)) {titles row : List String}
    (htitles : texts header.fields = .ok titles)
    (hbefore : ∀ b ∈ before, ∃ row, recordTexts titles.length b = .ok row)
    (hrow : recordTexts titles.length r = .ok row) (hequals : ∀ t ∈ titles, '=' ∉ t.toList)
    (column : String) (warn : Bool) (draw draw' : Float) :
  let printed := rowText draw e (titles.map trimmed) row
  let written := rowText draw e titles row
  (∃ fields, (List.zipWith flag titles row).mapM fieldOf = .ok fields
      ∧ (runCommand draw w (.eval source fields none warn)).code = 0
      ∧ (runCommand draw w (.eval source fields none warn)).output
        = Text.encode (printed.toList ++ ['\n']))
    ∧ (∃ rows, (runCommand draw' w (.batch input source output column)).Writes rows output
      ∧ rows[before.length + 1]? = some (r.fields ++ [Text.encode written.toList]))
    ∧ ((∀ name ∈ e.fields, FindsLast titles name) → printed = written)
    ∧ ∀ name, trimmed name = name →
      ((∀ row, row.length = titles.length →
          rowText draw (.field name) (titles.map trimmed) row
            = rowText draw (.field name) titles row)
        ↔ FindsLast titles name)
  := by
  intro printed written
  refine ⟨?_, ?_, ?_, ?_⟩
  · exact eval_flags he hrandom hequals row draw draw warn
  · exact exists_batch_record he hrandom hread hcreate hrecords htitles hbefore hrow column draw'
      draw
  · intro hfields
    obtain ⟨s, hs⟩ := exists_ofSource_of_readFormula he
    apply rowText_map_trimmed hrandom _ draw draw (length_of_recordTexts hrow)
    exact fun name hname => ⟨Expr.trimmed_of_mem_fields hs hname, hfields name hname⟩
  · exact fun name hname => forall_rowText_field_eq_iff draw hname titles

/-- A title with a blank in front of the same title without one, above a record that is not the
first one and before one of another length. -/
theorem runCommand_eval_batch_repeated :
  let w : Workspace :=
    ⟨fun _ => .ok (Text.encode " A,A\nx,y\nz,\"u,v\"\nw\n".toList), fun _ => none⟩
  let source := Source.given "[[A]]"
  (∃ fields, [" A=z", "A=u,v"].mapM fieldOf = .ok fields
      ∧ (runCommand 0.5 w (.eval source fields none false)).output
        = Text.encode "u,v\n".toList)
    ∧ ∃ rows, (runCommand 0.5 w (.batch "in.csv" source none "B")).Writes rows none
      ∧ rows[2]? = some (fieldsOfRow ["z", "u,v", "u,v"])
  := by
  intro w source
  have hformula : readFormula w source = .ok (.field "A") := by
    have hsource : "[[A]]" = Context.echo "A" := rfl
    have htokens : Token.ofSource (Context.echo "A") = [.field "A"] := by
      apply Token.ofSource_echo <;> decide
    apply readFormula_of_ok
    rw [Expr.ofSource, hsource, htokens]
    apply Expr.ofTokens_singleton (by simp)
  have hrandom : Expr.AvoidsRandom .builtin (.field "A") := by simp [Expr.AvoidsRandom, Expr.calls]
  have hrecords : records (Text.encode " A,A\nx,y\nz,\"u,v\"\nw\n".toList)
      = ⟨⟨0, 1, 0⟩, fieldsOfRow [" A", "A"]⟩ ::
        ([⟨⟨1, 2, 5⟩, fieldsOfRow ["x", "y"]⟩] ++
          ⟨⟨2, 3, 9⟩, fieldsOfRow ["z", "u,v"]⟩ :: [⟨⟨3, 4, 17⟩, fieldsOfRow ["w"]⟩]) := by
    decide +kernel
  have hread : w.read "in.csv" = .ok (Text.encode " A,A\nx,y\nz,\"u,v\"\nw\n".toList) := rfl
  have hcreate : ∀ path ∈ (none : Option String), w.create path = none := by simp
  obtain ⟨⟨fields, hfields, -, hprinted⟩, hwritten, hsame, -⟩ :=
    runCommand_eval_batch hformula hrandom hread hcreate hrecords
      (textsFrom_fieldsOfRow 0 [" A", "A"])
      (by simpa using ⟨_, textsFrom_fieldsOfRow 0 ["x", "y"]⟩)
      (textsFrom_fieldsOfRow 0 ["z", "u,v"]) (by decide) "B" false 0.5 0.5
  have hlast : FindsLast [" A", "A"] "A" := by
    rintro before title after htitles htitle hafter
    obtain _ | ⟨_, _ | ⟨_, before⟩⟩ := before
    · obtain ⟨rfl, rfl⟩ := List.cons.inj htitles
      cases hafter "A" (by simp) (by decide)
    · obtain ⟨rfl, rfl⟩ := List.cons.inj (List.cons.inj htitles).2
      rfl
    · simp at htitles
  have htext : rowText 0.5 (.field "A") [" A", "A"] ["z", "u,v"] = "u,v" := by decide
  have hprintedText := hsame (by simpa [Expr.fields] using hlast)
  rw [hprintedText, htext] at hprinted
  rw [htext] at hwritten
  exact ⟨⟨fields, hfields, hprinted⟩, hwritten⟩

/-- A title with a blank in front: the value of the field is printed for the arguments, and in the
batch the field has none. -/
theorem runCommand_eval_batch_blank :
  let w : Workspace :=
    ⟨fun _ => .ok (Text.encode "First, Last\nAda,Lovelace\n".toList), fun _ => none⟩
  let source := Source.given "[[Last]]"
  let fields := [("First", "Ada"), ("Last", "Lovelace")]
  List.zipWith flag ["First", " Last"] ["Ada", "Lovelace"] = ["First=Ada", " Last=Lovelace"]
    ∧ ["First=Ada", " Last=Lovelace"].mapM fieldOf = .ok fields
    ∧ (runCommand 0.5 w (.eval source fields none false)).output = Text.encode "Lovelace\n".toList
    ∧ (runCommand 0.5 w (.batch "in.csv" source none "result")).output
      = Text.encode "First, Last,result\nAda,Lovelace,[[Last]]\n".toList
  := by
  intro w source fields
  refine ⟨rfl, rfl, ?_, ?_⟩
  · decide +kernel
  · decide +kernel

end FieldFormula.CommandLine
