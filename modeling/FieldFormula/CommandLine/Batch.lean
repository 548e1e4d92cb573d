import FieldFormula.Csv.Reading
import FieldFormula.Evaluation
import FieldFormula.Text.Utf8

/-!
# Batches

A batch evaluates one formula for every record of a file.  The first record names the
fields.  Every record is written with the result behind its fields, up to the first one
that has another number of fields or bytes that are no text.
-/

namespace FieldFormula.CommandLine

open Csv

/-- What is wrong with a record. -/
inductive RecordFault where
  /-- It has another number of fields than the first record. -/
  | length (expected found : Nat)
  /-- A field is no text from a byte on. -/
  | encoding (field byte : Nat)
  deriving DecidableEq, Repr

/-- The message for a fault of a record at a position. -/
def RecordFault.message (p : Position) : RecordFault → String
  | .length expected found =>
    "CSV error: record " ++ toString p.record ++ " (line: " ++ toString p.line ++
      ", byte: " ++ toString p.byte ++ "): found record with " ++ toString found ++
      " fields, but the previous record has " ++ toString expected ++ " fields"
  | .encoding field byte =>
    "CSV parse error: record " ++ toString p.record ++ " (line " ++ toString p.line ++
      ", field: " ++ toString field ++ ", byte: " ++ toString p.byte ++
      "): invalid utf-8: invalid UTF-8 in field " ++ toString field ++
      " near byte index " ++ toString byte

/-- The texts of fields, of which the first has a number. -/
def textsFrom (number : Nat) : List Field → Except RecordFault (List String)
  | [] => .ok []
  | f :: fs =>
    match Text.decode f with
    | .ok s => (textsFrom (number + 1) fs).map (String.ofList s :: ·)
    | .error byte => .error (.encoding number byte)

/-- The texts of the fields of a record. -/
def texts (fs : List Field) : Except RecordFault (List String) :=
  textsFrom 0 fs

/-- The texts of a record with as many fields as expected. -/
def recordTexts (expected : Nat) (r : Record) : Except RecordFault (List String) :=
  if r.fields.length = expected then texts r.fields
  else .error (.length expected r.fields.length)

/-- The field values of a record.  Of fields with one name, the last one counts. -/
def recordFields (headers values : List String) : FieldMap :=
  .ofPairs (headers.zip values)

/-- The rows that a batch writes for records, and the fault that stops it, with the number
of the record, counted from `number`. -/
def batchRows (evaluate : FieldMap → List Char) (headers : List String) (number : Nat) :
    List Record → List (List Field) × Option (Nat × Position × RecordFault)
  | [] => ([], none)
  | r :: rs =>
    match recordTexts headers.length r with
    | .error e => ([], some (number, r.position, e))
    | .ok values =>
      let result := Text.encode (evaluate (recordFields headers values))
      let (rows, fault) := batchRows evaluate headers (number + 1) rs
      ((r.fields ++ [result]) :: rows, fault)

end FieldFormula.CommandLine
