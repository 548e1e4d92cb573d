import FieldFormula.Csv

/-!
# Reading records

`Csv.records` splits bytes into records.  A line feed or a carriage return ends a record,
and empty lines are skipped.  A quote at the front of a field opens a quoted part, in which
commas and the ends of lines have no meaning and a quote is written twice; what follows
the closing quote belongs to the field as well.  Every list of bytes has records: a quoted
part may end with the bytes.
-/

namespace FieldFormula.Csv

/-- Where the reader stands in a field. -/
inductive Phase where
  /-- At the front of the field. -/
  | front
  /-- In a part without quotes. -/
  | plain
  /-- In a quoted part. -/
  | quoted
  /-- Behind a quote in a quoted part. -/
  | behindQuote
  deriving DecidableEq, Repr

/-- What has been read of a record: the bytes of the current field, the fields before it,
and all bytes passed, each last first. -/
structure Progress where
  phase : Phase
  field : Field
  fields : List Field
  passed : List UInt8

namespace Progress

/-- Nothing has been read. -/
def start : Progress :=
  ⟨.front, [], [], []⟩

/-- The fields that have been read. -/
def result (p : Progress) : List Field :=
  (p.field.reverse :: p.fields).reverse

/-- Whether a byte ends the record. -/
def isEndedBy (p : Progress) (b : UInt8) : Bool :=
  p.phase != .quoted && endsRecord b

/-- The bytes of the field with one more byte. -/
def add (p : Progress) (phase : Phase) (b : UInt8) : Progress :=
  ⟨phase, b :: p.field, p.fields, b :: p.passed⟩

/-- The same field in another phase. -/
def turn (p : Progress) (phase : Phase) (b : UInt8) : Progress :=
  ⟨phase, p.field, p.fields, b :: p.passed⟩

/-- What has been read with a byte that does not end the record. -/
def next (p : Progress) (b : UInt8) : Progress :=
  if p.phase = .quoted then
    if b = quote then p.turn .behindQuote b else p.add .quoted b
  else if p.phase = .front ∧ b = quote then p.turn .quoted b
  else if p.phase = .behindQuote ∧ b = quote then p.add .quoted b
  else if b = comma then ⟨.front, [], p.field.reverse :: p.fields, b :: p.passed⟩
  else p.add .plain b

end Progress

/-- A record: its fields, the bytes passed in reading it, and the bytes behind them. -/
structure Cut where
  fields : List Field
  passed : List UInt8
  rest : List UInt8

/-- Reads a record on. -/
def readFields (p : Progress) : List UInt8 → Cut
  | [] => ⟨p.result, p.passed.reverse, []⟩
  | b :: s =>
    if p.isEndedBy b then ⟨p.result, (b :: p.passed).reverse, s⟩ else readFields (p.next b) s

/-- The first record of some bytes.  The empty lines before it are passed with it. -/
def readRecord? (s : List UInt8) : Option Cut :=
  let r := s.dropWhile endsRecord
  if r.isEmpty then none
  else
    let c := readFields .start r
    some { c with passed := s.takeWhile endsRecord ++ c.passed }

theorem length_rest_readFields_le (p : Progress) (s : List UInt8) :
  (readFields p s).rest.length ≤ s.length
  := by
  induction s generalizing p with
  | nil => exact Nat.le_refl _
  | cons b s ih =>
    simp only [readFields]
    split
    · exact Nat.le_succ _
    · exact Nat.le_succ_of_le (ih _)

theorem length_rest_readFields_lt (p : Progress) {s : List UInt8} (h : s ≠ []) :
  (readFields p s).rest.length < s.length
  := by
  cases s with
  | nil => contradiction
  | cons b s =>
    simp only [readFields]
    split
    · exact Nat.lt_succ_self _
    · exact Nat.lt_succ_of_le (length_rest_readFields_le ..)

theorem length_rest_of_readRecord? {s : List UInt8} {c : Cut} (h : readRecord? s = some c) :
  c.rest.length < s.length
  := by
  simp only [readRecord?] at h
  split at h
  · contradiction
  · rename_i hs
    have h₁ := length_rest_readFields_lt .start
      (show s.dropWhile endsRecord ≠ [] by simpa using hs)
    have h₂ := (List.dropWhile_sublist (l := s) endsRecord).length_le
    rw [← Option.some.inj h]
    exact Nat.lt_of_lt_of_le h₁ h₂

/-- A place between two records: the number of records before it, the line, counted from
one, and the number of bytes before it. -/
structure Position where
  record : Nat
  line : Nat
  byte : Nat
  deriving DecidableEq, Repr

/-- The place behind some more bytes and one more record. -/
def Position.advance (p : Position) (passed : List UInt8) : Position :=
  ⟨p.record + 1, p.line + passed.count lineFeed, p.byte + passed.length⟩

/-- A record with the place where reading it began. -/
structure Record where
  position : Position
  fields : List Field
  deriving DecidableEq, Repr

/-- The records of some bytes that begin at a place. -/
def recordsAt (p : Position) (s : List UInt8) : List Record :=
  match _h : readRecord? s with
  | none => []
  | some c => ⟨p, c.fields⟩ :: recordsAt (p.advance c.passed) c.rest
termination_by s.length
decreasing_by exact length_rest_of_readRecord? _h

/-- The mark that may stand before the first record. -/
def byteOrderMark : List UInt8 := [0xEF, 0xBB, 0xBF]

/-- The records of some bytes.  A byte order mark at the front is passed over. -/
def records (s : List UInt8) : List Record :=
  if byteOrderMark.isPrefixOf s then
    match recordsAt ⟨0, 1, 3⟩ (s.drop 3) with
    | [] => []
    | r :: rs => { r with position := ⟨0, 1, 0⟩ } :: rs
  else
    recordsAt ⟨0, 1, 0⟩ s

end FieldFormula.Csv
