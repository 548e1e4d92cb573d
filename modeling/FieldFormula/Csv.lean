/-!
# Records

A record is a list of fields, and a field is a list of bytes.  Written records end with a
line feed and have commas between their fields; a field that holds a comma, a quote or the
end of a line stands in quotes, and a quote in it is written twice.
-/

namespace FieldFormula.Csv

/-- A field of a record. -/
abbrev Field := List UInt8

/-- The byte between two fields. -/
def comma : UInt8 := 0x2C

/-- The byte around a field that stands in quotes. -/
def quote : UInt8 := 0x22

/-- The line feed. -/
def lineFeed : UInt8 := 0x0A

/-- The carriage return. -/
def carriageReturn : UInt8 := 0x0D

/-- Whether a byte ends a record. -/
def endsRecord (b : UInt8) : Bool :=
  b == lineFeed || b == carriageReturn

/-- Whether a field has to stand in quotes. -/
def needsQuotes (f : Field) : Bool :=
  f.any fun b => b == comma || b == quote || endsRecord b

/-- A field in quotes. -/
def quoted (f : Field) : List UInt8 :=
  quote :: f.flatMap (fun b => if b = quote then [quote, quote] else [b]) ++ [quote]

/-- A field as it is written. -/
def renderField (f : Field) : List UInt8 :=
  if needsQuotes f then quoted f else f

/-- Fields with commas between them. -/
def renderFields : List Field → List UInt8
  | [] => []
  | [f] => renderField f
  | f :: g :: fs => renderField f ++ comma :: renderFields (g :: fs)

/-- A record as it is written.  One that would leave its line empty is a pair of quotes. -/
def renderRecord (fs : List Field) : List UInt8 :=
  let line := renderFields fs
  (if line.isEmpty then [quote, quote] else line) ++ [lineFeed]

/-- Records as they are written. -/
def render (rs : List (List Field)) : List UInt8 :=
  rs.flatMap renderRecord

end FieldFormula.Csv
