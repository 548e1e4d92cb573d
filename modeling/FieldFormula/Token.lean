import FieldFormula.Decimal.Numeral

/-!
# Tokens

The source of a formula is read as a list of tokens: field references, quoted texts,
numbers, function names, the four structural marks, operators, and runs of other
characters.  A run is classified by its characters alone, `Token.ofRun`.
-/

namespace FieldFormula

/-- A lexical unit of a formula. -/
inductive Token where
  /-- The reference to a field. -/
  | field (name : String)
  /-- A quoted text. -/
  | quoted (text : String)
  | number (value : Float)
  /-- A run that begins like a calendar date. -/
  | date (text : String)
  /-- The name of a function that is to be called. -/
  | function (name : String)
  | leftParen
  | rightParen
  | semicolon
  | comma
  | operator (symbol : Char)
  /-- Any other run of characters. -/
  | text (run : String)

namespace Token

/-- The kinds of tokens. -/
inductive Kind where
  | field | quoted | number | date | function | leftParen | rightParen | semicolon | comma
  | operator | text
  deriving DecidableEq, Repr

/-- The name of a kind in messages. -/
def Kind.name : Kind → String
  | .field => "FIELD"
  | .quoted => "STRING"
  | .number => "NUMBER"
  | .date => "DATE"
  | .function => "FUNCTION"
  | .leftParen => "LPAREN"
  | .rightParen => "RPAREN"
  | .semicolon => "SEMICOLON"
  | .comma => "COMMA"
  | .operator => "OPERATOR"
  | .text => "TEXT"

/-- The kind of a token. -/
def kind : Token → Kind
  | .field _ => .field
  | .quoted _ => .quoted
  | .number _ => .number
  | .date _ => .date
  | .function _ => .function
  | .leftParen => .leftParen
  | .rightParen => .rightParen
  | .semicolon => .semicolon
  | .comma => .comma
  | .operator _ => .operator
  | .text _ => .text

/-- The name of the field that a token refers to. -/
def fieldName? : Token → Option String
  | .field name => some name
  | _ => none

/-- Whether a run begins with four digits, two digits and two digits, joined by hyphens. -/
def beginsWithDate (s : List Char) : Bool :=
  match s with
  | a :: b :: c :: d :: '-' :: e :: f :: '-' :: g :: h :: _ =>
    [a, b, c, d, e, f, g, h].all Char.isDigit
  | _ => false

/-- Whether a run is made of digits, or of digits, a point and at least one digit. -/
def isPlainNumber (s : List Char) : Bool :=
  match s.dropWhile Char.isDigit with
  | [] => !s.isEmpty
  | '.' :: r => !r.isEmpty && r.all Char.isDigit
  | _ => false

/-- The token for a run of characters. -/
def ofRun (s : List Char) : Token :=
  if beginsWithDate s then .date (String.ofList s)
  else if isPlainNumber s then .number (Decimal.value s)
  else .text (String.ofList s)

end Token

end FieldFormula
