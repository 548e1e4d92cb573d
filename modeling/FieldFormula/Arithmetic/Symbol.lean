import FieldFormula.Decimal.Layout

/-!
# Symbols of arithmetic

An arithmetic expression is read as a list of symbols: numbers, operators and parentheses.
`Symbol.ofChars` reads them and refuses what is not one of them: a lone point, a number with
superfluous zeros in front, and two equal signs side by side.
-/

namespace FieldFormula.Arithmetic

/-- The reasons to reject an arithmetic expression. -/
inductive Error where
  | empty
  | unexpectedEnd
  | unexpectedSymbol (written : String)
  | invalidNumber (written : String)
  | leadingZero (written : String)
  | doubledSign
  | signBeforePower
  deriving DecidableEq, Repr

/-- The message of an error. -/
def Error.message : Error → String
  | .empty => "empty expression"
  | .unexpectedEnd => "unexpected end of expression"
  | .unexpectedSymbol s => "unexpected token '" ++ s ++ "'"
  | .invalidNumber s => "invalid number '" ++ s ++ "'"
  | .leadingZero s => "leading zeros are not allowed in '" ++ s ++ "'"
  | .doubledSign => "increment and decrement operators are not supported"
  | .signBeforePower => "unary operator used immediately before exponentiation"

/-- The symbols of arithmetic. -/
inductive Symbol where
  | number (value : Float)
  | plus
  | minus
  | times
  | divide
  | modulo
  | power
  | leftParen
  | rightParen

namespace Symbol

/-- Numbers in messages never have an exponent. -/
def layout : Decimal.Layout where
  tie := .up
  positional _ := true
  plus := []
  integerTail := []
  signedZero := true
  infinity := "inf".toList
  nan := "NaN".toList

/-- A symbol as messages show it. -/
def written : Symbol → String
  | .number n => String.ofList (layout.render n)
  | .plus => "+"
  | .minus => "-"
  | .times => "*"
  | .divide => "/"
  | .modulo => "%"
  | .power => "**"
  | .leftParen => "("
  | .rightParen => ")"

/-- The digits at the front of a text, with a point and further digits if a point comes
next. -/
def literalAtFront (s : List Char) : List Char :=
  s.takeWhile Char.isDigit ++ Decimal.takeFraction (s.dropWhile Char.isDigit)

/-- The number that a literal writes. -/
def literal (s : List Char) : Except Error Float :=
  let whole := s.takeWhile Char.isDigit
  if s = ['.'] then .error (.invalidNumber (String.ofList s))
  else if 1 < whole.length ∧ whole.head? = some '0' then
    .error (.leadingZero (String.ofList s))
  else .ok (Decimal.value s)

/-- The symbol at the front of a text that begins with the character `c`, and the number
of characters after `c` that belong to it. -/
def next (c : Char) (r : List Char) : Except Error (Symbol × Nat) :=
  match c with
  | '+' => if r.head? = some '+' then .error .doubledSign else .ok (.plus, 0)
  | '-' => if r.head? = some '-' then .error .doubledSign else .ok (.minus, 0)
  | '*' => if r.head? = some '*' then .ok (.power, 1) else .ok (.times, 0)
  | '/' => .ok (.divide, 0)
  | '%' => .ok (.modulo, 0)
  | '(' => .ok (.leftParen, 0)
  | ')' => .ok (.rightParen, 0)
  | c =>
    if c.isDigit ∨ c = '.' then do
      let s := literalAtFront (c :: r)
      return (.number (← literal s), s.length - 1)
    else
      .error (.unexpectedSymbol (String.ofList [c]))

/-- The symbols of a text. -/
def ofChars (s : List Char) : Except Error (List Symbol) :=
  match s with
  | [] => .ok []
  | c :: r =>
    if Text.isBlank c then ofChars r
    else do
      let (symbol, n) ← next c r
      return symbol :: (← ofChars (r.drop n))
termination_by s.length
decreasing_by
  · simp
  · simp only [List.length_drop, List.length_cons]
    omega

end Symbol

end FieldFormula.Arithmetic
