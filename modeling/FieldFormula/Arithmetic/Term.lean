import FieldFormula.Arithmetic.Symbol

/-!
# Arithmetic terms

`Term.ofSymbols` reads symbols as a term with the usual precedence: signs bind closest,
then powers, which associate to the right, then products, then sums, which both associate
to the left.  A power may not have a signed base.  Each open parenthesis has a `Level` that
holds the operands waiting for their right-hand sides, so reading is one pass over the
symbols.  `evaluate` reads a text and computes its value.
-/

namespace FieldFormula.Arithmetic

/-- The binary operators. -/
inductive Operator where
  | add | subtract | multiply | divide | modulo | power
  deriving DecidableEq, Repr

/-- The result of an operator. -/
def Operator.apply : Operator → Float → Float → Float
  | .add, x, y => x + y
  | .subtract, x, y => x - y
  | .multiply, x, y => x * y
  | .divide, x, y => x / y
  | .modulo, x, y => Decimal.remainder x y
  | .power, x, y => x.pow y

/-- Arithmetic terms. -/
inductive Term where
  | number (value : Float)
  | positive (t : Term)
  | negative (t : Term)
  | binary (op : Operator) (left right : Term)

/-- The value of a term. -/
def Term.value : Term → Float
  | .number x => x
  | .positive t => t.value
  | .negative t => -t.value
  | .binary op l r => op.apply l.value r.value

/-- What waits for the next operand within one pair of parentheses: the left side of a sum,
the left side of a product, the bases of powers with the innermost first, and the signs
with the innermost first, where `true` stands for a minus. -/
structure Level where
  sum : Option (Term × Operator)
  product : Option (Term × Operator)
  bases : List Term
  signs : List Bool

namespace Level

/-- The level at which nothing waits. -/
def start : Level := ⟨none, none, [], []⟩

/-- A term with the signs that wait for it. -/
def signed (l : Level) (t : Term) : Term :=
  l.signs.foldl (fun t minus => if minus then .negative t else .positive t) t

/-- The power that a term completes. -/
def completePower (l : Level) (t : Term) : Term :=
  l.bases.foldl (fun t base => .binary .power base t) (l.signed t)

/-- The product that a term completes. -/
def completeProduct (l : Level) (t : Term) : Term :=
  match l.product with
  | none => l.completePower t
  | some (left, op) => .binary op left (l.completePower t)

/-- The sum that a term completes. -/
def completeSum (l : Level) (t : Term) : Term :=
  match l.sum with
  | none => l.completeProduct t
  | some (left, op) => .binary op left (l.completeProduct t)

end Level

namespace Term

/-- The operator of a symbol that adds, if it does. -/
def adds? : Symbol → Option Operator
  | .plus => some .add
  | .minus => some .subtract
  | _ => none

/-- The operator of a symbol that multiplies, if it does. -/
def multiplies? : Symbol → Option Operator
  | .times => some .multiply
  | .divide => some .divide
  | .modulo => some .modulo
  | _ => none

mutual

/-- Reads an operand, where `l` is the innermost level and `outer` are those around it. -/
def operand (l : Level) (outer : List Level) : List Symbol → Except Error Term
  | [] => .error .unexpectedEnd
  | .number x :: rest => continuation l outer (.number x) rest
  | .leftParen :: rest => operand .start (l :: outer) rest
  | .plus :: rest => operand { l with signs := false :: l.signs } outer rest
  | .minus :: rest => operand { l with signs := true :: l.signs } outer rest
  | s :: _ => .error (.unexpectedSymbol s.written)

/-- Reads what may follow the operand `t`. -/
def continuation (l : Level) (outer : List Level) (t : Term) :
    List Symbol → Except Error Term
  | [] =>
    match outer with
    | [] => .ok (l.completeSum t)
    | _ :: _ => .error .unexpectedEnd
  | .power :: rest =>
    if l.signs.isEmpty then operand { l with bases := t :: l.bases } outer rest
    else .error .signBeforePower
  | .rightParen :: rest =>
    match outer with
    | [] => .error (.unexpectedSymbol Symbol.rightParen.written)
    | m :: outer => continuation m outer (l.completeSum t) rest
  | s :: rest =>
    match multiplies? s, adds? s with
    | some op, _ => operand ⟨l.sum, some (l.completeProduct t, op), [], []⟩ outer rest
    | none, some op => operand ⟨some (l.completeSum t, op), none, [], []⟩ outer rest
    | none, none => .error (.unexpectedSymbol s.written)

end

/-- The term that symbols write. -/
def ofSymbols (symbols : List Symbol) : Except Error Term :=
  match symbols with
  | [] => .error .empty
  | s :: rest => operand .start [] (s :: rest)

end Term

/-- Whether a character may occur in an arithmetic expression. -/
def isArithmetic (c : Char) : Bool :=
  c.isDigit || ['+', '-', '*', '/', '%', '(', ')', '.'].contains c || Text.isBlank c

/-- A text without the characters that cannot occur in an arithmetic expression. -/
def sanitize (s : List Char) : List Char :=
  s.filter isArithmetic

/-- The value of an arithmetic expression. -/
def evaluate (s : List Char) : Except Error Float := do
  let symbols ← Symbol.ofChars s
  let term ← Term.ofSymbols symbols
  return term.value

end FieldFormula.Arithmetic
