import FieldFormula.Expr
import FieldFormula.Token.Lexer

/-!
# Reading expressions

`Expr.ofTokens` reads the tokens of a formula from left to right, by recursive descent.

* `expression` reads one expression: a token that stands for itself, or a call.
* `call` reads a call behind its name: a parenthesis, arguments and a closing parenthesis.
* `arguments` reads the arguments of a call, one after the other.  A separator behind an
  argument is skipped, and an argument without parts is dropped.
* `argument` reads the parts of one argument.  It counts the parentheses that are open in
  the argument, and a separator or a closing parenthesis ends it only outside all of them.

Structural marks without a role stand for the empty text.  Reading fails only for a function
name without a parenthesis after it, and for a call that is not closed.
-/

namespace FieldFormula

/-- The reason why tokens are not a formula: the kind that had to come and the kind found,
if any token was left. -/
structure SyntaxError where
  expected : Token.Kind
  found : Option Token.Kind
  deriving DecidableEq, Repr

/-- The message of an error. -/
def SyntaxError.message (e : SyntaxError) : String :=
  let found := match e.found with
    | some k => k.name
    | none => "EOF"
  "Expected " ++ e.expected.name ++ " but got " ++ found

namespace Expr

namespace Descent

/-- What may be left of the tokens `ts`. -/
abbrev Rest (ts : List Token) :=
  { rest : List Token // rest.length ≤ ts.length }

/-- What is left of the tokens `us` as what is left of longer ones. -/
def Rest.widen {us ts : List Token} (rest : Rest us) (h : us.length ≤ ts.length) : Rest ts :=
  ⟨rest.1, Nat.le_trans rest.2 h⟩

/-- The tokens behind one of the kind that has to come. -/
def expect (kind : Token.Kind) : (ts : List Token) → Except SyntaxError (Rest ts)
  | t :: ts => if t.kind = kind then return ⟨ts, Nat.le_succ _⟩ else throw ⟨kind, t.kind⟩
  | [] => throw ⟨kind, none⟩

/-- The number of open parentheses in an argument behind one more token, where `parens` are
open before it.  Nothing if the argument ends in front of the token. -/
def parensBehind? (parens : Nat) : Token → Option Nat
  | .leftParen => some (parens + 1)
  | .rightParen => if parens = 0 then none else some (parens - 1)
  | .semicolon | .comma => if parens = 0 then none else some parens
  | _ => some parens

/-- The arguments of a call with one more, if that has any parts. -/
def addArgument (args : List Expr) : List Expr → List Expr
  | [] => args
  | parts => args ++ [ofParts parts]

-- Each of the four may hand on all its tokens to the next one, and only the last goes back to
-- the first, when it has taken a token.
mutual

/-- Reads an expression that begins with the token `t`. -/
def expression (t : Token) (ts : List Token) : Except SyntaxError (Expr × Rest ts) :=
  match t with
  | .function name => call name ts
  | .field name => .ok (.field name, ⟨ts, Nat.le_refl _⟩)
  | .quoted s | .date s | .text s => .ok (.literal (.text s), ⟨ts, Nat.le_refl _⟩)
  | .number n => .ok (.literal (.number n), ⟨ts, Nat.le_refl _⟩)
  | .operator c => .ok (.literal (.text (String.ofList [c])), ⟨ts, Nat.le_refl _⟩)
  | .leftParen | .rightParen | .semicolon | .comma => .ok (empty, ⟨ts, Nat.le_refl _⟩)
termination_by 4 * ts.length + 3

/-- Reads a call behind its name. -/
def call (name : String) (ts : List Token) : Except SyntaxError (Expr × Rest ts) := do
  let ⟨inner, hinner⟩ ← expect .leftParen ts
  let (args, ⟨rest, hrest⟩) ← arguments [] inner
  let behind ← expect .rightParen rest
  return (.call name args, behind.widen (Nat.le_trans hrest hinner))
termination_by 4 * ts.length + 2

/-- Reads the arguments of a call that stand in front of `ts` behind the arguments `args`. -/
def arguments (args : List Expr) (ts : List Token) :
    Except SyntaxError (List Expr × Rest ts) :=
  match ts with
  | [] => return (args, ⟨[], Nat.le_refl _⟩)
  | .rightParen :: ts => return (args, ⟨.rightParen :: ts, Nat.le_refl _⟩)
  | t :: ts => do
    let (parts, ⟨rest, h⟩) ← argument 0 [] (t :: ts)
    match rest, h with
    | .semicolon :: rest, h | .comma :: rest, h => do
      let (args, behind) ← arguments (addArgument args parts) rest
      return (args, behind.widen (Nat.le_of_succ_le h))
    -- without a separator behind it, the argument ends at a parenthesis or behind all tokens
    | rest, h => return (addArgument args parts, ⟨rest, h⟩)
termination_by 4 * ts.length + 1
decreasing_by all_goals simp only [List.length_cons] at *; omega

/-- Reads the parts of an argument, where `parts` are those before `ts` and `parens` is the
number of parentheses that they leave open. -/
def argument (parens : Nat) (parts : List Expr) (ts : List Token) :
    Except SyntaxError (List Expr × Rest ts) :=
  match ts with
  | [] => return (parts, ⟨[], Nat.le_refl _⟩)
  | t :: ts =>
    match parensBehind? parens t with
    | none => return (parts, ⟨t :: ts, Nat.le_refl _⟩)
    | some parens => do
      let (e, ⟨rest, h⟩) ← expression t ts
      let (parts, rest') ← argument parens (parts ++ [e]) rest
      return (parts, rest'.widen (Nat.le_succ_of_le h))
termination_by 4 * ts.length

end

/-- Reads expressions until no token is left, where `nodes` are those before `ts`. -/
def expressions (nodes : List Expr) (ts : List Token) : Except SyntaxError (List Expr) :=
  match ts with
  | [] => return nodes
  | t :: ts => do
    let (e, ⟨rest, _⟩) ← expression t ts
    expressions (nodes ++ [e]) rest
termination_by ts.length

end Descent

/-- The formula that tokens form. -/
def ofTokens (ts : List Token) : Except SyntaxError Expr := do
  let nodes ← Descent.expressions [] ts
  return ofParts nodes

/-- The formula that a source text writes. -/
def ofSource (source : String) : Except SyntaxError Expr :=
  ofTokens (Token.ofSource source)

end Expr

end FieldFormula
