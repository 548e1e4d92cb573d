import FieldFormula.Value

/-!
# Calls

A function sees a call of it as the list of its argument values.  An argument past the end
reads as the empty text.  The draw of a call is the fraction between zero and one from
which a random result is made; no other result depends on it.
-/

namespace FieldFormula

/-- The arguments of a function, and the fraction for random results. -/
structure Call where
  args : List Value
  draw : Float

/-- What a function does with its arguments. -/
abbrev Action := Call → Value

namespace Call

/-- The number of arguments. -/
def arity (c : Call) : Nat := c.args.length

/-- The argument at a position, counted from zero. -/
def value (c : Call) (i : Nat) : Value :=
  c.args.getD i .empty

/-- The text form of an argument. -/
def text (c : Call) (i : Nat) : String :=
  (c.value i).toText

/-- The characters of an argument's text form. -/
def chars (c : Call) (i : Nat) : List Char :=
  (c.value i).chars

/-- The number form of an argument. -/
def number (c : Call) (i : Nat) : Float :=
  (c.value i).toNumber

/-- The truth form of an argument. -/
def truth (c : Call) (i : Nat) : Bool :=
  (c.value i).toBool

/-- The characters of all arguments. -/
def allChars (c : Call) : List (List Char) :=
  c.args.map Value.chars

/-- The number forms of all arguments. -/
def allNumbers (c : Call) : List Float :=
  c.args.map Value.toNumber

end Call

end FieldFormula
