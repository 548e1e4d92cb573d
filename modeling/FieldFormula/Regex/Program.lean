import FieldFormula.Regex

/-!
# Programs

A regular expression is compiled to a program of numbered instructions.  An instruction
names its successors by their numbers, the preferred one first, so that the paths through
the program from its start come in the order in which the expression prefers its ways to
match.
-/

namespace FieldFormula.Regex

/-- One instruction of a program. -/
inductive Instruction where
  /-- Takes a character of a set. -/
  | take (set : Unicode.Ranges) (next : Nat)
  /-- Goes on if a condition is met. -/
  | check (p : Place) (next : Nat)
  /-- Goes on in two ways, of which the first is preferred. -/
  | fork (first second : Nat)
  /-- Ends a match. -/
  | accept

/-- The instructions of a program, and the number of the first one. -/
structure Program where
  instructions : Array Instruction
  start : Nat

/-- A step of building a program. -/
abbrev Builder := StateM (Array Instruction)

namespace Builder

/-- Appends an instruction; the result is its number. -/
def emit (i : Instruction) : Builder Nat := do
  let code ← get
  set (code.push i)
  return code.size

/-- Appends a fork whose greedy side is taken first if `greedy`. -/
def fork (greedy : Bool) (more done : Nat) : Builder Nat :=
  emit (if greedy then .fork more done else .fork done more)

/-- Appends a loop over `body` that goes on at `next` after one round or more.  The result
are the numbers of the start of the body and of the fork behind it. -/
def loop (greedy : Bool) (body : Nat → Builder Nat) (next : Nat) : Builder (Nat × Nat) := do
  let again ← emit .accept
  let start ← body again
  modify (·.setIfInBounds again (if greedy then .fork start next else .fork next start))
  return (start, again)

/-- Appends a number of copies of `body`, one leading to the other and the last to `next`. -/
def copies (body : Nat → Builder Nat) : Nat → Nat → Builder Nat
  | 0, next => return next
  | n + 1, next => do
    copies body n (← body next)

/-- Appends copies of `body` of which each may be left out with all that follow it. -/
def optionalCopies (greedy : Bool) (body : Nat → Builder Nat) (done : Nat) :
    Nat → Nat → Builder Nat
  | 0, next => return next
  | n + 1, next => do
    optionalCopies greedy body done n (← fork greedy (← body next) done)

end Builder

/-- Appends the program of an expression that goes on at `next`. -/
def build : Regex → Nat → Builder Nat
  | empty, next => return next
  | characters set, next => Builder.emit (.take set next)
  | place p, next => Builder.emit (.check p next)
  | concat left right, next => do
    left.build (← right.build next)
  | alternative left right, next => do
    let second ← right.build next
    let first ← left.build next
    Builder.emit (.fork first second)
  | repetition least most greedy body, next =>
    match effectiveCounts least most body with
    | (0, none) => do
      let (start, again) ← Builder.loop greedy body.build next
      if body.mayBeEmpty then Builder.fork greedy start next else return again
    | (least + 1, none) => do
      let (start, _) ← Builder.loop greedy body.build next
      Builder.copies body.build least start
    | (least, some most) => do
      let optional ← Builder.optionalCopies greedy body.build next (most - least) next
      Builder.copies body.build least optional

/-- The program of an expression. -/
def program (r : Regex) : Program :=
  let (start, code) := (do r.build (← Builder.emit .accept)).run #[]
  ⟨code, start⟩

end FieldFormula.Regex
