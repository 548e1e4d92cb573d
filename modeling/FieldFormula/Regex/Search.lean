import FieldFormula.Regex.OfPattern
import FieldFormula.Regex.Program

/-!
# Searching

`Regex.find?` searches a text for the first place where an expression matches, and takes
the match there that the expression prefers.  All ways to match are followed at once, one
character after the other, in the order of preference; a way that reaches an instruction
that a preferred way has reached at the same place is given up.
-/

namespace FieldFormula.Regex

/-- A way to match: the number of the instruction reached, and where the match began. -/
structure Thread where
  instruction : Nat
  start : Nat

/-- What is known of a place: which instructions have been reached, and the ways that wait
for a character, last first. -/
structure Frontier where
  reached : Array Nat
  waiting : List (Unicode.Ranges × Thread)

/-- Follows threads up to the instructions that take a character.  The threads stand in
the order of preference; one that accepts ends those behind it, and its start is the
result.  `stamp` is the number that marks the instructions reached at this place. -/
def follow (code : Array Instruction) (before after : Option Char) (stamp : Nat) :
    Nat → List Thread → Frontier → Frontier × Option Nat
  | 0, _, f => (f, none)
  | _, [], f => (f, none)
  | fuel + 1, t :: threads, f =>
    if f.reached[t.instruction]? = some stamp then
      follow code before after stamp fuel threads f
    else
      let f := { f with reached := f.reached.setIfInBounds t.instruction stamp }
      match code[t.instruction]? with
      | some (.take set next) =>
        follow code before after stamp fuel threads
          { f with waiting := (set, { t with instruction := next }) :: f.waiting }
      | some (.check p next) =>
        if p.holds before after then
          follow code before after stamp fuel ({ t with instruction := next } :: threads) f
        else
          follow code before after stamp fuel threads f
      | some (.fork first second) =>
        follow code before after stamp fuel
          ({ t with instruction := first } :: { t with instruction := second } :: threads) f
      | some .accept => (f, some t.start)
      | none => follow code before after stamp fuel threads f

/-- The threads that pass a character, in the order of preference; `waiting` stands in the
reverse order. -/
def passing (c : Char) (waiting : List (Unicode.Ranges × Thread)) : List Thread :=
  waiting.foldl (fun ts (set, t) => if set.contains c then t :: ts else ts) []

/-- The frontier at a place, and the best match behind it.  As long as there is no match, a
new way begins at every place. -/
def arrive (p : Program) (before after : Option Char) (place : Nat) (reached : Array Nat)
    (threads : List Thread) (best : Option (Nat × Nat)) : Frontier × Option (Nat × Nat) :=
  let threads := if best.isNone then threads ++ [⟨p.start, place⟩] else threads
  let fuel := threads.length + 2 * p.instructions.size + 1
  let (f, accepted) :=
    follow p.instructions before after (place + 1) fuel threads ⟨reached, []⟩
  (f, accepted.elim best fun start => some (start, place))

/-- Searches the rest of a text, where `best` is the match found so far with its start and
its end. -/
def searchAt (p : Program) (before : Option Char) (place : Nat) (reached : Array Nat)
    (threads : List Thread) (best : Option (Nat × Nat)) : List Char → Option (Nat × Nat)
  | [] => (arrive p before none place reached threads best).2
  | c :: r =>
    let (f, best) := arrive p before (some c) place reached threads best
    let threads := passing c f.waiting
    if threads.isEmpty && best.isSome then best
    else searchAt p (some c) (place + 1) f.reached threads best r

/-- The start and the end of the first match in a text. -/
def findSpan? (r : Regex) (s : List Char) : Option (Nat × Nat) :=
  let p := r.program
  searchAt p none 0 (Array.replicate p.instructions.size 0) [] none s

/-- The text of the first match. -/
def find? (r : Regex) (s : List Char) : Option (List Char) :=
  (r.findSpan? s).map fun (start, stop) => (s.drop start).take (stop - start)

/-- Whether the expression matches somewhere in a text. -/
def isMatch (r : Regex) (s : List Char) : Bool :=
  (r.findSpan? s).isSome

/-- The regular expression that a text spells. -/
def ofText (s : List Char) : Except PatternError Regex := do
  ofPattern (← Pattern.ofText s)

end FieldFormula.Regex
