import FieldFormula.Expr.OfTokens

/-!
# Reading expressions in one pass

Recursive descent visits every token once and in order, so it can be run without recursion
by a machine that keeps the calls which are still open as a stack of frames.  A frame holds
what the two loops of its call have in their hands: the arguments read so far, the parts of
the current argument and its number of open parentheses.

* `Reading.run_argument`, `Reading.run_arguments`, `Reading.run_call`: on top of any stack the
  machine does what reading an argument, the arguments of a call, or a call does.
* `ofTokens_eq_run`: the machine reads every list of tokens as `ofTokens` does.
-/

namespace FieldFormula.Expr

/-- A call that is not closed yet: its arguments so far, the parts of the argument being
read, and the number of open parentheses in that argument. -/
structure Frame where
  name : String
  args : List Expr
  parts : List Expr
  parens : Nat

namespace Frame

/-- The frame of a call of which nothing has been read but the name. -/
def start (name : String) : Frame := ⟨name, [], [], 0⟩

/-- The frame with one more part in its current argument. -/
def addPart (f : Frame) (e : Expr) : Frame :=
  { f with parts := f.parts ++ [e] }

/-- The arguments of a frame when its current one ends. -/
def allArgs (f : Frame) : List Expr :=
  Descent.addArgument f.args f.parts

theorem allArgs_of_nil (name : String) (args : List Expr) (parens : Nat) :
  allArgs ⟨name, args, [], parens⟩ = args
  := rfl

theorem allArgs_of_ne_nil
    (name : String) (args : List Expr) {parts : List Expr} (h : parts ≠ []) (parens : Nat) :
  allArgs ⟨name, args, parts, parens⟩ = args ++ [ofParts parts]
  := by
  cases parts with
  | nil => contradiction
  | cons e es => rfl

/-- The frame at the start of its next argument. -/
def endArg (f : Frame) : Frame :=
  ⟨f.name, f.allArgs, [], f.parens⟩

/-- The call that a frame becomes when it is closed. -/
def close (f : Frame) : Expr :=
  .call f.name f.allArgs

end Frame

/-- A formula that is partly read: the open calls, the innermost first, and the complete
parts outside all calls. -/
structure Reading where
  frames : List Frame
  nodes : List Expr

namespace Reading

/-- The start of a formula. -/
def start : Reading := ⟨[], []⟩

/-- One more part in the innermost open call, or outside all calls. -/
def add (p : Reading) (e : Expr) : Reading :=
  match p.frames with
  | [] => ⟨[], p.nodes ++ [e]⟩
  | f :: fs => ⟨f.addPart e :: fs, p.nodes⟩

/-- A call opens. -/
def openCall (p : Reading) (name : String) : Reading :=
  ⟨.start name :: p.frames, p.nodes⟩

/-- The effect of a token that is not a function name. -/
def step (p : Reading) (t : Token) : Reading :=
  match t with
  | .field name => p.add (.field name)
  | .quoted s | .date s | .text s | .function s => p.add (.literal (.text s))
  | .number n => p.add (.literal (.number n))
  | .operator c => p.add (.literal (.text (String.ofList [c])))
  | .leftParen =>
    match p.frames with
    | [] => p.add empty
    | f :: fs => Reading.add ⟨{ f with parens := f.parens + 1 } :: fs, p.nodes⟩ empty
  | .rightParen =>
    match p.frames with
    | [] => p.add empty
    | f :: fs =>
      if f.parens = 0 then
        Reading.add ⟨fs, p.nodes⟩ f.close
      else
        Reading.add ⟨{ f with parens := f.parens - 1 } :: fs, p.nodes⟩ empty
  | .semicolon | .comma =>
    match p.frames with
    | [] => p.add empty
    | f :: fs => if f.parens = 0 then ⟨f.endArg :: fs, p.nodes⟩ else p.add empty

/-- The formula that results when no token is left. -/
def finish (p : Reading) : Except SyntaxError Expr :=
  match p.frames with
  | [] => .ok (ofParts p.nodes)
  | _ :: _ => .error ⟨.rightParen, none⟩

/-- The formula that results from the remaining tokens. -/
def run (p : Reading) : List Token → Except SyntaxError Expr
  | [] => p.finish
  | .function name :: .leftParen :: ts => (p.openCall name).run ts
  | .function _ :: ts => .error ⟨.leftParen, ts.head?.map Token.kind⟩
  | t :: ts => (p.step t).run ts

theorem run_token
    (p : Reading) {t : Token} (ht : ∀ name, t ≠ .function name) (ts : List Token) :
  p.run (t :: ts) = (p.step t).run ts
  := by
  cases t with
  | function name => apply (ht name rfl).elim
  | _ => rfl

/-! ### Single tokens -/

/-- The part that a token stands for where it has no role. -/
def part : Token → Expr
  | .field name => .field name
  | .quoted s | .date s | .text s | .function s => .literal (.text s)
  | .number n => .literal (.number n)
  | .operator c => .literal (.text (String.ofList [c]))
  | .leftParen | .rightParen | .semicolon | .comma => empty

theorem expression_of_ne_function
    {t : Token} (ht : ∀ name, t ≠ .function name) (ts : List Token) :
  Descent.expression t ts = .ok (part t, ⟨ts, Nat.le_refl _⟩)
  := by
  cases t with
  | function name => apply (ht name rfl).elim
  | _ => rw [Descent.expression]; rfl

/-- Outside all calls a step adds the part that the token stands for. -/
theorem step_of_nil (nodes : List Expr) (t : Token) :
  step ⟨[], nodes⟩ t = ⟨[], nodes ++ [part t]⟩
  := by
  cases t <;> rfl

/-- In a call a step adds the part that the token stands for, unless the token ends the
argument. -/
theorem step_of_parensBehind?
    {f : Frame} {t : Token} {n : Nat} (ht : ∀ name, t ≠ .function name)
    (h : Descent.parensBehind? f.parens t = some n) (fs : List Frame) (nodes : List Expr) :
  step ⟨f :: fs, nodes⟩ t = ⟨Frame.addPart { f with parens := n } (part t) :: fs, nodes⟩
  := by
  cases t with
  | function name => apply (ht name rfl).elim
  | rightParen | semicolon | comma =>
    obtain ⟨hf, rfl⟩ : f.parens ≠ 0 ∧ _ = n := by
      simpa [Descent.parensBehind?] using h
    simp [step, hf, add, part]
  | _ =>
    obtain rfl := Option.some.inj h
    rfl

/-! ### Calls on top of a stack -/

/-- The result behind the arguments of a call that the parenthesis has to close. -/
def runClose (p : Reading) (name : String) (args : List Expr) (ts : List Token) :
    Except SyntaxError Expr := do
  let rest ← Descent.expect .rightParen ts
  (p.add (.call name args)).run rest.1

/-- The result behind an argument of a call: the next one begins, or the call closes. -/
def runNext (p : Reading) (name : String) (args : List Expr) (ts : List Token) :
    Except SyntaxError Expr :=
  match ts with
  | .semicolon :: ts | .comma :: ts => run ⟨⟨name, args, [], 0⟩ :: p.frames, p.nodes⟩ ts
  | ts => p.runClose name args ts

-- The induction is the recursion of the four functions.  The stack is arbitrary in each of them,
-- since a call inside an argument is read on top of the calls that are open around it.
mutual

/-- An expression is read on top of any stack, and becomes a part of the argument there. -/
theorem run_expression
    (p : Reading) (name : String) (args parts : List Expr) {parens n : Nat} {t : Token}
    (h : Descent.parensBehind? parens t = some n) (ts : List Token) :
  run ⟨⟨name, args, parts, parens⟩ :: p.frames, p.nodes⟩ (t :: ts)
    = Descent.expression t ts >>= fun (e, rest) =>
      run ⟨⟨name, args, parts ++ [e], n⟩ :: p.frames, p.nodes⟩ rest.1
  := by
  by_cases ht : ∃ name, t = .function name
  · obtain ⟨inner, rfl⟩ := ht
    obtain rfl : parens = n := Option.some.inj h
    rw [run_call, Descent.expression]
    rfl
  · rw [not_exists] at ht
    rw [run_token _ ht, step_of_parensBehind? ht h, expression_of_ne_function ht]
    rfl
termination_by 4 * ts.length + 3

/-- A call is read on top of any stack, and becomes a part there. -/
theorem run_call (p : Reading) (name : String) (ts : List Token) :
  p.run (.function name :: ts)
    = Descent.call name ts >>= fun (e, rest) => (p.add e).run rest.1
  := by
  rw [Descent.call]
  match ts with
  | [] => rfl
  | t :: ts =>
    cases t with
    | leftParen =>
      have hexpect : Descent.expect .leftParen (.leftParen :: ts) = pure ⟨ts, Nat.le_succ _⟩ :=
        rfl
      rw [hexpect, pure_bind, bind_assoc]
      apply (run_arguments p name [] ts).trans
      apply bind_congr
      rintro ⟨args, rest, h⟩
      dsimp only [runClose]
      rw [bind_assoc]
      rfl
    | _ => rfl
termination_by 4 * ts.length + 2

/-- The arguments of a call are read on top of any stack. -/
theorem run_arguments (p : Reading) (name : String) (args : List Expr) (ts : List Token) :
  run ⟨⟨name, args, [], 0⟩ :: p.frames, p.nodes⟩ ts
    = Descent.arguments args ts >>= fun (args, rest) => p.runClose name args rest.1
  := by
  match ts with
  | [] =>
    rw [Descent.arguments]
    rfl
  | t :: ts =>
    by_cases ht : t = .rightParen
    · rw [ht, Descent.arguments]
      rfl
    · rw [Descent.arguments.eq_3 _ _ _ ht, run_argument, bind_assoc]
      apply bind_congr
      rintro ⟨parts, rest, h⟩
      match rest with
      | [] => rfl
      | t' :: rest =>
        cases t' with
        | semicolon | comma =>
          -- the next argument is read from fewer tokens, since the separator is taken
          have hle : rest.length ≤ ts.length := Nat.le_of_succ_le_succ h
          apply (run_arguments p name (Descent.addArgument args parts) rest).trans
          dsimp only
          rw [bind_assoc]
          rfl
        | _ => rfl
termination_by 4 * ts.length + 1

/-- An argument is read on top of any stack, and becomes one of the arguments there. -/
theorem run_argument
    (p : Reading) (name : String) (args parts : List Expr) (parens : Nat) (ts : List Token) :
  run ⟨⟨name, args, parts, parens⟩ :: p.frames, p.nodes⟩ ts
    = Descent.argument parens parts ts >>= fun (parts, rest) =>
      p.runNext name (Descent.addArgument args parts) rest.1
  := by
  match ts with
  | [] =>
    rw [Descent.argument]
    rfl
  | t :: ts =>
    rw [Descent.argument]
    cases hparens : Descent.parensBehind? parens t with
    | none =>
      cases t with
      | rightParen | semicolon | comma =>
        obtain rfl : parens = 0 := by
          simpa [Descent.parensBehind?] using hparens
        rfl
      | _ => cases hparens
    | some n =>
      rw [run_expression p name args parts hparens, bind_assoc]
      apply bind_congr
      rintro ⟨e, rest, h⟩
      dsimp only
      rw [run_argument, bind_assoc]
      rfl
termination_by 4 * ts.length

end

/-! ### Whole formulas -/

/-- Outside all calls, an expression is read as one more part. -/
theorem run_expression_of_nil (nodes : List Expr) (t : Token) (ts : List Token) :
  run ⟨[], nodes⟩ (t :: ts)
    = Descent.expression t ts >>= fun (e, rest) => run ⟨[], nodes ++ [e]⟩ rest.1
  := by
  by_cases ht : ∃ name, t = .function name
  · obtain ⟨name, rfl⟩ := ht
    rw [run_call, Descent.expression]
    rfl
  · rw [not_exists] at ht
    rw [run_token _ ht, step_of_nil, expression_of_ne_function ht]
    rfl

/-- Outside all calls, expressions are read until no token is left. -/
theorem run_expressions (nodes : List Expr) (ts : List Token) :
  run ⟨[], nodes⟩ ts = Descent.expressions nodes ts >>= fun nodes => pure (ofParts nodes)
  := by
  match ts with
  | [] =>
    rw [Descent.expressions]
    rfl
  | t :: ts =>
    rw [run_expression_of_nil, Descent.expressions, bind_assoc]
    apply bind_congr
    rintro ⟨e, rest, h⟩
    apply run_expressions (nodes ++ [e]) rest
termination_by ts.length

end Reading

/-- The machine reads tokens as recursive descent does. -/
theorem ofTokens_eq_run (ts : List Token) :
  ofTokens ts = Reading.start.run ts
  := by
  rw [ofTokens]
  apply (Reading.run_expressions [] ts).symm

/-- A token that is no function name is a formula by itself. -/
theorem ofTokens_singleton {t : Token} (ht : ∀ name, t ≠ .function name) :
  ofTokens [t] = .ok (Reading.part t)
  := by
  rw [ofTokens_eq_run, Reading.run_token _ ht, Reading.start, Reading.step_of_nil]
  rfl

end FieldFormula.Expr
