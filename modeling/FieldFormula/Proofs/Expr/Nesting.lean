import FieldFormula.Proofs.Expr.Reading

/-!
# Calls and parentheses

Which tokens are a formula, and how deep its calls nest, can be told without recursion and
without building the formula: a stack with one counter of open parentheses for each open call
is enough.  `Token.counterStacks` are the stacks that tokens pass through.

* `Reading.counters_step` and `Reaches.getLast?_counterStacks`: the counters of a reading are the
  stack.
* `Reading.depth_step` and `Reaches.depth_eq`: the depth of a reading grows only when the
  stack becomes higher than ever before.
* `ofTokens_eq_ok_iff_stacks`: tokens are a formula exactly when every function name has its
  parenthesis and the last stack is empty, and the depth is the greatest height.
-/

namespace FieldFormula

namespace Token

/-- The stack after a token that opens no call: a parenthesis opens or closes within the
innermost call, and one that nothing opened there closes the call. -/
def nest (stack : List Nat) (t : Token) : List Nat :=
  match t, stack with
  | .leftParen, n :: ns => (n + 1) :: ns
  | .rightParen, 0 :: ns => ns
  | .rightParen, (n + 1) :: ns => n :: ns
  | _, ns => ns

/-- The stacks that tokens pass through, from the first to the last.  A function name and
the parenthesis behind it push a counter. -/
def counterStacks (stack : List Nat) : List Token → List (List Nat)
  | [] => [stack]
  | .function _ :: .leftParen :: ts => stack :: counterStacks (0 :: stack) ts
  | t :: ts => stack :: counterStacks (nest stack t) ts

/-- The greatest height of several stacks. -/
def peak (l : List (List Nat)) : Nat :=
  (l.map List.length).foldr max 0

theorem counterStacks_token
    (stack : List Nat) {t : Token} (ht : ∀ name, t ≠ .function name) (ts : List Token) :
  counterStacks stack (t :: ts) = stack :: counterStacks (nest stack t) ts
  := by
  cases t with
  | function name => apply (ht name rfl).elim
  | _ => rfl

theorem peak_cons (stack : List Nat) (l : List (List Nat)) :
  peak (stack :: l) = max stack.length (peak l)
  := rfl

theorem counterStacks_ne_nil (stack : List Nat) (ts : List Token) :
  counterStacks stack ts ≠ []
  := by
  fun_cases counterStacks stack ts <;> simp

theorem length_le_peak_counterStacks (stack : List Nat) (ts : List Token) :
  stack.length ≤ peak (counterStacks stack ts)
  := by
  fun_cases counterStacks stack ts <;> apply Nat.le_max_left

end Token

namespace Expr

/-! ### Depth -/

theorem depthOfAll_append (es fs : List Expr) :
  depthOfAll (es ++ fs) = max (depthOfAll es) (depthOfAll fs)
  := by
  induction es with
  | nil => simp [depthOfAll]
  | cons e es ih => simp [depthOfAll, ih, Nat.max_assoc]

theorem depth_ofParts (es : List Expr) :
  (ofParts es).depth = depthOfAll es
  := by
  match es with
  | [] => rfl
  | [e] => simp [ofParts, depthOfAll]
  | e :: f :: es => rfl

namespace Frame

theorem depthOfAll_allArgs (f : Frame) :
  depthOfAll f.allArgs = max (depthOfAll f.args) (depthOfAll f.parts)
  := by
  obtain ⟨name, args, parts, parens⟩ := f
  cases parts with
  | nil => simp [allArgs_of_nil, depthOfAll]
  | cons e es =>
    rw [allArgs_of_ne_nil name args (by simp), depthOfAll_append, ← depth_ofParts (e :: es)]
    simp [depthOfAll]

theorem depthOfAll_allArgs_addPart (f : Frame) (e : Expr) :
  depthOfAll (f.addPart e).allArgs = max (depthOfAll f.allArgs) e.depth
  := by
  simp [depthOfAll_allArgs, addPart, depthOfAll_append, depthOfAll, Nat.max_assoc]

end Frame

namespace Reading

/-- The numbers of open parentheses in the open calls, the innermost first. -/
def counters (p : Reading) : List Nat :=
  p.frames.map Frame.parens

/-- The depth of open calls, where the outermost call stands last. -/
def framesDepth : List Frame → Nat
  | [] => 0
  | f :: fs => max (fs.length + 1 + depthOfAll f.allArgs) (framesDepth fs)

/-- The depth of the formula that results when all open calls close at once. -/
def depth (p : Reading) : Nat :=
  max (framesDepth p.frames) (depthOfAll p.nodes)

theorem length_counters_le_depth (p : Reading) :
  p.counters.length ≤ p.depth
  := by
  obtain ⟨frames, nodes⟩ := p
  cases frames with
  | nil => simp [counters]
  | cons f fs =>
    simp only [counters, List.length_map, List.length_cons, depth, framesDepth]
    omega

/-! ### Steps -/

theorem counters_add (p : Reading) (e : Expr) :
  (p.add e).counters = p.counters
  := by
  obtain ⟨frames, nodes⟩ := p
  cases frames <;> rfl

/-- A step moves the counters as the token moves the stack. -/
theorem counters_step (p : Reading) (t : Token) :
  (p.step t).counters = Token.nest p.counters t
  := by
  obtain ⟨frames, nodes⟩ := p
  cases t with
  | leftParen =>
    cases frames with
    | nil => rfl
    | cons f fs => apply counters_add
  | rightParen =>
    cases frames with
    | nil => rfl
    | cons f fs =>
      obtain ⟨name, args, parts, parens⟩ := f
      cases parens with
      | zero => apply counters_add
      | succ n => apply counters_add ⟨⟨name, args, parts, n⟩ :: fs, nodes⟩
  | semicolon | comma =>
    cases frames with
    | nil => rfl
    | cons f fs =>
      simp only [step]
      split <;> rfl
  | _ => apply counters_add

/-- A new part stands in all the calls that are open. -/
theorem depth_add (p : Reading) (e : Expr) :
  (p.add e).depth = max p.depth (p.frames.length + e.depth)
  := by
  obtain ⟨frames, nodes⟩ := p
  cases frames with
  | nil => simp [add, depth, framesDepth, depthOfAll_append, depthOfAll]
  | cons f fs =>
    simp only [add, depth, framesDepth, Frame.depthOfAll_allArgs_addPart, List.length_cons]
    omega

theorem depth_part (t : Token) :
  (part t).depth = 0
  := by
  cases t <;> rfl

/-- A step does not change the depth. -/
theorem depth_step (p : Reading) (t : Token) :
  (p.step t).depth = p.depth
  := by
  obtain ⟨frames, nodes⟩ := p
  obtain hpart | ⟨f, fs, rfl, ⟨n, hparens⟩ | hclose | hend⟩ := step_cases ⟨frames, nodes⟩ t
  · have hlen := length_counters_le_depth ⟨frames, nodes⟩
    rw [counters, List.length_map] at hlen
    rw [hpart, depth_add, depth_part]
    omega
  · have hlen := length_counters_le_depth ⟨f :: fs, nodes⟩
    rw [counters, List.length_map] at hlen
    rw [hparens, depth_add]
    apply Nat.max_eq_left hlen
  · have hdepth : f.close.depth = 1 + depthOfAll f.allArgs := rfl
    rw [hclose, depth_add, hdepth]
    simp only [depth, framesDepth]
    omega
  · rw [hend]
    rfl

/-- A call that opens stands in all the calls that are open. -/
theorem depth_openCall (p : Reading) (name : String) :
  (p.openCall name).depth = max p.depth (p.counters.length + 1)
  := by
  simp only [openCall, depth, framesDepth, counters, List.length_map, Frame.start,
    Frame.allArgs_of_nil, depthOfAll]
  omega

/-! ### Runs -/

/-- The counters of the reading that tokens lead to are the last stack. -/
theorem Reaches.getLast?_counterStacks
    {p q : Reading} {ts : List Token} (h : Reaches p ts q) :
  (Token.counterStacks p.counters ts).getLast? = some q.counters
  := by
  induction h with
  | nil p => rfl
  | call name h ih =>
    rw [Token.counterStacks, List.getLast?_cons_of_ne_nil (Token.counterStacks_ne_nil _ _)]
    apply ih
  | token t ht h ih =>
    rw [Token.counterStacks_token _ ht,
      List.getLast?_cons_of_ne_nil (Token.counterStacks_ne_nil _ _), ← counters_step]
    apply ih

/-- The depth of the reading that tokens lead to is that of the reading before them or the
greatest height of the stacks. -/
theorem Reaches.depth_eq
    {p q : Reading} {ts : List Token} (h : Reaches p ts q) :
  q.depth = max p.depth (Token.peak (Token.counterStacks p.counters ts))
  := by
  induction h with
  | nil p =>
    have := p.length_counters_le_depth
    simp only [Token.counterStacks, Token.peak, List.map_cons, List.map_nil, List.foldr_cons,
      List.foldr_nil]
    omega
  | @call p q ts name h ih =>
    have hlen := p.length_counters_le_depth
    have hpeak := Token.length_le_peak_counterStacks (0 :: p.counters) ts
    have hopen : (p.openCall name).counters = 0 :: p.counters := rfl
    rw [ih, hopen, depth_openCall, Token.counterStacks, Token.peak_cons]
    rw [List.length_cons] at hpeak
    omega
  | @token p q ts t ht h ih =>
    have hlen := p.length_counters_le_depth
    rw [ih, depth_step, counters_step, Token.counterStacks_token _ ht, Token.peak_cons]
    omega

end Reading

theorem getLast?_counterStacks_eq_nil_iff
    {q : Reading} {ts : List Token} (h : Reading.Reaches .start ts q) :
  (Token.counterStacks [] ts).getLast? = some [] ↔ q.frames = []
  := by
  have hlast : (Token.counterStacks [] ts).getLast? = some q.counters := h.getLast?_counterStacks
  rw [hlast]
  simp [Reading.counters]

/-- Tokens are a formula exactly when a parenthesis follows every function name and the
last stack is empty, and then the depth of the formula is the greatest height of the
stacks.  Otherwise the leftmost function name without a parenthesis is reported, or, where
there is none, the parenthesis that the end lacks. -/
theorem ofTokens_eq_ok_iff_stacks (ts : List Token) :
  ((∃ e, ofTokens ts = .ok e)
      ↔ (∀ i, ¬ Reading.BareAt ts i) ∧ (Token.counterStacks [] ts).getLast? = some [])
    ∧ (∀ i, Reading.LeftmostBareAt ts i → ∃ err, ofTokens ts = .error err
      ∧ err.message = "Expected LPAREN but got " ++ ((ts[i + 1]?.map (·.kind.name)).getD "EOF"))
    ∧ ((∀ i, ¬ Reading.BareAt ts i) → ∀ err, ofTokens ts = .error err →
      err.message = "Expected RPAREN but got EOF")
    ∧ ∀ e, ofTokens ts = .ok e → e.depth = Token.peak (Token.counterStacks [] ts)
  := by
  refine ⟨?_, ?_, ?_, ?_⟩
  · rw [← Reading.exists_reaches_iff .start]
    constructor
    · rintro ⟨e, he⟩
      obtain ⟨q, hq, hframes, -⟩ := (ofTokens_eq_ok_iff _ _).mp he
      exact ⟨⟨q, hq⟩, (getLast?_counterStacks_eq_nil_iff hq).mpr hframes⟩
    · rintro ⟨⟨q, hq⟩, hlast⟩
      use ofParts q.nodes
      apply (ofTokens_eq_ok_iff _ _).mpr
      use q, hq, (getLast?_counterStacks_eq_nil_iff hq).mp hlast
  · intro i hi
    have herror := Reading.run_of_leftmost .start hi
    rw [← ofTokens_eq_run] at herror
    use ⟨.leftParen, ts[i + 1]?.map Token.kind⟩, herror
    cases ts[i + 1]? <;> rfl
  · intro h err herr
    obtain ⟨q, hq⟩ := (Reading.exists_reaches_iff .start ts).mpr h
    rw [ofTokens_eq_run, hq.run, Reading.finish] at herr
    cases hframes : q.frames with
    | nil => simp [hframes] at herr
    | cons f fs =>
      obtain rfl : ⟨.rightParen, none⟩ = err := by simpa [hframes] using herr
      rfl
  · intro e he
    obtain ⟨q, hq, hframes, rfl⟩ := (ofTokens_eq_ok_iff _ _).mp he
    have hend : q.depth = depthOfAll q.nodes := by
      simp [Reading.depth, hframes, Reading.framesDepth]
    have hstart : Reading.start.depth = 0 := rfl
    rw [depth_ofParts, ← hend, hq.depth_eq, hstart, Nat.zero_max]
    rfl

end Expr

end FieldFormula
