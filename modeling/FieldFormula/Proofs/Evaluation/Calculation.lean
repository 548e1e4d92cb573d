import FieldFormula.Compile
import FieldFormula.Proofs.Arithmetic.Parsing
import FieldFormula.Proofs.Arithmetic.Spelling
import FieldFormula.Proofs.Evaluation.Concatenation
import FieldFormula.Proofs.Expr.Printing
import FieldFormula.Proofs.Registry.Lookup
import FieldFormula.Proofs.Token.Writing

/-!
# Calculations with fields

A call of the function of arithmetic computes the expression that its argument spells.  The
values of two fields with an operator between them spell the operation, where a negative value
has a sign in front.  So integers are computed without an error, unless a sign stands behind a
minus: the two would be one operator, which is refused.

* `compile_calcSource`: the text of a formula that is a call of the function of arithmetic.
* `Symbol.ofChars_toString`: the symbols of an integer.
* `compile_fields`: sums, differences and products of integers in fields.
-/

namespace FieldFormula

open Arithmetic (Symbol Operator Level Term EndsNumber EndsOperator)
open Expr.Reading (Reaches part)

/-! ### Calls of the function of arithmetic -/

namespace Token

theorem ofChars_leftParen (s : List Char) :
  ofChars ('(' :: s) = .leftParen :: ofChars s
  := ofChars_cons rfl (by simp) rfl

theorem ofChars_rightParen (s : List Char) :
  ofChars (')' :: s) = .rightParen :: ofChars s
  := ofChars_cons rfl (by simp) rfl

/-- An operator before a space is a token for each of its characters. -/
theorem ofChars_operator (op : Operator) (rest : List Char) :
  ofChars (op.chars ++ ' ' :: rest) = op.chars.map .operator ++ ofChars rest
  := by
  have hone : ∀ c ∈ operators, ofChars (c :: ' ' :: rest) = .operator c :: ofChars rest := by
    intro c hc
    have hoperator := (Lexeme.operator c hc).ofChars_append (isSeparated_space rest)
    rwa [ofChars_space] at hoperator
  cases op with
  -- the first star of a power has no space behind it
  | power =>
    have hfirst : next '*' ('*' :: ' ' :: rest) = (.operator '*', '*' :: ' ' :: rest) := rfl
    have hstar := ofChars_cons rfl (by simp) hfirst
    rw [hone '*' (by decide)] at hstar
    apply hstar
  | _ => exact hone _ (by decide)

end Token

/-- Within a call or outside all calls, numbers and operators are parts of their own. -/
theorem Expr.reaches_addAll {ts : List Token}
    (hts : ∀ t ∈ ts, (∃ n, t = .number n) ∨ ∃ c, t = .operator c) (p : Reading) :
  Reaches p ts (p.addAll (ts.map part))
  := by
  induction ts generalizing p with
  | nil => apply Reaches.nil
  | cons t ts ih =>
    rw [List.forall_mem_cons] at hts
    obtain ⟨⟨n, rfl⟩ | ⟨c, rfl⟩, hts⟩ := hts <;> exact Reaches.token _ (by simp) (ih hts _)

theorem Expr.reaches_operators (cs : List Char) (p : Reading) :
  Reaches p (cs.map .operator) (p.addAll ((cs.map .operator).map part))
  := by
  apply reaches_addAll
  intro t ht
  obtain ⟨c, -, rfl⟩ := List.mem_map.mp ht
  exact Or.inr ⟨c, rfl⟩

theorem Expr.flatMap_chars_operators (cs : List Char) (ctx : Context) :
  (((cs.map .operator).map part).flatMap fun p => (p.evaluate ctx).chars) = cs
  := by
  induction cs with
  | nil => rfl
  | cons c cs ih =>
    rw [List.map_cons, List.map_cons, List.flatMap_cons, ih]
    simp [part, Expr.evaluate, Value.chars, Value.toText]

/-- The text of the result of a calculation. -/
def calculationText : Except Arithmetic.Error Float → String
  | .ok x => Value.numberText x
  | .error e => "[Calc error: " ++ e.message ++ "]"

/-- A formula that calls the function of arithmetic with the text of the argument given. -/
def calcSource (argument : String) : String :=
  "=CALC(" ++ argument ++ ")"

section

variable {argument : String} {ts : List Token} {parts : List Expr} (hne : parts ≠ [])
  (htokens : Token.ofChars (argument.toList ++ [')']) = ts ++ [.rightParen])
  (hreaches : Reaches ⟨[.start "CALC"], []⟩ ts ⟨[⟨"CALC", [], parts, 0⟩], []⟩)

include hne htokens hreaches

theorem ofSource_calcSource :
  Expr.ofSource (calcSource argument) = .ok (.call "CALC" [Expr.ofParts parts])
  := by
  have hlead : Token.next '=' ('C' :: 'A' :: 'L' :: 'C' :: '(' :: (argument.toList ++ [')']))
      = (.function "CALC", '(' :: (argument.toList ++ [')'])) := rfl
  have hsource : Token.ofSource (calcSource argument)
      = .function "CALC" :: .leftParen :: (ts ++ [.rightParen]) := by
    have hchars : (calcSource argument).toList
        = '=' :: 'C' :: 'A' :: 'L' :: 'C' :: '(' :: (argument.toList ++ [')']) := by
      simp [calcSource]
    rw [Token.ofSource, hchars, Token.ofChars_cons rfl (by simp) hlead, Token.ofChars_leftParen,
      htokens]
  have hclose := Reaches.single ⟨[⟨"CALC", [], parts, 0⟩], []⟩ (t := .rightParen) (by simp)
  have hcall : Expr.Frame.close ⟨"CALC", [], parts, 0⟩ = .call "CALC" [Expr.ofParts parts] := by
    rw [Expr.Frame.close, Expr.Frame.allArgs_of_ne_nil _ _ hne, List.nil_append]
  rw [Expr.Reading.step_rightParen rfl, hcall] at hclose
  rw [Expr.ofSource, hsource]
  apply (Expr.ofTokens_eq_ok_iff _ _).mpr
  exact ⟨_, Reaches.call "CALC" (hreaches.append hclose), rfl, rfl⟩

/-- A formula that calls the function of arithmetic has the text of what the parts of the
argument spell side by side. -/
theorem compile_calcSource (draw : Float) (m : FieldMap) {s : List Char}
    (hs : (parts.flatMap fun p => (p.evaluate ⟨.builtin, some m, draw⟩).chars) = s) :
  compile draw m (calcSource argument)
    = .ok (calculationText (Arithmetic.evaluate (Arithmetic.sanitize s)))
  := by
  have hregistry : Context.registry ⟨.builtin, some m, draw⟩ = .builtin := rfl
  rw [compile_eq_ok (ofSource_calcSource hne htokens hreaches),
    Expr.evaluate_call hregistry "CALC" Library.arithmetic rfl, Expr.evaluateAll, Expr.evaluateAll,
    Library.arithmetic, Call.allChars, List.map_singleton, List.flatten_singleton,
    Expr.chars_evaluate_ofParts, hs]
  cases Arithmetic.evaluate (Arithmetic.sanitize s) <;> rfl

end

/-! ### Integers -/

namespace Arithmetic

/-- The symbols of an integer. -/
def Symbol.ofInt (k : Int) : List Symbol :=
  (if k < 0 then [.minus] else []) ++ [.number (Decimal.nearest k.natAbs 0)]

/-- The term of an integer. -/
def Term.ofInt (k : Int) : Term :=
  if k < 0 then .negative (.number (Decimal.nearest k.natAbs 0))
  else .number (Decimal.nearest k.natAbs 0)

theorem Symbol.ofChars_toString (k : Int) {rest : List Char} (hrest : EndsNumber rest) :
  ofChars ((toString k).toList ++ rest) = (ofInt k ++ ·) <$> ofChars rest
  := by
  rw [Decimal.toList_toString, ofInt]
  split
  · have hminus := ofChars_operator .subtract (endsOperator_toDigits .subtract k.natAbs rest)
    rw [ofChars_toDigits _ hrest, Functor.map_map] at hminus
    apply hminus
  · apply ofChars_toDigits _ hrest

theorem sanitize_toString (k : Int) :
  sanitize (toString k).toList = (toString k).toList
  := by
  rw [Decimal.toList_toString, sanitize_append, sanitize_toDigits]
  split <;> rfl

/-- Only a minus becomes another operator before an integer, which then is negative. -/
theorem endsOperator_toString {op : Operator} {k : Int} (h : op = .subtract → 0 ≤ k) :
  EndsOperator op (toString k).toList
  := by
  rw [Decimal.toList_toString]
  split
  · next hneg =>
    cases op with
    | subtract => cases (h rfl).not_gt hneg
    | _ => rintro ⟨⟩
  · have hdigits := endsOperator_toDigits op k.natAbs []
    rwa [List.append_nil] at hdigits

/-- Integers up to `2 ^ 53` are the values of their terms. -/
theorem denotes_ofInt {k : Int} (hk : |k| ≤ 2 ^ 53) :
  Decimal.Denotes (Term.ofInt k).value k
  := by
  have hnearest : Decimal.Denotes (Decimal.nearest k.natAbs 0) k.natAbs := by
    apply Decimal.denotes_nearest
    rw [Int.abs_eq_natAbs] at hk
    omega
  rw [Nat.cast_natAbs] at hnearest
  rw [Term.ofInt]
  split
  · next hneg =>
    have hminus := Decimal.denotes_neg hnearest
    rwa [abs_of_neg hneg, Int.cast_neg, neg_neg] at hminus
  · next hnonneg =>
    rwa [abs_of_nonneg (not_lt.mp hnonneg)] at hnearest

/-- Two integers with an operator between them spell the operation. -/
theorem evaluate_toString (op : Operator) (hop : op ∈ [.add, .subtract, .multiply]) (a : Int)
    {b : Int} (hb : op = .subtract → 0 ≤ b) :
  evaluate ((toString a).toList ++ (op.chars ++ (toString b).toList))
    = .ok (op.apply (Term.ofInt a).value (Term.ofInt b).value)
  := by
  have hlast := Symbol.ofChars_toString b endsNumber_nil
  rw [List.append_nil] at hlast
  have hsymbols : Symbol.ofChars ((toString a).toList ++ (op.chars ++ (toString b).toList))
      = .ok (Symbol.ofInt a ++ op.symbol :: (Symbol.ofInt b ++ [])) := by
    rw [Symbol.ofChars_toString a (op.endsNumber_chars _),
      Symbol.ofChars_operator op (endsOperator_toString hb), hlast, Symbol.ofChars_nil]
    rfl
  have hterm : Term.ofSymbols (Symbol.ofInt a ++ op.symbol :: (Symbol.ofInt b ++ []))
      = .ok (.binary op (Term.ofInt a) (Term.ofInt b)) := by
    -- the signs wait for their operands only, so every case is computed
    simp only [List.mem_cons, List.not_mem_nil, or_false] at hop
    rw [Symbol.ofInt, Symbol.ofInt, Term.ofInt, Term.ofInt]
    obtain rfl | rfl | rfl := hop <;> split <;> split <;> rfl
  exact (Grammar.evaluate_eq_ok_iff _ _).mpr ⟨_, _, hsymbols, hterm, rfl⟩

/-- A sign behind a minus is refused. -/
theorem evaluate_doubledSign (a : Int) {b : Int} (hb : b < 0) :
  evaluate ((toString a).toList ++ (Operator.subtract.chars ++ (toString b).toList))
    = .error .doubledSign
  := by
  have hsigns : Symbol.ofChars (Operator.subtract.chars ++ (toString b).toList)
      = .error .doubledSign := by
    rw [Decimal.toList_toString, if_pos hb, Operator.chars, List.singleton_append,
      Symbol.ofChars_eq_ite]
    rfl
  rw [evaluate, Symbol.ofChars_toString a (Operator.endsNumber_chars .subtract _), hsigns]
  rfl

end Arithmetic

/-! ### Operations on fields -/

/-- Two fields with an operator between them. -/
def operation (op : Operator) : String :=
  "[[A]] " ++ String.ofList op.chars ++ " [[B]]"

theorem ofChars_operation (op : Operator) :
  Token.ofChars ((operation op).toList ++ [')'])
    = .field "A" :: (op.chars.map .operator ++ [.field "B"]) ++ [.rightParen]
  := by
  have hchars : (operation op).toList ++ [')'] = '[' :: '[' :: 'A' :: ']' :: ']' :: ' ' ::
      (op.chars ++ ' ' :: '[' :: '[' :: 'B' :: ']' :: ']' :: [')']) := by
    simp [operation]
  have hleft : ∀ rest, Token.next '[' ('[' :: 'A' :: ']' :: ']' :: rest) = (.field "A", rest) :=
    fun _ => rfl
  have hright : ∀ rest, Token.next '[' ('[' :: 'B' :: ']' :: ']' :: rest) = (.field "B", rest) :=
    fun _ => rfl
  rw [hchars, Token.ofChars_cons rfl (by simp) (hleft _), Token.ofChars_space,
    Token.ofChars_operator, Token.ofChars_cons rfl (by simp) (hright _),
    Token.ofChars_rightParen, Token.ofChars_nil]
  simp

theorem reaches_operation (op : Operator) :
  Reaches ⟨[.start "CALC"], []⟩ (.field "A" :: (op.chars.map .operator ++ [.field "B"]))
    ⟨[⟨"CALC", [], .field "A" :: ((op.chars.map .operator).map part ++ [.field "B"]), 0⟩], []⟩
  := by
  have hoperator := Expr.reaches_operators op.chars ⟨[⟨"CALC", [], [.field "A"], 0⟩], []⟩
  rw [Expr.Reading.addAll_frame] at hoperator
  have hright := hoperator.append (Reaches.single _ (t := .field "B") (by simp))
  exact Reaches.token (.field "A") (by simp) hright

section

variable (draw : Float) {m : FieldMap} {a b : Int} (hA : m.get? "A" = some (toString a))
  (hB : m.get? "B" = some (toString b))

include hA hB

theorem compile_operation (op : Operator) :
  compile draw m (calcSource (operation op))
    = .ok (calculationText
      (Arithmetic.evaluate ((toString a).toList ++ (op.chars ++ (toString b).toList))))
  := by
  have hspelled : ((Expr.field "A" :: ((op.chars.map .operator).map part ++ [.field "B"])).flatMap
      fun p => (p.evaluate ⟨.builtin, some m, draw⟩).chars)
        = (toString a).toList ++ (op.chars ++ (toString b).toList) := by
    rw [List.flatMap_cons, List.flatMap_append, Expr.flatMap_chars_operators]
    simp [Expr.evaluate, Context.fieldText, hA, hB, Value.chars, Value.toText]
  rw [compile_calcSource (by simp) (ofChars_operation op) (reaches_operation op) draw m hspelled]
  simp only [Arithmetic.sanitize_append, Arithmetic.sanitize_toString, op.sanitize_chars]

/-- A field with a negative integer may not stand behind a minus. -/
theorem compile_doubledSign (hb : b < 0) :
  compile draw m (calcSource (operation .subtract))
    = .ok "[Calc error: increment and decrement operators are not supported]"
  := by
  rw [compile_operation draw hA hB, Arithmetic.evaluate_doubledSign a hb]
  rfl

/-- An operation is exact where its operator is exact on floats. -/
theorem compile_of_denotes (op : Operator) (hop : op ∈ [.add, .subtract, .multiply])
    (hb : op = .subtract → 0 ≤ b) {k : Int} (hk : |k| ≤ 2 ^ 53)
    (h : Decimal.IsRepresentable k →
      Decimal.Denotes (op.apply (Term.ofInt a).value (Term.ofInt b).value) k) :
  compile draw m (calcSource (operation op)) = .ok (toString k)
  := by
  have hdenotes := h (Decimal.isRepresentable_intCast hk)
  rw [compile_operation draw hA hB, Arithmetic.evaluate_toString op hop a hb]
  exact congrArg _ (Decimal.numberText_of_denotes hdenotes hk)

/-- Sums, differences and products of integers in fields are exact up to `2 ^ 53`, where a
negative integer may not stand behind a minus. -/
theorem compile_fields (ha : |a| ≤ 2 ^ 53) (hb : |b| ≤ 2 ^ 53) :
  (|a + b| ≤ 2 ^ 53 → compile draw m "=CALC([[A]] + [[B]])" = .ok (toString (a + b)))
    ∧ (|a * b| ≤ 2 ^ 53 → compile draw m "=CALC([[A]] * [[B]])" = .ok (toString (a * b)))
    ∧ (|a - b| ≤ 2 ^ 53 → 0 ≤ b →
      compile draw m "=CALC([[A]] - [[B]])" = .ok (toString (a - b)))
    ∧ (b < 0 → compile draw m "=CALC([[A]] - [[B]])"
      = .ok "[Calc error: increment and decrement operators are not supported]")
  := by
  have hleft := Arithmetic.denotes_ofInt ha
  have hright := Arithmetic.denotes_ofInt hb
  refine ⟨?_, ?_, ?_, ?_⟩
  · intro hsum
    apply compile_of_denotes draw hA hB .add (by simp) (by simp) hsum
    rw [Int.cast_add]
    apply Decimal.denotes_add hleft hright
  · intro hproduct
    apply compile_of_denotes draw hA hB .multiply (by simp) (by simp) hproduct
    rw [Int.cast_mul]
    apply Decimal.denotes_mul hleft hright
  · intro hdifference hnonneg
    apply compile_of_denotes draw hA hB .subtract (by simp) (fun _ => hnonneg) hdifference
    rw [Int.cast_sub]
    apply Decimal.denotes_sub hleft hright
  · apply compile_doubledSign draw hA hB

end

/-- Integers as large as can be, and both signs behind an operator. -/
theorem compile_fields_largest :
  let m := [("A", "-9007199254740991"), ("B", "-1")]
  let m' := [("A", "-9007199254740991"), ("B", "1")]
  compile 0.5 m "=CALC([[A]] + [[B]])" = .ok "-9007199254740992"
    ∧ compile 0.5 m "=CALC([[A]] * [[B]])" = .ok "9007199254740991"
    ∧ compile 0.5 m' "=CALC([[A]] - [[B]])" = .ok "-9007199254740992"
    ∧ compile 0.5 m "=CALC([[A]] - [[B]])"
      = .ok "[Calc error: increment and decrement operators are not supported]"
  := by
  intro m m'
  have hA : m.lookup "A" = some (toString (-9007199254740991 : Int)) := by decide +kernel
  have hB : m.lookup "B" = some (toString (-1 : Int)) := by decide +kernel
  have hA' : m'.lookup "A" = some (toString (-9007199254740991 : Int)) := by decide +kernel
  have hB' : m'.lookup "B" = some (toString (1 : Int)) := by decide +kernel
  obtain ⟨hsum, hproduct, -, hrefused⟩ := compile_fields 0.5 hA hB (by decide) (by decide)
  obtain ⟨-, -, hdifference, -⟩ := compile_fields 0.5 hA' hB' (by decide) (by decide)
  refine ⟨?_, ?_, ?_, ?_⟩
  · apply hsum (by decide)
  · apply hproduct (by decide)
  · apply hdifference (by decide) (by decide)
  · apply hrefused (by decide)

/-- The difference of five and minus three is within the bounds, and it is refused. -/
theorem compile_fields_refused :
  let a : Int := 5
  let b : Int := -3
  |a| ≤ 2 ^ 53 ∧ |b| ≤ 2 ^ 53 ∧ |a - b| ≤ 2 ^ 53
    ∧ compile 0.5 [("A", toString a), ("B", toString b)] "=CALC([[A]] - [[B]])"
      ≠ .ok (toString (a - b))
  := by
  intro a b
  refine ⟨by decide, by decide, by decide, ?_⟩
  have hrefused := compile_doubledSign 0.5 (m := [("A", toString a), ("B", toString b)])
    (a := a) (b := b) rfl rfl (by decide)
  intro heq
  have hdigits : toString (a - b) = "8" := by decide +kernel
  have htext := Except.ok.inj (hrefused.symm.trans heq)
  rw [hdigits] at htext
  contradiction

end FieldFormula
