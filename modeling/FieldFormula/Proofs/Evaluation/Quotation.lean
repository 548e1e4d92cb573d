import FieldFormula.Proofs.Arithmetic.Phrase
import FieldFormula.Proofs.Evaluation.Calculation
import FieldFormula.Proofs.Evaluation.Concatenation
import FieldFormula.Proofs.Token.Numbers

/-!
# Calculations with and without quotation marks

As the argument of the function of arithmetic, a phrase in quotation marks is computed as it
stands.  Without them it falls apart into tokens, and the texts of these side by side spell the
phrase without its spaces and parentheses.  So it is computed like the phrase in quotation marks
that has no parentheses, as long as its numbers are written without an exponent.

* `Phrase.ofChars_chars`: the tokens of a phrase.
* `Phrase.reaches_tokens`: the tokens are parts of the innermost open call.
* `compile_phrase`: a phrase without quotation marks is computed without its parentheses.
-/

namespace FieldFormula

namespace Token

/-- Digits at the front of a text are the token of their number. -/
theorem ofChars_toDigits (n : Nat) {rest : List Char} (hrest : Arithmetic.EndsNumber rest) :
  ofChars (Nat.toDigits 10 n ++ rest)
    = .number (Decimal.nearest n 0) :: ofChars rest
  := by
  have hdigits := ofChars_digits (Decimal.toDigits_ne_nil n)
    (fun _ => Decimal.isDigit_of_mem_toDigits) hrest false
  rwa [Decimal.digitsValue_toDigits] at hdigits

end Token

namespace Expr.Reading

/-- Within a call, a closing parenthesis that something opened leaves the call open. -/
theorem step_rightParen_of_pos {f : Frame} (hf : 0 < f.parens) (fs : List Frame)
    (nodes : List Expr) :
  step ⟨f :: fs, nodes⟩ .rightParen
    = Reading.add ⟨{ f with parens := f.parens - 1 } :: fs, nodes⟩ .empty
  := if_neg hf.ne'

end Expr.Reading

namespace Arithmetic.Phrase

open Expr.Reading (Reaches part)

/-! ### Tokens of a phrase -/

/-- The tokens of a phrase. -/
def tokens : Phrase → List Token
  | number n => [.number (Decimal.nearest n 0)]
  | parens inner => .leftParen :: (inner.tokens ++ [.rightParen])
  | join left op right => left.tokens ++ (op.chars.map .operator ++ right.tokens)

/-- Nothing in a phrase has to be escaped in quotation marks. -/
theorem forall_mem_chars (e : Phrase) :
  ∀ c ∈ e.chars, c ≠ '"' ∧ c ≠ '\\'
  := by
  induction e with
  | number n =>
    intro c hc
    have hdigit := Decimal.isDigit_of_mem_toDigits hc
    constructor <;> rintro rfl <;> contradiction
  | parens inner ih =>
    simp only [chars, List.forall_mem_cons, List.forall_mem_append]
    use by decide, ih, by decide
    simp
  | join left op right ihl ihr =>
    have hop : ∀ c ∈ op.chars, c ≠ '"' ∧ c ≠ '\\' := by
      cases op <;> simp [Operator.chars]
    simp only [chars, List.forall_mem_cons, List.forall_mem_append]
    use ihl, by decide, hop, by decide, ihr

theorem tokens_ne_nil (e : Phrase) :
  e.tokens ≠ []
  := by
  induction e with
  | number n => simp [tokens]
  | parens inner _ => simp [tokens]
  | join left op right ihl _ => simp [tokens, ihl]

/-- The tokens of a phrase before something that does not continue its last number. -/
theorem ofChars_chars (e : Phrase) {rest : List Char} (hrest : EndsNumber rest) :
  Token.ofChars (e.chars ++ rest) = e.tokens ++ Token.ofChars rest
  := by
  induction e generalizing rest with
  | number n => apply Token.ofChars_toDigits n hrest
  | parens inner ih =>
    have hinner := ih (endsNumber_rightParen rest)
    rw [Token.ofChars_rightParen] at hinner
    simp [chars, tokens, Token.ofChars_leftParen, hinner]
  | join left op right ihl ihr =>
    have hleft := ihl (endsNumber_blank (op.chars ++ ' ' :: (right.chars ++ rest)))
    rw [Token.ofChars_space, Token.ofChars_operator, ihr hrest] at hleft
    simpa [chars, tokens] using hleft

/-- Within a call, the tokens of a phrase are parts of the argument, and all parentheses that they
open are closed again. -/
theorem reaches_tokens (e : Phrase) (f : Expr.Frame) (fs : List Expr.Frame) (nodes : List Expr) :
  Reaches ⟨f :: fs, nodes⟩ e.tokens
    ⟨{ f with parts := f.parts ++ e.tokens.map part } :: fs, nodes⟩
  := by
  induction e generalizing f with
  | number n => apply Reaches.single _ (by simp)
  -- the parentheses move the counter up and down again, and each leaves an empty part
  | parens inner ih =>
    have hinner := ih ⟨f.name, f.args, f.parts ++ [.empty], f.parens + 1⟩
    have hclose := Reaches.single ⟨⟨f.name, f.args, f.parts ++ [.empty] ++ inner.tokens.map part,
      f.parens + 1⟩ :: fs, nodes⟩ (t := .rightParen) (by simp)
    rw [Expr.Reading.step_rightParen_of_pos (Nat.succ_pos f.parens)] at hclose
    have hread := Reaches.token (p := ⟨f :: fs, nodes⟩) .leftParen (by simp) (hinner.append hclose)
    simpa [tokens, part, Expr.Reading.add, Expr.Frame.addPart] using hread
  | join left op right ihl ihr =>
    have hop := Expr.reaches_operators op.chars
      ⟨{ f with parts := f.parts ++ left.tokens.map part } :: fs, nodes⟩
    rw [Expr.Reading.addAll_frame] at hop
    have hread := (ihl f).append (hop.append (ihr _))
    simpa [tokens] using hread

/-- The texts of the tokens side by side are the phrase without its spaces and parentheses. -/
theorem flatMap_chars_tokens (e : Phrase) (ctx : Context) :
  ((e.tokens.map part).flatMap fun p => (p.evaluate ctx).chars)
    = e.flat (fun n => (Value.number (Decimal.nearest n 0)).chars) []
  := by
  induction e with
  | number n => simp [tokens, flat, part, Expr.evaluate]
  | parens inner ih =>
    have hempty : (Expr.empty.evaluate ctx).chars = [] := rfl
    simpa [tokens, flat, part, hempty] using ih
  | join left op right ihl ihr =>
    rw [tokens, flat, List.map_append, List.map_append, List.flatMap_append, List.flatMap_append,
      ihl, Expr.flatMap_chars_operators, ihr]
    rfl

/-- The texts of floats spell numbers below `10 ^ 21`, as they have no exponents. -/
theorem spells_numberText {e : Phrase} (h : ∀ n ∈ e.numbers, n < 10 ^ 21 - 65536) :
  Spells (fun n => (Value.number (Decimal.nearest n 0)).chars) e
  := by
  intro n hn
  obtain ⟨k, hk, hnearest⟩ := Decimal.exists_numberText_nearest (h n hn)
  use k
  simp only [Value.chars, Value.toText, hk, String.toList_ofList]
  use trivial, hnearest

end Arithmetic.Phrase

/-! ### Two ways to write an argument -/

open Arithmetic (Phrase)
open Expr.Reading (Reaches part)

/-- A text in quotation marks, for which nothing in it has to be escaped. -/
def quote (s : String) : String :=
  "\"" ++ s ++ "\""

theorem flatMap_escape_eq_self {s : List Char} (h : ∀ c ∈ s, c ≠ '"' ∧ c ≠ '\\') :
  s.flatMap Token.escape = s
  := by
  induction s with
  | nil => rfl
  | cons c s ih =>
    rw [List.forall_mem_cons] at h
    rw [List.flatMap_cons, ih h.2, Token.escape, if_neg (by simp [h.1])]
    rfl

/-- A text in quotation marks is computed as it stands. -/
theorem compile_quote (draw : Float) (m : FieldMap) {s : String}
    (hplain : ∀ c ∈ s.toList, c ≠ '"' ∧ c ≠ '\\') :
  compile draw m (calcSource (quote s))
    = .ok (calculationText (Arithmetic.evaluate (Arithmetic.sanitize s.toList)))
  := by
  have htokens : Token.ofChars ((quote s).toList ++ [')']) = [.quoted s] ++ [.rightParen] := by
    have hchars :
        (quote s).toList ++ [')'] = '"' :: (s.toList.flatMap Token.escape ++ ['"', ')']) := by
      simp [quote, flatMap_escape_eq_self hplain]
    rw [hchars, Token.ofChars_cons rfl (by simp) (Token.next_quoted _ _), Token.ofChars_rightParen,
      Token.ofChars_nil, String.ofList_toList]
    rfl
  have hreaches : Reaches ⟨[.start "CALC"], []⟩ [.quoted s]
      ⟨[⟨"CALC", [], [.literal (.text s)], 0⟩], []⟩ := Reaches.single _ (by simp)
  apply compile_calcSource (by simp) htokens hreaches draw m
  apply List.flatMap_singleton

/-- A phrase without quotation marks is computed as what its tokens spell. -/
theorem compile_write (draw : Float) (m : FieldMap) (e : Phrase) :
  compile draw m (calcSource e.write)
    = .ok (calculationText (Arithmetic.evaluate (Arithmetic.sanitize
      (e.flat (fun n => (Value.number (Decimal.nearest n 0)).chars) []))))
  := by
  have htokens : Token.ofChars (e.write.toList ++ [')']) = e.tokens ++ [.rightParen] := by
    rw [Phrase.write, String.toList_ofList, e.ofChars_chars (Arithmetic.endsNumber_rightParen []),
      Token.ofChars_rightParen, Token.ofChars_nil]
  apply compile_calcSource (by simp [e.tokens_ne_nil]) htokens
    (e.reaches_tokens (.start "CALC") [] []) draw m
  apply e.flatMap_chars_tokens

/-- A phrase without quotation marks is computed like the phrase in quotation marks without its
parentheses, as long as the floats of its numbers are written without an exponent. -/
theorem compile_phrase (draw : Float) (m : FieldMap) (e : Phrase)
    (h : ∀ n ∈ e.numbers, n < 10 ^ 21 - 65536) :
  ∃ x, Arithmetic.evaluate e.writeFlat.toList = .ok x
    ∧ compile draw m (calcSource e.write) = .ok (Value.numberText x)
    ∧ compile draw m (calcSource (quote e.writeFlat)) = .ok (Value.numberText x)
    ∧ (e.chars.all (!Phrase.isParenthesis ·) →
      compile draw m (calcSource (quote e.write)) = .ok (Value.numberText x))
  := by
  -- the phrase in quotation marks and the texts of the tokens have the same symbols
  have hdigits := e.spells_toDigits
  have hnumbers := Phrase.spells_numberText h
  obtain ⟨x, hx⟩ := e.exists_evaluate_flat
  have hvalue := hx _ _ hdigits (Or.inr rfl)
  have hsanitize := Phrase.sanitize_flat hdigits (Or.inr rfl)
  rw [← e.toList_writeFlat] at hvalue hsanitize
  have hplain : ∀ c ∈ e.writeFlat.toList, c ≠ '"' ∧ c ≠ '\\' := by
    intro c hc
    rw [Phrase.writeFlat, String.toList_ofList] at hc
    apply e.forall_mem_chars c (List.mem_of_mem_filter hc)
  have hquote : compile draw m (calcSource (quote e.writeFlat)) = .ok (Value.numberText x) := by
    rw [compile_quote draw m hplain, hsanitize, hvalue]
    rfl
  use x, hvalue
  refine ⟨?_, hquote, ?_⟩
  · rw [compile_write, Phrase.sanitize_flat hnumbers (Or.inl rfl), hx _ _ hnumbers (Or.inl rfl)]
    rfl
  · intro hall
    have hwrite : e.write = e.writeFlat := by
      rw [Phrase.writeFlat, List.filter_eq_self.mpr (List.all_eq_true.mp hall)]
      rfl
    rwa [hwrite]

/-- Parentheses around a sum, and a power without parentheses, with the largest number whose float
is written without an exponent. -/
theorem compile_phrase_largest :
  let e : Phrase := .join (.parens (.join (.number 1) .add (.number 2))) .multiply (.number 3)
  let d : Phrase := .join (.number 2) .power (.number 999999999999999934463)
  (e.write = "(1 + 2) * 3" ∧ e.writeFlat = "1 + 2 * 3"
      ∧ ∃ x, compile 0.5 [] (calcSource e.write) = .ok (Value.numberText x)
        ∧ compile 0.5 [] (calcSource (quote e.writeFlat)) = .ok (Value.numberText x))
    ∧ (d.write = "2 ** 999999999999999934463"
      ∧ ∃ x, compile 0.5 [] (calcSource d.write) = .ok (Value.numberText x)
        ∧ compile 0.5 [] (calcSource (quote d.write)) = .ok (Value.numberText x))
  := by
  intro e d
  obtain ⟨x, -, hx, hflat, -⟩ := compile_phrase 0.5 [] e (by decide)
  obtain ⟨y, -, hy, -, hquoted⟩ := compile_phrase 0.5 [] d (by decide)
  refine ⟨⟨?_, ?_, x, hx, hflat⟩, ?_, y, hy, hquoted ?_⟩ <;> decide +kernel

/-- Parentheses are lost without quotation marks, and so is an exponent. -/
theorem compile_phrase_parentheses :
  let e : Phrase := .join (.parens (.join (.number 1) .add (.number 2))) .multiply (.number 3)
  let d : Phrase := .number 999999999999999934464
  (e.write = "(1 + 2) * 3" ∧ (Arithmetic.evaluate e.chars).isOk
      ∧ compile 0.5 [] (calcSource e.write) = .ok "7"
      ∧ compile 0.5 [] (calcSource (quote e.write)) = .ok "9")
    ∧ (d.write = "999999999999999934464" ∧ (Arithmetic.evaluate d.chars).isOk
      ∧ compile 0.5 [] (calcSource d.write) = .ok "22"
      ∧ compile 0.5 [] (calcSource (quote d.write)) = .ok "1e+21")
  := by
  intro e d
  refine ⟨⟨?_, ?_, ?_, ?_⟩, ?_, ?_, ?_, ?_⟩
  · decide +kernel
  · decide +kernel
  · rw [compile_write]
    apply congrArg Except.ok
    decide +kernel
  · rw [compile_quote 0.5 [] (by simpa [Phrase.write] using Phrase.forall_mem_chars _)]
    apply congrArg Except.ok
    decide +kernel
  · decide +kernel
  · decide +kernel
  · rw [compile_write]
    apply congrArg Except.ok
    decide +kernel
  · rw [compile_quote 0.5 [] (by simpa [Phrase.write] using Phrase.forall_mem_chars _)]
    apply congrArg Except.ok
    decide +kernel

end FieldFormula
