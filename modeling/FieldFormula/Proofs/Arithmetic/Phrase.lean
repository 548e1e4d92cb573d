import FieldFormula.Proofs.Arithmetic.Parsing
import FieldFormula.Proofs.Arithmetic.Spelling

/-!
# Arithmetic without signs

A phrase is an arithmetic expression as it is written: natural numbers and phrases in
parentheses, with an operator and single spaces between two of them.  Without its parentheses, a
phrase is a row of numbers with operators between them, and this always has a value.

* `Phrase.ofChars_flat`: the symbols of a phrase without its parentheses.
* `Phrase.exists_ofSymbols`: these symbols form a term.
* `Phrase.exists_evaluate_flat`: a phrase without its parentheses has a value.
-/

namespace FieldFormula.Arithmetic

/-- Arithmetic expressions as they are written.  No operator binds closer than another here, as
`join` only puts texts side by side. -/
inductive Phrase where
  | number (n : Nat)
  | parens (inner : Phrase)
  | join (left : Phrase) (op : Operator) (right : Phrase)

namespace Phrase

/-- The characters of a phrase. -/
def chars : Phrase → List Char
  | number n => Nat.toDigits 10 n
  | parens inner => '(' :: (inner.chars ++ [')'])
  | join left op right => left.chars ++ ' ' :: (op.chars ++ ' ' :: right.chars)

/-- The text of a phrase. -/
def write (e : Phrase) : String :=
  String.ofList e.chars

/-- Whether a character is a parenthesis. -/
def isParenthesis (c : Char) : Bool :=
  c == '(' || c == ')'

/-- The text of a phrase without its parentheses. -/
def writeFlat (e : Phrase) : String :=
  String.ofList (e.chars.filter (!isParenthesis ·))

/-- The numbers in a phrase. -/
def numbers : Phrase → List Nat
  | number n => [n]
  | parens inner => inner.numbers
  | join left _ right => left.numbers ++ right.numbers

/-! ### Symbols of a phrase without its parentheses -/

/-- The characters of a phrase without its parentheses, where `numeral` writes the numbers and
`gap` stands around each operator. -/
def flat (numeral : Nat → List Char) (gap : List Char) : Phrase → List Char
  | number n => numeral n
  | parens inner => inner.flat numeral gap
  | join left op right =>
    left.flat numeral gap ++ (gap ++ (op.chars ++ (gap ++ right.flat numeral gap)))

/-- The symbols of a phrase without its parentheses. -/
def symbols : Phrase → List Symbol
  | number n => [.number (Decimal.nearest n 0)]
  | parens inner => inner.symbols
  | join left op right => left.symbols ++ op.symbol :: right.symbols

theorem filter_chars (e : Phrase) :
  e.chars.filter (!isParenthesis ·) = e.flat (Nat.toDigits 10) [' ']
  := by
  induction e with
  | number n =>
    apply List.filter_eq_self.mpr
    intro c hc
    have hdigit := Decimal.isDigit_of_mem_toDigits hc
    simp only [isParenthesis, Bool.not_eq_true', Bool.or_eq_false_iff, beq_eq_false_iff_ne]
    constructor <;> rintro rfl <;> contradiction
  | parens inner ih =>
    simpa [chars, flat, isParenthesis] using ih
  | join left op right ihl ihr =>
    have hop : op.chars.filter (!isParenthesis ·) = op.chars := by
      cases op <;> rfl
    simp only [chars, flat, List.filter_append, List.filter_cons, hop, ihl, ihr]
    rfl

theorem toList_writeFlat (e : Phrase) :
  e.writeFlat.toList = e.flat (Nat.toDigits 10) [' ']
  := by
  rw [writeFlat, String.toList_ofList, filter_chars]

/-- Each number of a phrase is written as the digits of a number with the same float. -/
def Spells (numeral : Nat → List Char) (e : Phrase) : Prop :=
  ∀ n ∈ e.numbers, ∃ k, numeral n = Nat.toDigits 10 k
    ∧ Decimal.nearest k 0 = Decimal.nearest n 0

theorem spells_toDigits (e : Phrase) :
  Spells (Nat.toDigits 10) e
  := fun n _ => ⟨n, rfl, rfl⟩

theorem spells_number {numeral : Nat → List Char} {n : Nat} :
  Spells numeral (number n) ↔
    ∃ k, numeral n = Nat.toDigits 10 k ∧ Decimal.nearest k 0 = Decimal.nearest n 0
  := by
  simp [Spells, numbers]

theorem spells_join {numeral : Nat → List Char} {left right : Phrase} {op : Operator} :
  Spells numeral (join left op right) ↔ Spells numeral left ∧ Spells numeral right
  := List.forall_mem_append

section

variable {numeral : Nat → List Char} {gap : List Char} {e : Phrase} (hnumeral : Spells numeral e)

include hnumeral

/-- Without its parentheses, a phrase begins with a number. -/
theorem exists_flat_eq :
  ∃ n s, e.flat numeral gap = Nat.toDigits 10 n ++ s
  := by
  induction e with
  | number n =>
    obtain ⟨k, hk, -⟩ := spells_number.mp hnumeral
    use k, []
    rw [flat, hk, List.append_nil]
  | parens inner ih => apply ih hnumeral
  | join left op right ihl ihr =>
    obtain ⟨n, s, hs⟩ := ihl (spells_join.mp hnumeral).1
    use n, s ++ (gap ++ (op.chars ++ (gap ++ right.flat numeral gap)))
    rw [flat, hs, List.append_assoc]

variable (hgap : gap = [] ∨ gap = [' '])

include hgap

/-- The symbols of a phrase without its parentheses. -/
theorem ofChars_flat {rest : List Char} (hrest : EndsNumber rest) :
  Symbol.ofChars (e.flat numeral gap ++ rest) = (e.symbols ++ ·) <$> Symbol.ofChars rest
  := by
  induction e generalizing rest with
  | number n =>
    obtain ⟨k, hk, hnearest⟩ := spells_number.mp hnumeral
    rw [flat, hk, Symbol.ofChars_toDigits k hrest, hnearest]
    rfl
  | parens inner ih => apply ih hnumeral hrest
  | join left op right ihl ihr =>
    obtain ⟨hleft, hright⟩ := spells_join.mp hnumeral
    have hblanks : ∀ s, Symbol.ofChars (gap ++ s) = Symbol.ofChars s := by
      intro s
      obtain rfl | rfl := hgap
      · rfl
      · apply Symbol.ofChars_blank rfl
    -- behind the operator there is a space or the first digit of the right-hand side
    have hendsOperator : EndsOperator op (gap ++ (right.flat numeral gap ++ rest)) := by
      obtain rfl | rfl := hgap
      · obtain ⟨n, s, hs⟩ := @exists_flat_eq numeral [] right hright
        rw [hs, List.nil_append, List.append_assoc]
        apply endsOperator_toDigits
      · apply endsOperator_blank
    have hendsNumber :
        EndsNumber (gap ++ (op.chars ++ (gap ++ (right.flat numeral gap ++ rest)))) := by
      obtain rfl | rfl := hgap
      · apply op.endsNumber_chars
      · apply endsNumber_blank
    simp only [flat, List.append_assoc]
    rw [ihl hleft hendsNumber, hblanks, Symbol.ofChars_operator op hendsOperator, hblanks,
      ihr hright hrest]
    simp only [Functor.map_map, symbols, List.append_assoc, List.cons_append]

/-- Nothing is struck from a phrase without its parentheses. -/
theorem sanitize_flat :
  sanitize (e.flat numeral gap) = e.flat numeral gap
  := by
  induction e with
  | number n =>
    obtain ⟨k, hk, -⟩ := spells_number.mp hnumeral
    rw [flat, hk, sanitize_toDigits]
  | parens inner ih => apply ih hnumeral
  | join left op right ihl ihr =>
    obtain ⟨hleft, hright⟩ := spells_join.mp hnumeral
    have hblanks : sanitize gap = gap := by
      obtain rfl | rfl := hgap <;> rfl
    simp only [flat, sanitize_append, op.sanitize_chars, hblanks, ihl hleft, ihr hright]

end

/-! ### The term of a phrase without its parentheses -/

/-- Where no sign waits, an operator may follow. -/
theorem continuation_operator (op : Operator) {l : Level} (hl : l.signs = []) (t : Term)
    (s : List Symbol) :
  ∃ l' : Level, l'.signs = []
    ∧ Term.continuation l [] t (op.symbol :: s) = Term.operand l' [] s
  := by
  cases op with
  | add | subtract => exact ⟨⟨_, none, [], []⟩, rfl, rfl⟩
  | multiply | divide | modulo => exact ⟨⟨_, _, [], []⟩, rfl, rfl⟩
  | power =>
    use { l with bases := t :: l.bases }, hl
    simp only [Operator.symbol, Term.continuation, hl, List.isEmpty_nil, if_true]

theorem exists_operand_symbols (e : Phrase) {l : Level} (hl : l.signs = []) (s : List Symbol) :
  ∃ (l' : Level) (t : Term), l'.signs = []
    ∧ Term.operand l [] (e.symbols ++ s) = Term.continuation l' [] t s
  := by
  induction e generalizing l s with
  | number n => exact ⟨l, _, hl, rfl⟩
  | parens inner ih => apply ih hl
  | join left op right ihl ihr =>
    obtain ⟨l₁, t₁, hl₁, hleft⟩ := ihl hl (op.symbol :: (right.symbols ++ s))
    obtain ⟨l₂, hl₂, hoperator⟩ := continuation_operator op hl₁ t₁ (right.symbols ++ s)
    obtain ⟨l₃, t₃, hl₃, hright⟩ := ihr hl₂ s
    use l₃, t₃, hl₃
    rw [symbols, List.append_assoc, List.cons_append, hleft, hoperator, hright]

theorem symbols_ne_nil (e : Phrase) :
  e.symbols ≠ []
  := by
  induction e with
  | number n => simp [symbols]
  | parens inner ih => apply ih
  | join left op right _ _ => simp [symbols]

/-- The symbols of a phrase without its parentheses form a term. -/
theorem exists_ofSymbols (e : Phrase) :
  ∃ t, Term.ofSymbols e.symbols = .ok t
  := by
  obtain ⟨l, t, -, h⟩ := e.exists_operand_symbols (l := .start) rfl []
  use l.completeSum t
  rw [List.append_nil] at h
  rw [Grammar.ofSymbols_of_ne_nil e.symbols_ne_nil, h, Term.continuation]

/-- A phrase without its parentheses has a value, however its numbers and gaps are written. -/
theorem exists_evaluate_flat (e : Phrase) :
  ∃ x, ∀ (numeral : Nat → List Char) (gap : List Char), Spells numeral e →
    gap = [] ∨ gap = [' '] → evaluate (e.flat numeral gap) = .ok x
  := by
  obtain ⟨t, ht⟩ := e.exists_ofSymbols
  use t.value
  intro numeral gap hnumeral hgap
  have hflat := ofChars_flat hnumeral hgap endsNumber_nil
  rw [List.append_nil, Symbol.ofChars_nil] at hflat
  have hsymbols : Symbol.ofChars (e.flat numeral gap) = .ok (e.symbols ++ []) := hflat
  rw [List.append_nil] at hsymbols
  exact (Grammar.evaluate_eq_ok_iff _ _).mpr ⟨_, _, hsymbols, ht, rfl⟩

end Phrase

end FieldFormula.Arithmetic
