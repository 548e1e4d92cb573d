import FieldFormula.Arithmetic.Term
import FieldFormula.Proofs.Decimal.Reading

/-!
# Symbols of written numbers and operators

Digits at the front of a text are read as a number, and an operator is read as its symbol, as
long as what follows does not continue them.  Blanks between symbols do not matter.

* `ofChars_toDigits`: digits are read as the float nearest to their number.
* `ofChars_operator`: an operator is read as its symbol.
-/

namespace FieldFormula.Arithmetic

/-- The characters of an operator. -/
def Operator.chars : Operator → List Char
  | .add => ['+']
  | .subtract => ['-']
  | .multiply => ['*']
  | .divide => ['/']
  | .modulo => ['%']
  | .power => ['*', '*']

/-- The symbol of an operator. -/
def Operator.symbol : Operator → Symbol
  | .add => .plus
  | .subtract => .minus
  | .multiply => .times
  | .divide => .divide
  | .modulo => .modulo
  | .power => .power

/-- What does not continue the digits in front of it. -/
def EndsNumber (s : List Char) : Prop :=
  ∀ c ∈ s.head?, c.isDigit = false ∧ c ≠ '.'

/-- What does not make another operator of the one in front of it. -/
def EndsOperator (op : Operator) (s : List Char) : Prop :=
  s.head? ≠ op.chars.head?

theorem endsNumber_nil :
  EndsNumber []
  := by
  simp [EndsNumber]

theorem endsNumber_blank (s : List Char) :
  EndsNumber (' ' :: s)
  := by
  simp [EndsNumber]

theorem endsNumber_rightParen (s : List Char) :
  EndsNumber (')' :: s)
  := by
  simp [EndsNumber]

theorem endsOperator_blank (op : Operator) (s : List Char) :
  EndsOperator op (' ' :: s)
  := by
  cases op <;> simp [EndsOperator, Operator.chars]

theorem endsOperator_toDigits (op : Operator) (n : Nat) (s : List Char) :
  EndsOperator op (Nat.toDigits 10 n ++ s)
  := by
  obtain ⟨d, ds, hds, hd, -⟩ := Decimal.exists_toDigits_eq_cons n
  rw [hds]
  cases op <;>
  · rintro ⟨⟩
    contradiction

theorem Operator.endsNumber_chars (op : Operator) (s : List Char) :
  EndsNumber (op.chars ++ s)
  := by
  cases op <;> simp [EndsNumber, chars]

theorem sanitize_toDigits (n : Nat) :
  sanitize (Nat.toDigits 10 n) = Nat.toDigits 10 n
  := by
  apply List.filter_eq_self.mpr
  intro c hc
  rw [isArithmetic, Decimal.isDigit_of_mem_toDigits hc]
  rfl

theorem Operator.sanitize_chars (op : Operator) :
  sanitize op.chars = op.chars
  := by
  cases op <;> rfl

theorem sanitize_append (s t : List Char) :
  sanitize (s ++ t) = sanitize s ++ sanitize t
  := List.filter_append s t

namespace Symbol

/-! ### The front of a text -/

theorem ofChars_nil :
  ofChars [] = .ok []
  := by
  rw [ofChars.eq_def]

theorem ofChars_eq_ite (c : Char) (r : List Char) :
  ofChars (c :: r) =
    if Text.isBlank c then ofChars r
    else do
      let (symbol, n) ← next c r
      return symbol :: (← ofChars (r.drop n))
  := by
  rw [ofChars.eq_def]

theorem ofChars_blank {c : Char} (hc : Text.isBlank c = true) (s : List Char) :
  ofChars (c :: s) = ofChars s
  := by
  rw [ofChars_eq_ite, if_pos hc]

theorem ofChars_cons {c : Char} {r : List Char} {x : Symbol} {n : Nat}
    (hblank : Text.isBlank c = false) (hnext : next c r = .ok (x, n)) :
  ofChars (c :: r) = (x :: ·) <$> ofChars (r.drop n)
  := by
  rw [ofChars_eq_ite, hblank, hnext]
  simp only [Bool.false_eq_true, if_false]
  exact bind_pure_comp (x :: ·) (ofChars (r.drop n))

theorem literalAtFront_toDigits (n : Nat) {rest : List Char} (hrest : EndsNumber rest) :
  literalAtFront (Nat.toDigits 10 n ++ rest) = Nat.toDigits 10 n
  := by
  have hdigits : ∀ c ∈ Nat.toDigits 10 n, c.isDigit := fun c => Decimal.isDigit_of_mem_toDigits
  rw [literalAtFront, List.takeWhile_append_of_pos hdigits, List.dropWhile_append_of_pos hdigits]
  cases rest with
  | nil => simp [Decimal.takeFraction]
  | cons c rest =>
    obtain ⟨hdigit, hpoint⟩ := hrest c rfl
    rw [List.takeWhile_cons_of_neg (by simp [hdigit]),
      List.dropWhile_cons_of_neg (by simp [hdigit])]
    simp [Decimal.takeFraction, hpoint]

/-- The digits of a number are a literal. -/
theorem literal_toDigits (n : Nat) :
  literal (Nat.toDigits 10 n) = .ok (Decimal.nearest n 0)
  := by
  have hpoint : Nat.toDigits 10 n ≠ ['.'] := by
    intro h
    have hdigit : '.'.isDigit := by
      apply Decimal.isDigit_of_mem_toDigits (n := n)
      simp [h]
    contradiction
  have hzero : ¬ (1 < (Nat.toDigits 10 n).length ∧ (Nat.toDigits 10 n).head? = some '0') := by
    rintro ⟨hlength, hhead⟩
    obtain rfl | hn := Nat.eq_zero_or_pos n
    · simp at hlength
    · apply Decimal.head?_toDigits hn hhead
  simp only [literal, Decimal.takeWhile_toDigits, if_neg hpoint, if_neg hzero,
    Decimal.value_toDigits]

/-- A character that is a digit begins a number. -/
theorem next_of_isDigit {c : Char} (hc : c.isDigit) (r : List Char) :
  next c r = do
    let s := literalAtFront (c :: r)
    return (.number (← literal s), s.length - 1)
  := by
  unfold next
  split
  case h_8 => simp only [hc, true_or, if_true]
  all_goals contradiction

/-- Digits are read as the float nearest to their number. -/
theorem ofChars_toDigits (n : Nat) {rest : List Char} (hrest : EndsNumber rest) :
  ofChars (Nat.toDigits 10 n ++ rest) = (.number (Decimal.nearest n 0) :: ·) <$> ofChars rest
  := by
  obtain ⟨d, ds, hds, hd, -⟩ := Decimal.exists_toDigits_eq_cons n
  have hfront := literalAtFront_toDigits n hrest
  have hliteral := literal_toDigits n
  rw [hds] at hfront hliteral ⊢
  have hnext : next d (ds ++ rest) = .ok (.number (Decimal.nearest n 0), ds.length) := by
    rw [next_of_isDigit hd, ← List.cons_append, hfront]
    dsimp only
    rw [hliteral]
    rfl
  rw [List.cons_append, ofChars_cons (Decimal.not_isBlank_of_isDigit hd) hnext, List.drop_left]

/-- An operator that is not made another one by what follows is read as its symbol. -/
theorem next_operator (op : Operator) {rest : List Char} (hrest : EndsOperator op rest) :
  ∃ c r, op.chars = c :: r ∧ Text.isBlank c = false
    ∧ next c (r ++ rest) = .ok (op.symbol, r.length)
  := by
  cases op with
  | add =>
    use '+', [], rfl, rfl
    apply if_neg hrest
  | subtract =>
    use '-', [], rfl, rfl
    apply if_neg hrest
  | multiply =>
    use '*', [], rfl, rfl
    apply if_neg hrest
  | divide =>
    use '/', [], rfl, rfl
    rfl
  | modulo =>
    use '%', [], rfl, rfl
    rfl
  | power =>
    use '*', ['*'], rfl, rfl
    rfl

/-- An operator is read as its symbol. -/
theorem ofChars_operator (op : Operator) {rest : List Char} (hrest : EndsOperator op rest) :
  ofChars (op.chars ++ rest) = (op.symbol :: ·) <$> ofChars rest
  := by
  obtain ⟨c, r, hchars, hblank, hnext⟩ := next_operator op hrest
  rw [hchars, List.cons_append, ofChars_cons hblank hnext, List.drop_left]

end Symbol

end FieldFormula.Arithmetic
