import FieldFormula.Arithmetic.Term

/-!
# The grammar of arithmetic

A derivation shows how symbols form an expression, with one type for each rule.

* `Sum`: a product, then any number of products with a sign in front of each.
* `Product`: a power, then any number of powers with `*`, `/` or `%` in front of each.
* `Power`: a signed primary, a primary, or a primary, `**` and a power.
* `Signed`: one or more signs, then a primary.
* `Primary`: a number, or a sum in parentheses.

`symbols` are the symbols that a derivation forms, and `term` is the term it stands for.
`value` is computed on the derivation itself, with the operations on floating-point numbers.

* `Sum.symbols_injective`: derivations are unique, no symbols have two of them.
* `Sum.value_term`: the term of a derivation has the value of the derivation.
-/

namespace FieldFormula.Arithmetic.Grammar

/-! ### Operators -/

/-- The signs, which are also the operators of sums. -/
inductive Sign where
  | plus | minus

/-- The operators of products. -/
inductive Factor where
  | times | divide | modulo

/-- The symbol of a sign. -/
def Sign.symbol : Sign → Symbol
  | .plus => .plus
  | .minus => .minus

/-- The operator that a sign is between two products. -/
def Sign.operator : Sign → Operator
  | .plus => .add
  | .minus => .subtract

/-- A term with a sign in front. -/
def Sign.apply : Sign → Term → Term
  | .plus => .positive
  | .minus => .negative

/-- The sum or the difference of two numbers. -/
def Sign.combine : Sign → Float → Float → Float
  | .plus, x, y => x + y
  | .minus, x, y => x - y

/-- A number with a sign in front. -/
def Sign.of : Sign → Float → Float
  | .plus, x => x
  | .minus, x => -x

/-- The symbol of an operator of products. -/
def Factor.symbol : Factor → Symbol
  | .times => .times
  | .divide => .divide
  | .modulo => .modulo

/-- The operator of a symbol between two powers. -/
def Factor.operator : Factor → Operator
  | .times => .multiply
  | .divide => .divide
  | .modulo => .modulo

/-- The product, the quotient or the remainder of two numbers. -/
def Factor.combine : Factor → Float → Float → Float
  | .times, x, y => x * y
  | .divide, x, y => x / y
  | .modulo, x, y => Decimal.remainder x y

theorem Sign.symbol_injective :
  Function.Injective Sign.symbol
  := by
  intro g g' h
  cases g <;> cases g' <;> simp_all [symbol]

theorem Factor.symbol_injective :
  Function.Injective Factor.symbol
  := by
  intro f f' h
  cases f <;> cases f' <;> simp_all [symbol]

/-! ### Derivations -/

mutual

/-- A derivation of a sum. -/
inductive Sum where
  | mk (first : Product) (rest : Summands)

/-- The products of a sum behind the first, each with the sign in front of it. -/
inductive Summands where
  | nil
  | cons (sign : Sign) (next : Product) (rest : Summands)

/-- A derivation of a product. -/
inductive Product where
  | mk (first : Power) (rest : Factors)

/-- The powers of a product behind the first, each with the operator in front of it. -/
inductive Factors where
  | nil
  | cons (factor : Factor) (next : Power) (rest : Factors)

/-- A derivation of a power. -/
inductive Power where
  | signed (operand : Signed)
  | primary (operand : Primary)
  | raise (base : Primary) (exponent : Power)

/-- A derivation of a signed primary. -/
inductive Signed where
  | one (sign : Sign) (operand : Primary)
  | more (sign : Sign) (rest : Signed)

/-- A derivation of a primary. -/
inductive Primary where
  | number (value : Float)
  | parens (inner : Sum)

end

mutual

/-- The symbols of a sum. -/
def Sum.symbols : Sum → List Symbol
  | .mk first rest => first.symbols ++ rest.symbols

/-- The symbols of the further products of a sum. -/
def Summands.symbols : Summands → List Symbol
  | .nil => []
  | .cons sign next rest => sign.symbol :: (next.symbols ++ rest.symbols)

/-- The symbols of a product. -/
def Product.symbols : Product → List Symbol
  | .mk first rest => first.symbols ++ rest.symbols

/-- The symbols of the further powers of a product. -/
def Factors.symbols : Factors → List Symbol
  | .nil => []
  | .cons factor next rest => factor.symbol :: (next.symbols ++ rest.symbols)

/-- The symbols of a power. -/
def Power.symbols : Power → List Symbol
  | .signed operand => operand.symbols
  | .primary operand => operand.symbols
  | .raise base exponent => base.symbols ++ .power :: exponent.symbols

/-- The symbols of a signed primary. -/
def Signed.symbols : Signed → List Symbol
  | .one sign operand => sign.symbol :: operand.symbols
  | .more sign rest => sign.symbol :: rest.symbols

/-- The symbols of a primary. -/
def Primary.symbols : Primary → List Symbol
  | .number x => [.number x]
  | .parens inner => .leftParen :: (inner.symbols ++ [.rightParen])

end

mutual

/-- The term of a sum. -/
def Sum.term : Sum → Term
  | .mk first rest => rest.termFrom first.term

/-- The sum of a term and the further products, which associates to the left. -/
def Summands.termFrom (left : Term) : Summands → Term
  | .nil => left
  | .cons sign next rest => rest.termFrom (.binary sign.operator left next.term)

/-- The term of a product. -/
def Product.term : Product → Term
  | .mk first rest => rest.termFrom first.term

/-- The product of a term and the further powers, which associates to the left. -/
def Factors.termFrom (left : Term) : Factors → Term
  | .nil => left
  | .cons factor next rest => rest.termFrom (.binary factor.operator left next.term)

/-- The term of a power, which associates to the right. -/
def Power.term : Power → Term
  | .signed operand => operand.term
  | .primary operand => operand.term
  | .raise base exponent => .binary .power base.term exponent.term

/-- The term of a signed primary. -/
def Signed.term : Signed → Term
  | .one sign operand => sign.apply operand.term
  | .more sign rest => sign.apply rest.term

/-- The term of a primary. -/
def Primary.term : Primary → Term
  | .number x => .number x
  | .parens inner => inner.term

end

mutual

/-- The value of a sum. -/
def Sum.value : Sum → Float
  | .mk first rest => rest.valueFrom first.value

/-- The sum of a number and the further products, which associates to the left. -/
def Summands.valueFrom (left : Float) : Summands → Float
  | .nil => left
  | .cons sign next rest => rest.valueFrom (sign.combine left next.value)

/-- The value of a product. -/
def Product.value : Product → Float
  | .mk first rest => rest.valueFrom first.value

/-- The product of a number and the further powers, which associates to the left. -/
def Factors.valueFrom (left : Float) : Factors → Float
  | .nil => left
  | .cons factor next rest => rest.valueFrom (factor.combine left next.value)

/-- The value of a power, which associates to the right. -/
def Power.value : Power → Float
  | .signed operand => operand.value
  | .primary operand => operand.value
  | .raise base exponent => base.value.pow exponent.value

/-- The value of a signed primary. -/
def Signed.value : Signed → Float
  | .one sign operand => sign.of operand.value
  | .more sign rest => sign.of rest.value

/-- The value of a primary. -/
def Primary.value : Primary → Float
  | .number x => x
  | .parens inner => inner.value

end

/-! ### Terms have the values of their derivations -/

theorem Sign.value_binary (g : Sign) (t u : Term) :
  (Term.binary g.operator t u).value = g.combine t.value u.value
  := by
  cases g <;> rfl

theorem Sign.value_apply (g : Sign) (t : Term) :
  (g.apply t).value = g.of t.value
  := by
  cases g <;> rfl

theorem Factor.value_binary (f : Factor) (t u : Term) :
  (Term.binary f.operator t u).value = f.combine t.value u.value
  := by
  cases f <;> rfl

mutual

/-- The term of a sum has the value of the sum. -/
theorem Sum.value_term (d : Sum) :
  d.term.value = d.value
  := by
  obtain ⟨first, rest⟩ := d
  rw [Sum.term, Summands.value_termFrom, Product.value_term, Sum.value]
termination_by structural d

theorem Summands.value_termFrom (left : Term) (d : Summands) :
  (d.termFrom left).value = d.valueFrom left.value
  := by
  match d with
  | .nil => rfl
  | .cons sign next rest =>
    rw [Summands.termFrom, Summands.value_termFrom, sign.value_binary, Product.value_term,
      Summands.valueFrom]
termination_by structural d

theorem Product.value_term (d : Product) :
  d.term.value = d.value
  := by
  obtain ⟨first, rest⟩ := d
  rw [Product.term, Factors.value_termFrom, Power.value_term, Product.value]
termination_by structural d

theorem Factors.value_termFrom (left : Term) (d : Factors) :
  (d.termFrom left).value = d.valueFrom left.value
  := by
  match d with
  | .nil => rfl
  | .cons factor next rest =>
    rw [Factors.termFrom, Factors.value_termFrom, factor.value_binary, Power.value_term,
      Factors.valueFrom]
termination_by structural d

theorem Power.value_term (d : Power) :
  d.term.value = d.value
  := by
  match d with
  | .signed operand => apply Signed.value_term operand
  | .primary operand => apply Primary.value_term operand
  | .raise base exponent =>
    rw [Power.term, Term.value, Primary.value_term, Power.value_term, Power.value,
      Operator.apply]
termination_by structural d

theorem Signed.value_term (d : Signed) :
  d.term.value = d.value
  := by
  match d with
  | .one sign operand => rw [Signed.term, sign.value_apply, Primary.value_term, Signed.value]
  | .more sign rest => rw [Signed.term, sign.value_apply, Signed.value_term, Signed.value]
termination_by structural d

theorem Primary.value_term (d : Primary) :
  d.term.value = d.value
  := by
  match d with
  | .number x => rfl
  | .parens inner => apply Sum.value_term inner
termination_by structural d

end

/-! ### What may follow a derivation -/

/-- The symbols `s` do not continue a primary as a power. -/
def EndsPower (s : List Symbol) : Prop :=
  s.head? ≠ some .power

/-- The symbols `s` do not continue a power as a product. -/
def EndsProduct (s : List Symbol) : Prop :=
  EndsPower s ∧ ∀ f : Factor, s.head? ≠ some f.symbol

/-- The symbols `s` do not continue a product as a sum. -/
def EndsSum (s : List Symbol) : Prop :=
  EndsProduct s ∧ ∀ g : Sign, s.head? ≠ some g.symbol

theorem endsSum_nil :
  EndsSum []
  := by
  simp [EndsSum, EndsProduct, EndsPower]

theorem endsSum_rightParen (s : List Symbol) :
  EndsSum (.rightParen :: s)
  := by
  refine ⟨⟨by simp [EndsPower], ?_⟩, ?_⟩
  · intro f
    cases f <;> simp [Factor.symbol]
  · intro g
    cases g <;> simp [Sign.symbol]

theorem endsPower_factor (f : Factor) (s : List Symbol) :
  EndsPower (f.symbol :: s)
  := by
  cases f <;> simp [EndsPower, Factor.symbol]

theorem endsProduct_sign (g : Sign) (s : List Symbol) :
  EndsProduct (g.symbol :: s)
  := by
  constructor
  · cases g <;> simp [EndsPower, Sign.symbol]
  · intro f
    cases f <;> cases g <;> simp [Factor.symbol, Sign.symbol]

/-- What follows the further powers of a product does not continue any one of them. -/
theorem Factors.endsPower (d : Factors) {r : List Symbol} (hr : EndsProduct r) :
  EndsPower (d.symbols ++ r)
  := by
  cases d with
  | nil => apply hr.1
  | cons f next rest => apply endsPower_factor

/-- What follows the further products of a sum does not continue any one of them. -/
theorem Summands.endsProduct (d : Summands) {r : List Symbol} (hr : EndsSum r) :
  EndsProduct (d.symbols ++ r)
  := by
  cases d with
  | nil => apply hr.1
  | cons g next rest => apply endsProduct_sign

/-! ### Derivations are unique -/

/-- No primary begins with a sign. -/
theorem Primary.head?_ne_sign (p : Primary) (g : Sign) (r : List Symbol) :
  (p.symbols ++ r).head? ≠ some g.symbol
  := by
  cases p <;> cases g <;> simp [Primary.symbols, Sign.symbol]

/-- Every signed primary begins with a sign. -/
theorem Signed.head?_eq_sign (d : Signed) (r : List Symbol) :
  ∃ g : Sign, (d.symbols ++ r).head? = some g.symbol
  := by
  cases d with
  | one g operand => exact ⟨g, rfl⟩
  | more g rest => exact ⟨g, rfl⟩

theorem Primary.append_ne_signed (p : Primary) (d : Signed) (r r' : List Symbol) :
  p.symbols ++ r ≠ d.symbols ++ r'
  := by
  intro h
  obtain ⟨g, hg⟩ := d.head?_eq_sign r'
  apply p.head?_ne_sign g r
  rw [h, hg]

mutual

/-- Symbols that begin with two sums, neither continued by what follows it, begin with
one sum only. -/
theorem Sum.eq_of_append
    {d d' : Sum} {r r' : List Symbol} (hr : EndsSum r) (hr' : EndsSum r')
    (h : d.symbols ++ r = d'.symbols ++ r') :
  d = d' ∧ r = r'
  := by
  obtain ⟨first, rest⟩ := d
  obtain ⟨first', rest'⟩ := d'
  simp only [Sum.symbols, List.append_assoc] at h
  obtain ⟨rfl, hrest⟩ := Product.eq_of_append (rest.endsProduct hr) (rest'.endsProduct hr') h
  obtain ⟨rfl, rfl⟩ := Summands.eq_of_append hr hr' hrest
  exact ⟨rfl, rfl⟩
termination_by structural d

theorem Summands.eq_of_append
    {d d' : Summands} {r r' : List Symbol} (hr : EndsSum r) (hr' : EndsSum r')
    (h : d.symbols ++ r = d'.symbols ++ r') :
  d = d' ∧ r = r'
  := by
  match d, d' with
  | .nil, .nil => exact ⟨rfl, h⟩
  | .nil, .cons g next rest =>
    obtain rfl : r = _ := h
    apply (hr.2 g rfl).elim
  | .cons g next rest, .nil =>
    obtain rfl : _ = r' := h
    apply (hr'.2 g rfl).elim
  | .cons g next rest, .cons g' next' rest' =>
    simp only [Summands.symbols, List.cons_append, List.append_assoc, List.cons.injEq] at h
    obtain ⟨hg, hnext⟩ := h
    obtain rfl := Sign.symbol_injective hg
    obtain ⟨rfl, hrest⟩ :=
      Product.eq_of_append (rest.endsProduct hr) (rest'.endsProduct hr') hnext
    obtain ⟨rfl, rfl⟩ := Summands.eq_of_append hr hr' hrest
    exact ⟨rfl, rfl⟩
termination_by structural d

theorem Product.eq_of_append
    {d d' : Product} {r r' : List Symbol} (hr : EndsProduct r) (hr' : EndsProduct r')
    (h : d.symbols ++ r = d'.symbols ++ r') :
  d = d' ∧ r = r'
  := by
  obtain ⟨first, rest⟩ := d
  obtain ⟨first', rest'⟩ := d'
  simp only [Product.symbols, List.append_assoc] at h
  obtain ⟨rfl, hrest⟩ := Power.eq_of_append (rest.endsPower hr) (rest'.endsPower hr') h
  obtain ⟨rfl, rfl⟩ := Factors.eq_of_append hr hr' hrest
  exact ⟨rfl, rfl⟩
termination_by structural d

theorem Factors.eq_of_append
    {d d' : Factors} {r r' : List Symbol} (hr : EndsProduct r) (hr' : EndsProduct r')
    (h : d.symbols ++ r = d'.symbols ++ r') :
  d = d' ∧ r = r'
  := by
  match d, d' with
  | .nil, .nil => exact ⟨rfl, h⟩
  | .nil, .cons f next rest =>
    obtain rfl : r = _ := h
    apply (hr.2 f rfl).elim
  | .cons f next rest, .nil =>
    obtain rfl : _ = r' := h
    apply (hr'.2 f rfl).elim
  | .cons f next rest, .cons f' next' rest' =>
    simp only [Factors.symbols, List.cons_append, List.append_assoc, List.cons.injEq] at h
    obtain ⟨hf, hnext⟩ := h
    obtain rfl := Factor.symbol_injective hf
    obtain ⟨rfl, hrest⟩ :=
      Power.eq_of_append (rest.endsPower hr) (rest'.endsPower hr') hnext
    obtain ⟨rfl, rfl⟩ := Factors.eq_of_append hr hr' hrest
    exact ⟨rfl, rfl⟩
termination_by structural d

theorem Power.eq_of_append
    {d d' : Power} {r r' : List Symbol} (hr : EndsPower r) (hr' : EndsPower r')
    (h : d.symbols ++ r = d'.symbols ++ r') :
  d = d' ∧ r = r'
  := by
  match d, d' with
  | .signed x, .signed x' =>
    obtain ⟨rfl, rfl⟩ := Signed.eq_of_append h
    exact ⟨rfl, rfl⟩
  | .signed x, .primary p' => apply (p'.append_ne_signed x r' r h.symm).elim
  | .signed x, .raise p' e' =>
    simp only [Power.symbols, List.append_assoc] at h
    apply (p'.append_ne_signed x _ r h.symm).elim
  | .primary p, .signed x' => apply (p.append_ne_signed x' r r' h).elim
  | .primary p, .primary p' =>
    obtain ⟨rfl, rfl⟩ := Primary.eq_of_append h
    exact ⟨rfl, rfl⟩
  | .primary p, .raise p' e' =>
    simp only [Power.symbols, List.append_assoc] at h
    obtain ⟨-, rfl⟩ := Primary.eq_of_append h
    apply (hr rfl).elim
  | .raise p e, .signed x' =>
    simp only [Power.symbols, List.append_assoc] at h
    apply (p.append_ne_signed x' _ r' h).elim
  | .raise p e, .primary p' =>
    simp only [Power.symbols, List.append_assoc] at h
    obtain ⟨-, rfl⟩ := Primary.eq_of_append h
    apply (hr' rfl).elim
  | .raise p e, .raise p' e' =>
    simp only [Power.symbols, List.append_assoc, List.cons_append] at h
    obtain ⟨rfl, hpower⟩ := Primary.eq_of_append h
    obtain ⟨rfl, rfl⟩ := Power.eq_of_append hr hr' (List.cons.inj hpower).2
    exact ⟨rfl, rfl⟩
termination_by structural d

theorem Signed.eq_of_append
    {d d' : Signed} {r r' : List Symbol} (h : d.symbols ++ r = d'.symbols ++ r') :
  d = d' ∧ r = r'
  := by
  match d, d' with
  | .one g p, .one g' p' =>
    obtain ⟨hg, hoperand⟩ := List.cons.inj h
    obtain rfl := Sign.symbol_injective hg
    obtain ⟨rfl, rfl⟩ := Primary.eq_of_append hoperand
    exact ⟨rfl, rfl⟩
  | .one g p, .more g' x' => apply (p.append_ne_signed x' r r' (List.cons.inj h).2).elim
  | .more g x, .one g' p' => apply (p'.append_ne_signed x r' r (List.cons.inj h).2.symm).elim
  | .more g x, .more g' x' =>
    obtain ⟨hg, hrest⟩ := List.cons.inj h
    obtain rfl := Sign.symbol_injective hg
    obtain ⟨rfl, rfl⟩ := Signed.eq_of_append hrest
    exact ⟨rfl, rfl⟩
termination_by structural d

theorem Primary.eq_of_append
    {d d' : Primary} {r r' : List Symbol} (h : d.symbols ++ r = d'.symbols ++ r') :
  d = d' ∧ r = r'
  := by
  match d, d' with
  | .number x, .number x' =>
    simp only [Primary.symbols, List.cons_append, List.nil_append, List.cons.injEq,
      Symbol.number.injEq] at h
    obtain ⟨rfl, rfl⟩ := h
    exact ⟨rfl, rfl⟩
  | .number x, .parens a' => cases (List.cons.inj h).1
  | .parens a, .number x' => cases (List.cons.inj h).1
  | .parens a, .parens a' =>
    simp only [Primary.symbols, List.cons_append, List.append_assoc, List.nil_append,
      List.cons.injEq, true_and] at h
    obtain ⟨rfl, hclose⟩ :=
      Sum.eq_of_append (endsSum_rightParen r) (endsSum_rightParen r') h
    exact ⟨rfl, (List.cons.inj hclose).2⟩
termination_by structural d

end

/-- No symbols have two derivations as a sum. -/
theorem Sum.symbols_injective :
  Function.Injective Sum.symbols
  := by
  intro d d' h
  have happend : d.symbols ++ [] = d'.symbols ++ [] := by
    rw [h]
  apply (Sum.eq_of_append endsSum_nil endsSum_nil happend).1

end FieldFormula.Arithmetic.Grammar
