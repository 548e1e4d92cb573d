import FieldFormula.Proofs.Arithmetic.Grammar
import Mathlib.Tactic.Use

/-!
# Reading arithmetic follows the grammar

Reading succeeds on the symbols of a sum and on no others, and it gives the term of the
sum.

* `Sum.operand_append`: behind an open parenthesis, or at the start, the symbols of a sum
  are read as its term.
* `exists_sum`: when reading succeeds, the symbols begin with those of a sum.
* `ofSymbols_eq_ok_iff`: symbols are read as a term exactly when they are the symbols of a
  sum with that term.
* `evaluate_eq_ok_iff_derivation`: a text has the value of the sum that its symbols form.
-/

namespace FieldFormula.Arithmetic.Grammar

open Term

/-! ### What waits is completed -/

/-- Where a power ends, the bases and the signs that wait are applied at once. -/
theorem continuation_completePower
    (l : Level) (outer : List Level) (t : Term) {s : List Symbol} (hs : EndsPower s) :
  continuation l outer t s
    = continuation ⟨l.sum, l.product, [], []⟩ outer (l.completePower t) s
  := by
  cases s with
  | nil => cases outer <;> rfl
  | cons x s =>
    cases x with
    | power => apply (hs rfl).elim
    | rightParen => cases outer <;> rfl
    | _ => rfl

/-- Where a power ends, the left side of the product that waits is applied at once. -/
theorem continuation_completeProduct
    (a b : Option (Term × Operator)) (outer : List Level) (t : Term) {s : List Symbol}
    (hs : EndsPower s) :
  continuation ⟨a, b, [], []⟩ outer t s
    = continuation ⟨a, none, [], []⟩ outer (Level.completeProduct ⟨a, b, [], []⟩ t) s
  := by
  cases s with
  | nil => cases outer <;> rfl
  | cons x s =>
    cases x with
    | power => apply (hs rfl).elim
    | rightParen => cases outer <;> rfl
    | _ => rfl

/-- Where a product ends, the left side of the sum that waits is applied at once. -/
theorem continuation_completeSum
    (a : Option (Term × Operator)) (outer : List Level) (t : Term) {s : List Symbol}
    (hs : EndsProduct s) :
  continuation ⟨a, none, [], []⟩ outer t s
    = continuation .start outer (Level.completeSum ⟨a, none, [], []⟩ t) s
  := by
  cases s with
  | nil => cases outer <;> rfl
  | cons x s =>
    cases x with
    | power => apply (hs.1 rfl).elim
    | times => apply (hs.2 .times rfl).elim
    | divide => apply (hs.2 .divide rfl).elim
    | modulo => apply (hs.2 .modulo rfl).elim
    | rightParen => cases outer <;> rfl
    | _ => rfl

/-! ### Derivations are read -/

/-- A sign as it waits for its operand. -/
def Sign.isMinus : Sign → Bool
  | .plus => false
  | .minus => true

/-- The signs of a signed primary as they wait for it, the innermost first. -/
def Signed.signs : Signed → List Bool
  | .one sign _ => [sign.isMinus]
  | .more sign rest => rest.signs ++ [sign.isMinus]

/-- The primary behind the signs. -/
def Signed.primary : Signed → Primary
  | .one _ operand => operand
  | .more _ rest => rest.primary

theorem operand_sign (g : Sign) (l : Level) (outer : List Level) (r : List Symbol) :
  operand l outer (g.symbol :: r) = operand { l with signs := g.isMinus :: l.signs } outer r
  := by
  cases g <;> rfl

theorem Signed.signs_ne_nil (d : Signed) :
  d.signs ≠ []
  := by
  cases d <;> simp [signs]

theorem Sign.ite_isMinus (g : Sign) (t : Term) :
  (if g.isMinus then Term.negative t else .positive t) = g.apply t
  := by
  cases g <;> rfl

/-- The signs of a signed primary, applied one after the other to its primary, give its
term. -/
theorem Signed.foldl_signs (d : Signed) :
  d.signs.foldl (fun t minus => if minus then .negative t else .positive t) d.primary.term
    = d.term
  := by
  cases d with
  | one g p => apply g.ite_isMinus
  | more g d =>
    rw [signs, List.foldl_append, primary, foldl_signs d]
    apply g.ite_isMinus
termination_by structural d

/-- Where the signs of a signed primary wait, its primary completes what its term completes
where no signs wait. -/
theorem Signed.completePower_primary
    (a b : Option (Term × Operator)) (bases : List Term) (d : Signed) :
  Level.completePower ⟨a, b, bases, d.signs⟩ d.primary.term
    = Level.completePower ⟨a, b, bases, []⟩ d.term
  := by
  rw [Level.completePower, Level.signed, foldl_signs]
  rfl

theorem continuation_factor
    (f : Factor) (a : Option (Term × Operator)) (outer : List Level) (t : Term)
    (r : List Symbol) :
  continuation ⟨a, none, [], []⟩ outer t (f.symbol :: r)
    = operand ⟨a, some (t, f.operator), [], []⟩ outer r
  := by
  cases f <;> rfl

theorem continuation_sign
    (g : Sign) (outer : List Level) (t : Term) (r : List Symbol) :
  continuation .start outer t (g.symbol :: r)
    = operand ⟨some (t, g.operator), none, [], []⟩ outer r
  := by
  cases g <;> rfl

mutual

/-- At the start of a level, the symbols of a sum are read as its term. -/
theorem Sum.operand_append
    (d : Sum) (outer : List Level) {r : List Symbol} (hr : EndsSum r) :
  operand .start outer (d.symbols ++ r) = continuation .start outer d.term r
  := by
  match d with
  | .mk first rest =>
    rw [Sum.symbols, List.append_assoc, Level.start,
      Product.operand_append first none outer (rest.endsProduct hr)]
    apply Summands.continuation_append rest outer first.term hr

/-- The further products of a sum are added to the term of what is in front of them. -/
theorem Summands.continuation_append
    (d : Summands) (outer : List Level) (t : Term) {r : List Symbol} (hr : EndsSum r) :
  continuation .start outer t (d.symbols ++ r) = continuation .start outer (d.termFrom t) r
  := by
  match d with
  | .nil => rfl
  | .cons g next rest =>
    rw [Summands.symbols, List.cons_append, List.append_assoc, continuation_sign,
      Product.operand_append next _ outer (rest.endsProduct hr),
      continuation_completeSum _ outer _ (rest.endsProduct hr)]
    apply Summands.continuation_append rest outer _ hr

/-- Where no product waits, the symbols of a product are read as its term. -/
theorem Product.operand_append
    (d : Product) (a : Option (Term × Operator)) (outer : List Level) {r : List Symbol}
    (hr : EndsProduct r) :
  operand ⟨a, none, [], []⟩ outer (d.symbols ++ r)
    = continuation ⟨a, none, [], []⟩ outer d.term r
  := by
  match d with
  | .mk first rest =>
    rw [Product.symbols, List.append_assoc,
      Power.operand_append first a none [] outer (rest.endsPower hr)]
    apply Factors.continuation_append rest a outer first.term hr

/-- The further powers of a product are multiplied with the term of what is in front of
them. -/
theorem Factors.continuation_append
    (d : Factors) (a : Option (Term × Operator)) (outer : List Level) (t : Term)
    {r : List Symbol} (hr : EndsProduct r) :
  continuation ⟨a, none, [], []⟩ outer t (d.symbols ++ r)
    = continuation ⟨a, none, [], []⟩ outer (d.termFrom t) r
  := by
  match d with
  | .nil => rfl
  | .cons f next rest =>
    rw [Factors.symbols, List.cons_append, List.append_assoc, continuation_factor,
      Power.operand_append next a _ [] outer (rest.endsPower hr),
      continuation_completeProduct a _ outer _ (rest.endsPower hr)]
    apply Factors.continuation_append rest a outer _ hr

/-- Where no signs wait, the symbols of a power are read as its term, behind the bases that
wait. -/
theorem Power.operand_append
    (d : Power) (a b : Option (Term × Operator)) (bases : List Term) (outer : List Level)
    {r : List Symbol} (hr : EndsPower r) :
  operand ⟨a, b, bases, []⟩ outer (d.symbols ++ r)
    = continuation ⟨a, b, [], []⟩ outer (Level.completePower ⟨a, b, bases, []⟩ d.term) r
  := by
  match d with
  | .signed d =>
    rw [Power.symbols, Signed.operand_append d, continuation_completePower _ outer _ hr,
      List.append_nil, Signed.completePower_primary]
    rfl
  | .primary p =>
    rw [Power.symbols, Primary.operand_append p, continuation_completePower _ outer _ hr]
    rfl
  | .raise p e =>
    rw [Power.symbols, List.append_assoc, Primary.operand_append p]
    apply Power.operand_append e a b (p.term :: bases) outer hr

/-- The signs of a signed primary wait while its primary is read. -/
theorem Signed.operand_append
    (d : Signed) (l : Level) (outer : List Level) (r : List Symbol) :
  operand l outer (d.symbols ++ r)
    = continuation { l with signs := d.signs ++ l.signs } outer d.primary.term r
  := by
  match d with
  | .one g p =>
    rw [Signed.symbols, List.cons_append, operand_sign, Primary.operand_append p]
    rfl
  | .more g d =>
    rw [Signed.symbols, List.cons_append, operand_sign, Signed.operand_append d,
      Signed.signs, List.append_assoc]
    rfl

/-- The symbols of a primary are read as its term, whatever waits for it. -/
theorem Primary.operand_append
    (p : Primary) (l : Level) (outer : List Level) (r : List Symbol) :
  operand l outer (p.symbols ++ r) = continuation l outer p.term r
  := by
  match p with
  | .number x => rfl
  | .parens d =>
    rw [Primary.symbols, List.cons_append, List.append_assoc]
    apply Sum.operand_append d (l :: outer) (endsSum_rightParen r)

end

/-! ### What is read has a derivation -/

theorem Primary.length_pos (p : Primary) :
  0 < p.symbols.length
  := by
  cases p <;> simp [symbols]

theorem Signed.length_pos (d : Signed) :
  0 < d.symbols.length
  := by
  cases d <;> simp [symbols]

theorem Power.length_pos (d : Power) :
  0 < d.symbols.length
  := by
  cases d with
  | signed d => apply d.length_pos
  | primary p => apply p.length_pos
  | raise p e =>
    simp only [symbols, List.length_append, List.length_cons]
    omega

theorem Product.length_pos (d : Product) :
  0 < d.symbols.length
  := by
  obtain ⟨first, rest⟩ := d
  have := first.length_pos
  simp only [symbols, List.length_append]
  omega

/-- Behind the term of a sum that nothing continues, reading succeeds only at the end or at
a closing parenthesis. -/
theorem eq_nil_or_rightParen
    {outer : List Level} {x : Term} {s : List Symbol} {t : Term}
    (hs : EndsSum s) (h : continuation .start outer x s = .ok t) :
  outer = [] ∧ s = [] ∨ ∃ r, s = .rightParen :: r
  := by
  match s with
  | [] =>
    cases outer with
    | nil => exact .inl ⟨rfl, rfl⟩
    | cons m outer => cases h
  | .rightParen :: r => exact .inr ⟨r, rfl⟩
  | .number y :: r => cases h
  | .leftParen :: r => cases h
  | .power :: r => apply (hs.1.1 rfl).elim
  | .times :: r => apply (hs.1.2 .times rfl).elim
  | .divide :: r => apply (hs.1.2 .divide rfl).elim
  | .modulo :: r => apply (hs.1.2 .modulo rfl).elim
  | .plus :: r => apply (hs.2 .plus rfl).elim
  | .minus :: r => apply (hs.2 .minus rfl).elim

mutual

/-- When an operand is read, the symbols begin with a primary or with a sign. -/
theorem exists_primary
    {l : Level} {outer : List Level} {s : List Symbol} {t : Term}
    (h : operand l outer s = .ok t) :
  (∃ (p : Primary) (r : List Symbol),
      s = p.symbols ++ r ∧ continuation l outer p.term r = .ok t)
    ∨ ∃ (g : Sign) (r : List Symbol),
      s = g.symbol :: r ∧ operand { l with signs := g.isMinus :: l.signs } outer r = .ok t
  := by
  match s with
  | [] => cases h
  | .number x :: r => exact .inl ⟨.number x, r, rfl, h⟩
  | .leftParen :: r =>
    obtain ⟨d, r', rfl, hr', h'⟩ := exists_sum (s := r) h
    obtain ⟨hnil, -⟩ | ⟨r', rfl⟩ := eq_nil_or_rightParen hr' h'
    · cases hnil
    · left
      use .parens d, r'
      constructor
      · simp [Primary.symbols]
      · apply h'
  | .plus :: r => exact .inr ⟨.plus, r, rfl, h⟩
  | .minus :: r => exact .inr ⟨.minus, r, rfl, h⟩
  | .times :: r | .divide :: r | .modulo :: r | .power :: r | .rightParen :: r => cases h
termination_by (s.length, 0)

/-- When an operand is read behind a sign, the symbols begin with a signed primary. -/
theorem exists_signed
    {l : Level} {outer : List Level} {g : Sign} {s : List Symbol} {t : Term}
    (h : operand { l with signs := g.isMinus :: l.signs } outer s = .ok t) :
  ∃ (d : Signed) (r : List Symbol), g.symbol :: s = d.symbols ++ r
    ∧ continuation { l with signs := d.signs ++ l.signs } outer d.primary.term r = .ok t
  := by
  obtain ⟨p, r, rfl, h'⟩ | ⟨g', s, rfl, h'⟩ := exists_primary h
  · use .one g p, r, rfl
    apply h'
  · obtain ⟨d, r, hd, h''⟩ := exists_signed h'
    use .more g d, r
    constructor
    · rw [hd]
      rfl
    · rw [Signed.signs, List.append_assoc]
      apply h''
termination_by (s.length, 1)

/-- When an operand is read and no signs wait, the symbols begin with a power. -/
theorem exists_power
    {a b : Option (Term × Operator)} {bases : List Term} {outer : List Level}
    {s : List Symbol} {t : Term} (h : operand ⟨a, b, bases, []⟩ outer s = .ok t) :
  ∃ (d : Power) (r : List Symbol), s = d.symbols ++ r ∧ EndsPower r
    ∧ continuation ⟨a, b, [], []⟩ outer (Level.completePower ⟨a, b, bases, []⟩ d.term) r
      = .ok t
  := by
  obtain ⟨p, r, rfl, h'⟩ | ⟨g, s, rfl, h'⟩ := exists_primary h
  · by_cases hr : EndsPower r
    · use .primary p, r, rfl, hr
      rw [continuation_completePower _ outer _ hr] at h'
      apply h'
    · cases r with
      | nil => simp [EndsPower] at hr
      | cons x r =>
        obtain rfl : x = .power := by simpa [EndsPower] using hr
        obtain ⟨e, r', rfl, hr', h''⟩ := exists_power (s := r) h'
        use .raise p e, r'
        constructor
        · simp [Power.symbols]
        · use hr'
          apply h''
  · obtain ⟨d, r, hd, h''⟩ := exists_signed h'
    have hr : EndsPower r := by
      intro hr
      cases r with
      | nil => cases hr
      | cons x r =>
        obtain rfl : x = .power := by simpa using hr
        rw [continuation, if_neg] at h''
        · cases h''
        · simp [d.signs_ne_nil]
    use .signed d, r, hd, hr
    rw [continuation_completePower _ outer _ hr, List.append_nil,
      Signed.completePower_primary] at h''
    apply h''
termination_by (s.length, 2)

/-- When an operand is read and no product waits, the symbols begin with a product. -/
theorem exists_product
    {a : Option (Term × Operator)} {outer : List Level} {s : List Symbol} {t : Term}
    (h : operand ⟨a, none, [], []⟩ outer s = .ok t) :
  ∃ (d : Product) (r : List Symbol), s = d.symbols ++ r ∧ EndsProduct r
    ∧ continuation ⟨a, none, [], []⟩ outer d.term r = .ok t
  := by
  obtain ⟨first, s, rfl, hs, h'⟩ := exists_power h
  have hlen : s.length < (first.symbols ++ s).length := by simp [first.length_pos]
  obtain ⟨rest, r, rfl, hr, h''⟩ := exists_factors hs h'
  use .mk first rest, r
  constructor
  · simp [Product.symbols]
  · use hr
    apply h''
termination_by (s.length, 3)

/-- Symbols that are read behind the term of a power and do not continue it begin with
further powers of a product. -/
theorem exists_factors
    {a : Option (Term × Operator)} {outer : List Level} {x : Term} {s : List Symbol} {t : Term}
    (hs : EndsPower s) (h : continuation ⟨a, none, [], []⟩ outer x s = .ok t) :
  ∃ (d : Factors) (r : List Symbol), s = d.symbols ++ r ∧ EndsProduct r
    ∧ continuation ⟨a, none, [], []⟩ outer (d.termFrom x) r = .ok t
  := by
  by_cases hf : ∃ (f : Factor) (r : List Symbol), s = f.symbol :: r
  · obtain ⟨f, r, rfl⟩ := hf
    rw [continuation_factor] at h
    obtain ⟨next, r, rfl, hr, h'⟩ := exists_power h
    rw [continuation_completeProduct _ _ _ _ hr] at h'
    obtain ⟨rest, r, rfl, hr', h''⟩ := exists_factors hr h'
    use .cons f next rest, r
    constructor
    · simp [Factors.symbols]
    · use hr'
      apply h''
  · use .nil, s, rfl
    constructor
    · use hs
      intro f hf'
      apply hf
      use f
      apply List.head?_eq_some_iff.mp hf'
    · apply h
termination_by (s.length, 0)

/-- When an operand is read and nothing waits, the symbols begin with a sum. -/
theorem exists_sum
    {outer : List Level} {s : List Symbol} {t : Term}
    (h : operand .start outer s = .ok t) :
  ∃ (d : Sum) (r : List Symbol), s = d.symbols ++ r ∧ EndsSum r
    ∧ continuation .start outer d.term r = .ok t
  := by
  obtain ⟨first, s, rfl, hs, h'⟩ := exists_product h
  have hlen : s.length < (first.symbols ++ s).length := by simp [first.length_pos]
  obtain ⟨rest, r, rfl, hr, h''⟩ := exists_summands hs h'
  use .mk first rest, r
  constructor
  · simp [Sum.symbols]
  · use hr
    apply h''
termination_by (s.length, 4)

/-- Symbols that are read behind the term of a product and do not continue it begin with
further products of a sum. -/
theorem exists_summands
    {outer : List Level} {x : Term} {s : List Symbol} {t : Term}
    (hs : EndsProduct s) (h : continuation .start outer x s = .ok t) :
  ∃ (d : Summands) (r : List Symbol), s = d.symbols ++ r ∧ EndsSum r
    ∧ continuation .start outer (d.termFrom x) r = .ok t
  := by
  by_cases hg : ∃ (g : Sign) (r : List Symbol), s = g.symbol :: r
  · obtain ⟨g, r, rfl⟩ := hg
    rw [continuation_sign] at h
    obtain ⟨next, r, rfl, hr, h'⟩ := exists_product h
    rw [continuation_completeSum _ _ _ hr] at h'
    obtain ⟨rest, r, rfl, hr', h''⟩ := exists_summands hr h'
    use .cons g next rest, r
    constructor
    · simp [Summands.symbols]
    · use hr'
      apply h''
  · use .nil, s, rfl
    constructor
    · use hs
      intro g hg'
      apply hg
      use g
      apply List.head?_eq_some_iff.mp hg'
    · apply h
termination_by (s.length, 0)

end

/-! ### Reading is correct -/

theorem ofSymbols_of_ne_nil {s : List Symbol} (hs : s ≠ []) :
  ofSymbols s = operand .start [] s
  := by
  cases s with
  | nil => contradiction
  | cons x s => rfl

theorem Sum.symbols_ne_nil (d : Sum) :
  d.symbols ≠ []
  := by
  obtain ⟨first, rest⟩ := d
  have hfirst := List.ne_nil_of_length_pos first.length_pos
  simp [symbols, hfirst]

/-- Symbols are read as a term exactly when a sum with that term has these symbols. -/
theorem ofSymbols_eq_ok_iff (s : List Symbol) (t : Term) :
  ofSymbols s = .ok t ↔ ∃ d : Sum, d.symbols = s ∧ d.term = t
  := by
  constructor
  · intro h
    have hs : s ≠ [] := by
      rintro rfl
      cases h
    rw [ofSymbols_of_ne_nil hs] at h
    obtain ⟨d, r, rfl, hr, h'⟩ := exists_sum h
    obtain ⟨-, rfl⟩ | ⟨r, rfl⟩ := eq_nil_or_rightParen hr h'
    · use d, (List.append_nil _).symm
      cases h'
      rfl
    · cases h'
  · rintro ⟨d, rfl, rfl⟩
    rw [ofSymbols_of_ne_nil d.symbols_ne_nil]
    have hread := d.operand_append [] endsSum_nil
    rw [List.append_nil] at hread
    apply hread

-- a power with a sign in front of its base has no derivation
example (x y : Float) :
  ofSymbols [.minus, .number x, .power, .number y] = .error .signBeforePower
  := rfl

/-- A text has a value exactly when its symbols are read as a term with that value. -/
theorem evaluate_eq_ok_iff (s : List Char) (v : Float) :
  evaluate s = .ok v
    ↔ ∃ symbols t, Symbol.ofChars s = .ok symbols ∧ ofSymbols symbols = .ok t ∧ t.value = v
  := by
  cases hs : Symbol.ofChars s with
  | error e => simp [evaluate, hs, bind, Except.bind]
  | ok symbols =>
    cases ht : ofSymbols symbols with
    | error e => simp [evaluate, hs, ht, bind, Except.bind]
    | ok t => simp [evaluate, hs, ht, bind, Except.bind, pure, Except.pure]

/-- A text has a value exactly when its symbols are those of a sum, and the value is that
of the sum.  No two sums have the same symbols, and a text whose symbols are not those of a
sum is rejected. -/
theorem evaluate_eq_ok_iff_derivation (s : List Char) :
  (∀ v, evaluate s = .ok v ↔ ∃ d : Sum, Symbol.ofChars s = .ok d.symbols ∧ d.value = v)
    ∧ Function.Injective Sum.symbols
    ∧ ((∃ e, evaluate s = .error e) ↔ ¬ ∃ d : Sum, Symbol.ofChars s = .ok d.symbols)
  := by
  have hok : ∀ v, evaluate s = .ok v ↔
      ∃ d : Sum, Symbol.ofChars s = .ok d.symbols ∧ d.value = v := by
    intro v
    rw [evaluate_eq_ok_iff]
    constructor
    · rintro ⟨symbols, t, hs, ht, rfl⟩
      obtain ⟨d, rfl, rfl⟩ := (ofSymbols_eq_ok_iff symbols t).mp ht
      use d, hs, d.value_term.symm
    · rintro ⟨d, hs, rfl⟩
      use d.symbols, d.term, hs, (ofSymbols_eq_ok_iff _ _).mpr ⟨d, rfl, rfl⟩
      apply d.value_term
  use hok, Sum.symbols_injective
  constructor
  · rintro ⟨e, he⟩ ⟨d, hd⟩
    have := (hok d.value).mpr ⟨d, hd, rfl⟩
    rw [he] at this
    cases this
  · intro hnone
    cases he : evaluate s with
    | error e => use e
    | ok v =>
      obtain ⟨d, hd, -⟩ := (hok v).mp he
      apply (hnone ⟨d, hd⟩).elim

end FieldFormula.Arithmetic.Grammar
