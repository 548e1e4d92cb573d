import FieldFormula.Proofs.Expr.Machine
import Mathlib.Tactic.Use

/-!
# Readings that tokens lead to

`Reading.Reaches p ts q` says that the tokens `ts` lead from the reading `p` to the reading
`q`: a function name and the parenthesis behind it open a call, and every other token takes
a step.

* `ofTokens_eq_ok_iff`: tokens are a formula exactly when they lead to a reading without open
  calls.
* `Reading.exists_reaches_iff`: tokens lead somewhere exactly when a parenthesis stands
  behind every function name.
* `Reading.run_of_leftmost`: else, reading stops at the leftmost function name without one.
-/

namespace FieldFormula.Expr

namespace Reading

/-- The tokens `ts` lead from `p` to `q`. -/
inductive Reaches : Reading → List Token → Reading → Prop
  | nil (p : Reading) : Reaches p [] p
  | call {p q : Reading} {ts : List Token} (name : String) (h : Reaches (p.openCall name) ts q) :
      Reaches p (.function name :: .leftParen :: ts) q
  | token {p q : Reading} {ts : List Token} (t : Token) (ht : ∀ name, t ≠ .function name)
      (h : Reaches (p.step t) ts q) : Reaches p (t :: ts) q

theorem Reaches.append
    {p q r : Reading} {ts us : List Token} (h : Reaches p ts q) (h' : Reaches q us r) :
  Reaches p (ts ++ us) r
  := by
  induction h with
  | nil p => apply h'
  | call name _ ih => apply Reaches.call name (ih h')
  | token t ht _ ih => apply Reaches.token t ht (ih h')

/-- A token that is no function name leads to the reading after its step. -/
theorem Reaches.single (p : Reading) {t : Token} (ht : ∀ name, t ≠ .function name) :
  Reaches p [t] (p.step t)
  := Reaches.token t ht (Reaches.nil _)

/-- Reading goes on from the reading that the first tokens lead to. -/
theorem Reaches.run_append
    {p q : Reading} {ts : List Token} (h : Reaches p ts q) (us : List Token) :
  p.run (ts ++ us) = q.run us
  := by
  induction h with
  | nil p => rfl
  | call name _ ih => apply ih
  | token t ht _ ih =>
    rw [List.cons_append, run_token _ ht]
    apply ih

/-- The result is that of the reading which the tokens lead to. -/
theorem Reaches.run
    {p q : Reading} {ts : List Token} (h : Reaches p ts q) :
  p.run ts = q.finish
  := by
  rw [← List.append_nil ts, h.run_append]
  rfl

/-! ### What a step can do -/

/-- A step adds the part that the token stands for, or else, within the innermost call, it
moves the number of open parentheses, closes the call, or ends the argument. -/
theorem step_cases (p : Reading) (t : Token) :
  p.step t = p.add (part t)
    ∨ ∃ f fs, p.frames = f :: fs
      ∧ ((∃ n, p.step t = Reading.add ⟨{ f with parens := n } :: fs, p.nodes⟩ empty)
        ∨ p.step t = Reading.add ⟨fs, p.nodes⟩ f.close
        ∨ p.step t = ⟨f.endArg :: fs, p.nodes⟩)
  := by
  obtain ⟨frames, nodes⟩ := p
  cases frames with
  | nil => cases t <;> exact .inl rfl
  | cons f fs =>
    cases t with
    | leftParen => exact .inr ⟨f, fs, rfl, .inl ⟨_, rfl⟩⟩
    | rightParen =>
      right
      use f, fs, rfl
      by_cases hf : f.parens = 0
      · exact .inr (.inl (if_pos hf))
      · exact .inl ⟨_, if_neg hf⟩
    | semicolon | comma =>
      by_cases hf : f.parens = 0
      · exact .inr ⟨f, fs, rfl, .inr (.inr (if_pos hf))⟩
      · exact .inl (if_neg hf)
    | _ => exact .inl rfl

/-! ### Function names without a parenthesis -/

/-- At the place `i` there is a function name without a parenthesis behind it. -/
def BareAt (ts : List Token) (i : Nat) : Prop :=
  (∃ name, ts[i]? = some (.function name)) ∧ ts[i + 1]? ≠ some .leftParen

theorem bareAt_cons_succ (t : Token) (ts : List Token) (i : Nat) :
  BareAt (t :: ts) (i + 1) ↔ BareAt ts i
  := by
  simp [BareAt]

theorem bareAt_call_iff (name : String) (ts : List Token) (i : Nat) :
  BareAt (.function name :: .leftParen :: ts) i ↔ ∃ j, i = j + 2 ∧ BareAt ts j
  := by
  match i with
  | 0 | 1 => simp [BareAt]
  | i + 2 => simp [BareAt]

theorem bareAt_token_iff
    {t : Token} (ht : ∀ name, t ≠ .function name) (ts : List Token) (i : Nat) :
  BareAt (t :: ts) i ↔ ∃ j, i = j + 1 ∧ BareAt ts j
  := by
  match i with
  | 0 => simp [BareAt, ht]
  | i + 1 => simp [bareAt_cons_succ]

/-- Tokens that lead somewhere have a parenthesis behind every function name. -/
theorem Reaches.not_bareAt
    {p q : Reading} {ts : List Token} (h : Reaches p ts q) (i : Nat) :
  ¬ BareAt ts i
  := by
  induction h generalizing i with
  | nil p => simp [BareAt]
  | call name _ ih =>
    rw [bareAt_call_iff]
    rintro ⟨j, rfl, hj⟩
    apply ih j hj
  | token t ht _ ih =>
    rw [bareAt_token_iff ht]
    rintro ⟨j, rfl, hj⟩
    apply ih j hj

/-- The place `i` is the leftmost with a function name that no parenthesis follows. -/
def LeftmostBareAt (ts : List Token) (i : Nat) : Prop :=
  BareAt ts i ∧ ∀ j < i, ¬ BareAt ts j

theorem LeftmostBareAt.unique
    {ts : List Token} {i j : Nat} (hi : LeftmostBareAt ts i) (hj : LeftmostBareAt ts j) :
  i = j
  := by
  obtain hlt | heq | hgt := Nat.lt_trichotomy i j
  · apply (hj.2 i hlt hi.1).elim
  · apply heq
  · apply (hi.2 j hgt hj.1).elim

/-- Either the tokens lead somewhere, or reading stops at the leftmost function name that
no parenthesis follows. -/
theorem exists_reaches_or_leftmost (p : Reading) (ts : List Token) :
  (∃ q, Reaches p ts q)
    ∨ ∃ i, LeftmostBareAt ts i
      ∧ p.run ts = .error ⟨.leftParen, ts[i + 1]?.map Token.kind⟩
  := by
  fun_induction run p ts with
  | case1 p => exact .inl ⟨p, .nil p⟩
  | case2 p name ts ih =>
    obtain ⟨q, hq⟩ | ⟨i, ⟨hi, hleft⟩, herror⟩ := ih
    · exact .inl ⟨q, .call name hq⟩
    · right
      use i + 2
      constructor
      · constructor
        · apply (bareAt_call_iff name ts _).mpr ⟨i, rfl, hi⟩
        · intro j hj
          rw [bareAt_call_iff]
          rintro ⟨j, rfl, hbare⟩
          apply hleft j (by omega) hbare
      · simpa using herror
  | case3 p name ts hts =>
    right
    use 0
    constructor
    · constructor
      · constructor
        · use name
          rfl
        · cases ts with
          | nil => simp
          | cons t ts =>
            rintro ⟨⟩
            apply hts ts rfl
      · intro j hj
        omega
    · simp [List.head?_eq_getElem?]
  | case4 p t ts _ ht ih =>
    obtain ⟨q, hq⟩ | ⟨i, ⟨hi, hleft⟩, herror⟩ := ih
    · exact .inl ⟨q, .token t ht hq⟩
    · right
      use i + 1
      constructor
      · constructor
        · apply (bareAt_token_iff ht ts _).mpr ⟨i, rfl, hi⟩
        · intro j hj
          rw [bareAt_token_iff ht]
          rintro ⟨j, rfl, hbare⟩
          apply hleft j (by omega) hbare
      · simpa using herror

/-- Tokens lead somewhere exactly when a parenthesis follows every function name. -/
theorem exists_reaches_iff (p : Reading) (ts : List Token) :
  (∃ q, Reaches p ts q) ↔ ∀ i, ¬ BareAt ts i
  := by
  constructor
  · rintro ⟨q, hq⟩
    apply hq.not_bareAt
  · intro h
    obtain hq | ⟨i, hi, -⟩ := exists_reaches_or_leftmost p ts
    · apply hq
    · apply (h i hi.1).elim

/-- Reading stops at the leftmost function name that no parenthesis follows. -/
theorem run_of_leftmost (p : Reading) {ts : List Token} {i : Nat} (hi : LeftmostBareAt ts i) :
  p.run ts = .error ⟨.leftParen, ts[i + 1]?.map Token.kind⟩
  := by
  obtain ⟨q, hq⟩ | ⟨j, hj, herror⟩ := exists_reaches_or_leftmost p ts
  · apply (hq.not_bareAt i hi.1).elim
  · rw [hi.unique hj, herror]

theorem finish_eq_ok_iff (p : Reading) (e : Expr) :
  p.finish = .ok e ↔ p.frames = [] ∧ e = ofParts p.nodes
  := by
  obtain ⟨frames, nodes⟩ := p
  cases frames with
  | nil => simp [finish, eq_comm]
  | cons f fs => simp [finish]

end Reading

/-- Tokens are a formula exactly when they lead to a reading without open calls. -/
theorem ofTokens_eq_ok_iff (ts : List Token) (e : Expr) :
  ofTokens ts = .ok e ↔ ∃ q, Reading.Reaches .start ts q ∧ q.frames = [] ∧ e = ofParts q.nodes
  := by
  rw [ofTokens_eq_run]
  constructor
  · intro h
    obtain ⟨q, hq⟩ | ⟨i, -, herror⟩ := Reading.exists_reaches_or_leftmost .start ts
    · use q, hq
      rw [hq.run] at h
      apply (q.finish_eq_ok_iff e).mp h
    · rw [h] at herror
      cases herror
  · rintro ⟨q, hq, hfinish⟩
    rw [hq.run]
    apply (q.finish_eq_ok_iff e).mpr hfinish

end FieldFormula.Expr
