import FieldFormula.Proofs.Evaluation.Replacement
import FieldFormula.Proofs.Registry.Lookup
import Mathlib.Data.List.DropRight
import Mathlib.Data.List.GetD
import Mathlib.Order.Bounds.Defs

/-!
# The choice of an argument

A function may take one of its arguments for its result and leave the others aside.  The choice by
conditions goes through pairs of a condition and a value, up to the first condition that is true;
the choice of the first value goes through the values, up to the first one with more than blanks.
What stands behind the argument that is taken has no part in the choice, and neither have the values
that belong to conditions that are not true.

* `Library.choose_eq`, `Library.choose_of_forall_not_holds`: the value that belongs to the first
  true condition, or the one at the end.
* `Library.choose_set`, `Library.choose_set_of_forall_not_holds`: values that may be replaced.
* `Library.firstValue_eq`: the first value with more than blanks.
* `Expr.evaluate_choice`: the same for formulas.
-/

namespace FieldFormula

/-- A text has nothing between its blanks exactly when it is all blanks. -/
theorem Text.trim_eq_nil_iff (s : List Char) :
  trim s = [] ↔ s.all isBlank = true
  := by
  rw [trim, trimEnd, List.reverse_eq_nil_iff, List.dropWhile_eq_nil_iff, List.all_eq_true]
  constructor
  · intro h
    have hnil : trimStart (trimStart s) = [] := by
      apply List.dropWhile_eq_nil_iff.mpr
      intro c hc
      apply h c (List.mem_reverse.mpr hc)
    rw [trimStart, trimStart, List.dropWhile_idempotent] at hnil
    apply List.dropWhile_eq_nil_iff.mp hnil
  · intro h c hc
    apply h c ((List.dropWhile_sublist isBlank).subset (List.mem_reverse.mp hc))

namespace Library

/-! ### Pairs of a condition and a value -/

/-- The condition of the pair at a place is true. -/
def Holds (vs : List Value) (k : Nat) : Prop :=
  2 * k + 1 < vs.length ∧ (vs.getD (2 * k) .empty).toBool = true

section

variable {c v : Value} {vs : List Value} {k : Nat}

theorem holds_zero : Holds (c :: v :: vs) 0 ↔ c.toBool = true := by
  simp [Holds]

theorem holds_succ : Holds (c :: v :: vs) (k + 1) ↔ Holds vs k := by
  have hlength : 2 * (k + 1) + 1 < (c :: v :: vs).length ↔ 2 * k + 1 < vs.length := by
    simp only [List.length_cons]
    omega
  rw [Holds, hlength, Holds]
  rfl

/-- The value that belongs to the first true condition is taken. -/
theorem choose_eq (hk : Holds vs k) (hfirst : ∀ i < k, ¬ Holds vs i) :
  choose vs = vs.getD (2 * k + 1) .empty
  := by
  induction vs using choose.induct generalizing k with
  | case1 => simp [Holds] at hk
  | case2 v => simp [Holds] at hk
  | case3 c v vs hc =>
    obtain rfl : k = 0 := by
      by_contra hne
      apply hfirst 0 (Nat.pos_of_ne_zero hne) (holds_zero.mpr hc)
    rw [choose, if_pos hc]
    rfl
  | case4 c v vs hc ih =>
    cases k with
    | zero => cases hc (holds_zero.mp hk)
    | succ k =>
      rw [choose, if_neg hc, ih (holds_succ.mp hk)]
      · rfl
      · intro i hi hholds
        apply hfirst (i + 1) (by omega) (holds_succ.mpr hholds)

/-- Without a true condition, the value at the end is taken if it has no condition. -/
theorem choose_of_forall_not_holds (h : ∀ i, ¬ Holds vs i) :
  choose vs = if vs.length % 2 = 1 then vs.getD (vs.length - 1) .empty else .empty
  := by
  induction vs using choose.induct with
  | case1 => rfl
  | case2 v => rfl
  | case3 c v vs hc => cases h 0 (holds_zero.mpr hc)
  | case4 c v vs hc ih =>
    have hparity : (c :: v :: vs).length % 2 = vs.length % 2 := by
      simp only [List.length_cons]
      omega
    rw [choose, if_neg hc, ih fun i hi => h (i + 1) (holds_succ.mpr hi), hparity]
    split
    · next hodd =>
      obtain ⟨n, hn⟩ : ∃ n, vs.length = n + 1 := Nat.exists_eq_add_one.mpr (by omega)
      simp [hn]
    · rfl

/-! ### Values that may be replaced -/

theorem getD_set_of_ne {i j : Nat} (hne : i ≠ j) (v : Value) :
  (vs.set i v).getD j .empty = vs.getD j .empty
  := by
  rw [List.getD_eq_getElem?_getD, List.getElem?_set_ne hne, List.getD_eq_getElem?_getD]

/-- Whether a condition is true does not depend on the other values. -/
theorem holds_set {i : Nat} (hne : i ≠ 2 * k) (v : Value) :
  Holds (vs.set i v) k ↔ Holds vs k
  := by
  rw [Holds, List.length_set, getD_set_of_ne hne, Holds]

/-- What stands behind the pair of the first true condition may be replaced, and so may the values
of the pairs in front of it. -/
theorem choose_set (hk : Holds vs k) (hfirst : ∀ i < k, ¬ Holds vs i) {i : Nat}
    (hi : 2 * k + 1 < i ∨ i < 2 * k ∧ i % 2 = 1) (v : Value) :
  choose (vs.set i v) = choose vs
  := by
  have hk' : Holds (vs.set i v) k := (holds_set (by omega) v).mpr hk
  have hfirst' : ∀ j < k, ¬ Holds (vs.set i v) j := by
    intro j hj
    rw [holds_set (by omega)]
    apply hfirst j hj
  rw [choose_eq hk' hfirst', choose_eq hk hfirst, getD_set_of_ne (by omega)]

/-- Without a true condition, the values of all pairs may be replaced. -/
theorem choose_set_of_forall_not_holds (h : ∀ k, ¬ Holds vs k) {i : Nat} (hi : i % 2 = 1)
    (v : Value) :
  choose (vs.set i v) = choose vs
  := by
  have h' : ∀ k, ¬ Holds (vs.set i v) k := by
    intro k
    rw [holds_set (by omega)]
    apply h
  rw [choose_of_forall_not_holds h', choose_of_forall_not_holds h, List.length_set]
  split
  · next hodd => rw [getD_set_of_ne (by omega)]
  · rfl

end

/-! ### The first value -/

section

variable {c : Call}

theorem isBlank_iff (v : Value) : v.isBlank = true ↔ Text.trim v.chars = [] :=
  (Text.trim_eq_nil_iff v.chars).symm

section

variable {k : Nat} (hk : k < c.arity) (hfull : Text.trim (c.value k).chars ≠ [])
  (hfirst : ∀ i < k, Text.trim (c.value i).chars = [])

include hk hfull hfirst

/-- The first value with more than blanks is taken, without the blanks at its ends. -/
theorem firstValue_eq :
  firstValue c = .ofChars (Text.trim (c.value k).chars)
  := by
  have hvalue : ∀ i (hi : i < c.args.length), c.value i = c.args[i] := by
    intro i hi
    rw [Call.value, List.getD_eq_getElem _ _ hi]
  have hfind : c.args.find? (!·.isBlank) = some (c.value k) := by
    apply List.find?_eq_some_iff_getElem.mpr
    refine ⟨?_, k, hk, (hvalue k hk).symm, ?_⟩
    · rw [Bool.not_eq_true', ← Bool.not_eq_true, isBlank_iff]
      apply hfull
    · intro i hi
      have hblank := (isBlank_iff _).mpr (hfirst i hi)
      rw [hvalue i (Nat.lt_trans hi hk)] at hblank
      simp [hblank]
  rw [firstValue, hfind]

/-- What stands behind the first value with more than blanks may be replaced. -/
theorem firstValue_set {i : Nat} (hi : k < i) (v : Value) :
  firstValue ⟨c.args.set i v, c.draw⟩ = firstValue c
  := by
  have hvalue : ∀ j ≤ k, Call.value ⟨c.args.set i v, c.draw⟩ j = c.value j :=
    fun j hj => getD_set_of_ne (by omega) v
  have hk' : k < Call.arity ⟨c.args.set i v, c.draw⟩ := by
    rw [Call.arity, List.length_set]
    exact hk
  rw [firstValue_eq hk' (by rwa [hvalue k le_rfl]), firstValue_eq hk hfull hfirst,
    hvalue k le_rfl]
  intro j hj
  rw [hvalue j hj.le]
  apply hfirst j hj

end

/-- Values of blanks alone leave the empty text. -/
theorem firstValue_of_forall_blank (h : ∀ i < c.arity, Text.trim (c.value i).chars = []) :
  firstValue c = .empty
  := by
  have hfind : c.args.find? (!·.isBlank) = none := by
    apply List.find?_eq_none.mpr
    intro v hv
    obtain ⟨i, hi, rfl⟩ := List.mem_iff_getElem.mp hv
    have hblank := (isBlank_iff _).mpr (h i hi)
    rw [Call.value, List.getD_eq_getElem _ _ hi] at hblank
    simp [hblank]
  rw [firstValue, hfind]

end

end Library

/-! ### Formulas -/

namespace Expr

section

variable {ctx : Context} {name : String} (args : List Expr)

theorem getD_map_evaluate (i : Nat) :
  (args.map (evaluate ctx)).getD i .empty = evaluate ctx (args.getD i .empty)
  := List.getD_map args .empty (evaluate ctx)

theorem holds_map_evaluate (k : Nat) :
  Library.Holds (args.map (evaluate ctx)) k
    ↔ 2 * k + 1 < args.length ∧ (evaluate ctx (args.getD (2 * k) .empty)).toBool = true
  := by
  rw [Library.Holds, List.length_map, getD_map_evaluate]

theorem evaluate_ifThen (hname : ctx.registry.Offers name Library.ifThen) :
  evaluate ctx (.call name args) = Library.choose (args.map (evaluate ctx))
  := by
  rw [← evaluateAll_eq_map]
  apply evaluate_call_of_offers hname

theorem evaluate_firstValue (hname : ctx.registry.Offers name Library.firstValue) :
  evaluate ctx (.call name args) = Library.firstValue ⟨args.map (evaluate ctx), ctx.draw⟩
  := by
  rw [← evaluateAll_eq_map]
  apply evaluate_call_of_offers hname

end

/-- The choice by conditions is the value behind the first true condition.  Without one, it is the
value at the end if that has no condition, and else the empty text.  The choice of the first value
is the first one with more than blanks, without the blanks at its ends, or else the empty text.
Every formula may stand for an argument behind the one that is taken, and, in the choice by
conditions, for a value whose condition is not true. -/
theorem evaluate_choice {ctx : Context} {name name' : String}
    (hname : ctx.registry.Offers name Library.ifThen)
    (hname' : ctx.registry.Offers name' Library.firstValue) (args : List Expr) :
  let value (i : Nat) := evaluate ctx (args.getD i .empty)
  let chosen (args : List Expr) := evaluate ctx (.call name args)
  let first (args : List Expr) := evaluate ctx (.call name' args)
  (∀ k, IsLeast {k | 2 * k + 1 < args.length ∧ (value (2 * k)).toBool = true} k →
      chosen args = value (2 * k + 1)
        ∧ ∀ i e, 2 * k + 1 < i ∨ i < 2 * k ∧ i % 2 = 1 → chosen (args.set i e) = chosen args)
    ∧ ((∀ k, 2 * k + 1 < args.length → (value (2 * k)).toBool = false) →
      chosen args = (if args.length % 2 = 1 then value (args.length - 1) else .empty)
        ∧ ∀ i e, i % 2 = 1 → chosen (args.set i e) = chosen args)
    ∧ (∀ k, IsLeast {k | k < args.length ∧ Text.trim (value k).chars ≠ []} k →
      first args = .ofChars (Text.trim (value k).chars)
        ∧ ∀ i e, k < i → first (args.set i e) = first args)
    ∧ ((∀ k < args.length, Text.trim (value k).chars = []) → first args = .empty)
  := by
  intro value chosen first
  let c : Call := ⟨args.map (evaluate ctx), ctx.draw⟩
  have hvalue : ∀ i, c.value i = value i := getD_map_evaluate args
  have harity : c.arity = args.length := List.length_map (evaluate ctx)
  have hholds : ∀ k, Library.Holds c.args k
      ↔ 2 * k + 1 < args.length ∧ (value (2 * k)).toBool = true := holds_map_evaluate args
  have hchosen : ∀ es, chosen es = Library.choose (es.map (evaluate ctx)) :=
    fun es => evaluate_ifThen es hname
  have hfirst : ∀ es, first es = Library.firstValue ⟨es.map (evaluate ctx), ctx.draw⟩ :=
    fun es => evaluate_firstValue es hname'
  refine ⟨?_, ?_, ?_, ?_⟩
  · intro k hk
    have htrue := (hholds k).mpr hk.1
    have hbefore : ∀ i < k, ¬ Library.Holds c.args i := by
      intro i hi hi'
      have hle := hk.2 ((hholds i).mp hi')
      omega
    constructor
    · rw [hchosen, ← hvalue]
      apply Library.choose_eq htrue hbefore
    · intro i e hi
      rw [hchosen, hchosen, List.map_set]
      apply Library.choose_set htrue hbefore hi
  · intro hnone
    have hfalse : ∀ k, ¬ Library.Holds c.args k := by
      intro k hk
      obtain ⟨hlt, htrue⟩ := (hholds k).mp hk
      rw [hnone k hlt] at htrue
      contradiction
    constructor
    · rw [hchosen, ← hvalue, ← harity]
      apply Library.choose_of_forall_not_holds hfalse
    · intro i e hi
      rw [hchosen, hchosen, List.map_set]
      apply Library.choose_set_of_forall_not_holds hfalse hi
  · intro k ⟨⟨hk, hfull⟩, hleast⟩
    have hbefore : ∀ i < k, Text.trim (c.value i).chars = [] := by
      intro i hi
      by_contra hfull'
      rw [hvalue] at hfull'
      have hle := hleast ⟨hi.trans hk, hfull'⟩
      omega
    rw [← harity] at hk
    rw [← hvalue] at hfull
    constructor
    · rw [hfirst, ← hvalue]
      apply Library.firstValue_eq hk hfull hbefore
    · intro i e hi
      rw [hfirst, hfirst, List.map_set]
      apply Library.firstValue_set hk hfull hbefore hi
  · intro hblank
    rw [hfirst]
    apply Library.firstValue_of_forall_blank
    intro i hi
    rw [hvalue]
    apply hblank i
    rwa [← harity]

/-- A choice by three conditions, of which the second is true by the numeral at its front, with a
value at the end; and a first value behind blanks.  Random numbers stand behind what is taken. -/
theorem evaluate_choice_second :
  let ctx : Context := ⟨.builtin, none, 0.25⟩
  let text (s : String) : Expr := .literal (.text s)
  let random : Expr := .call "RANDOMNUM" [text "1", text "6"]
  let conditions : List Expr :=
    [text "0", text "no", text "2 apples", text " yes ", text "true", random, random]
  let values : List Expr := [text "", text " \t", text " yes ", random]
  let chosen (args : List Expr) := evaluate ctx (.call "IF" args)
  let first (args : List Expr) := evaluate ctx (.call "FIRSTVALUE" args)
  chosen conditions = .text " yes "
    ∧ (∀ i e, 3 < i ∨ i < 2 ∧ i % 2 = 1 → chosen (conditions.set i e) = chosen conditions)
    ∧ first values = .text "yes"
    ∧ ∀ i e, 2 < i → first (values.set i e) = first values
  := by
  intro ctx text random conditions values chosen first
  have hname : ctx.registry.Offers "IF" Library.ifThen := Registry.offers_builtin rfl
  have hname' : ctx.registry.Offers "FIRSTVALUE" Library.firstValue := Registry.offers_builtin rfl
  have htrue : IsLeast {k | 2 * k + 1 < conditions.length
      ∧ (evaluate ctx (conditions.getD (2 * k) .empty)).toBool = true} 1 := by
    constructor
    · exact ⟨by decide, by decide +kernel⟩
    · rintro (_ | k) ⟨-, h⟩
      · have hfalse : (Value.text "0").toBool = false := by decide +kernel
        cases hfalse.symm.trans h
      · omega
  have hfull : IsLeast {k | k < values.length
      ∧ Text.trim (evaluate ctx (values.getD k .empty)).chars ≠ []} 2 := by
    constructor
    · exact ⟨by decide, by decide +kernel⟩
    · rintro (_ | _ | k) ⟨-, h⟩
      · cases h rfl
      · cases h (by decide +kernel)
      · omega
  obtain ⟨hconditions, -⟩ := evaluate_choice hname hname' conditions
  obtain ⟨-, -, hvalues, -⟩ := evaluate_choice hname hname' values
  obtain ⟨hchosen, hset⟩ := hconditions 1 htrue
  obtain ⟨hvalue, hset'⟩ := hvalues 2 hfull
  have hyes : String.ofList (Text.trim " yes ".toList) = "yes" := by decide +kernel
  refine ⟨hchosen, hset, ?_, hset'⟩
  rw [← hyes]
  exact hvalue

end Expr

end FieldFormula
