import FieldFormula.Library.Math
import FieldFormula.Proofs.Decimal.Counts
import FieldFormula.Proofs.Decimal.Ratios
import FieldFormula.Proofs.Registry.Lookup

/-!
# The partition of an integer

A number is split by taking parts off it as long as something remains.  For integers below `2 ^ 53`
every subtraction is exact, so the parts are as many divisors as there are in the number, and what
remains after them.  Whether there would be too many is decided by the quotient, which is rounded,
but not across an integer.

* `Library.Splits`: the parts that are taken off until nothing remains.
* `Library.Splits.parts_eq`: a bound on the number of parts that is not too small has no effect.
* `Library.exists_splits`: for integers, parts are taken off until nothing remains.
* `Expr.evaluate_partition`: the partition in formulas.
-/

namespace FieldFormula

open Decimal (Denotes)

namespace Library

/-! ### Taking parts off -/

/-- The parts that are taken off a number of at most `divisor` each, until nothing remains. -/
inductive Splits (divisor : Float) : Float → List Float → Prop where
  | done {r : Float} (h : ¬ 0.0 < r) : Splits divisor r []
  | part {r : Float} {ps : List Float} (h : 0.0 < r)
      (rest : Splits divisor (r - smaller divisor r) ps) :
    Splits divisor r (smaller divisor r :: ps)

/-- All parts are found when at least as many are allowed. -/
theorem Splits.parts_eq {divisor r : Float} {ps : List Float} (h : Splits divisor r ps) {fuel : Nat}
    (hfuel : ps.length ≤ fuel) :
  parts divisor r fuel = ps
  := by
  induction h generalizing fuel with
  | done h =>
    cases fuel with
    | zero => rfl
    | succ fuel => rw [parts, if_neg h]
  | part h rest ih =>
    obtain ⟨fuel, rfl⟩ : ∃ k, fuel = k + 1 := Nat.exists_eq_add_one.mpr (by
      rw [List.length_cons] at hfuel
      omega)
    rw [parts, if_pos h]
    simp only [ih (Nat.le_of_succ_le_succ hfuel)]

/-! ### Even parts -/

/-- As many parts of a size as there are in a number, and the rest if there is one. -/
def evenParts (n d : Nat) : List Nat :=
  List.replicate (n / d) d ++ if n % d = 0 then [] else [n % d]

theorem evenParts_zero (d : Nat) : evenParts 0 d = [] := by
  simp [evenParts]

/-- The first part is taken off, and the others are those of what remains. -/
theorem evenParts_of_pos {n d : Nat} (hn : 0 < n) (hd : 0 < d) :
  evenParts n d = min d n :: evenParts (n - min d n) d
  := by
  obtain hlt | hle := Nat.lt_or_ge n d
  · rw [Nat.min_eq_right hlt.le, Nat.sub_self, evenParts_zero, evenParts, Nat.div_eq_of_lt hlt,
      Nat.mod_eq_of_lt hlt, if_neg hn.ne']
    rfl
  · rw [Nat.min_eq_left hle, evenParts, Nat.div_eq_sub_div hd hle, Nat.mod_eq_sub_mod hle,
      List.replicate_succ]
    rfl

theorem sum_evenParts (n d : Nat) : (evenParts n d).sum = n := by
  have hmod := Nat.div_add_mod' n d
  rw [evenParts, List.sum_append, List.sum_replicate, smul_eq_mul]
  split
  · next hzero => rwa [hzero] at hmod
  · simpa using hmod

theorem length_evenParts_bounds {n d : Nat} (hd : 0 < d) :
  n ≤ (evenParts n d).length * d ∧ (evenParts n d).length * d < n + d
  := by
  have hmod := Nat.div_add_mod' n d
  have hlt := Nat.mod_lt n hd
  rw [evenParts, List.length_append, List.length_replicate, Nat.add_mul]
  split
  · rw [List.length_nil, Nat.zero_mul]
    omega
  · rw [List.length_singleton, Nat.one_mul]
    omega

/-- There are as many parts as the quotient says when it is rounded up. -/
theorem length_evenParts {n d : Nat} (hd : 0 < d) :
  ((evenParts n d).length : Int) = ⌈(n / d : ℚ)⌉
  := by
  have hcast : (0 : ℚ) < d := by exact_mod_cast hd
  obtain ⟨hle, hlt⟩ := length_evenParts_bounds (n := n) hd
  have hle' : (n : ℚ) ≤ (evenParts n d).length * d := by exact_mod_cast hle
  have hlt' : ((evenParts n d).length : ℚ) * d < n + d := by exact_mod_cast hlt
  rw [eq_comm, Int.ceil_eq_iff, lt_div_iff₀ hcast, div_le_iff₀ hcast, Int.cast_natCast]
  constructor <;> linarith

theorem le_of_mem_evenParts {n d k : Nat} (hk : k ∈ evenParts n d) : k ≤ n := by
  have hle := List.single_le_sum (fun i _ => Nat.zero_le i) k hk
  rwa [sum_evenParts] at hle

/-! ### Integers -/

/-- The floats stand for the natural numbers, one by one. -/
def AreCounts (ps : List Float) (ks : List Nat) : Prop :=
  List.Forall₂ (fun p (k : Nat) => Denotes p k) ps ks

/-- Integers up to `2 ^ 53` are written as their digits. -/
theorem AreCounts.map_render {ps : List Float} {ks : List Nat} (h : AreCounts ps ks)
    (hks : ∀ k ∈ ks, k ≤ 2 ^ 53) :
  ps.map Value.layout.render = ks.map (Nat.toDigits 10)
  := by
  induction h with
  | nil => rfl
  | @cons p k ps ks hp _ ih =>
    obtain ⟨hk, hks⟩ := List.forall_mem_cons.mp hks
    have htext : Value.numberText p = toString (k : Int) := by
      apply Decimal.numberText_of_denotes (by exact_mod_cast hp)
      rw [Nat.abs_cast]
      exact_mod_cast hk
    have hdigits := congrArg String.toList htext
    rw [Value.numberText, String.toList_ofList, Decimal.toList_toString, if_neg (by omega),
      List.nil_append, Int.natAbs_natCast] at hdigits
    rw [List.map_cons, List.map_cons, hdigits, ih hks]

section

variable {x y : Float} {n d : Nat} (hx : Denotes x n)

include hx

theorem zero_lt_iff : 0.0 < x ↔ 0 < n := by
  rw [Decimal.lt_iff Decimal.denotes_zero hx, Nat.cast_pos]

variable (hy : Denotes y d)

include hy

theorem denotes_smaller : Denotes (smaller y x) (min d n : Nat) := by
  simp only [smaller, Decimal.isNaN_eq_false hx, Decimal.isNaN_eq_false hy, Bool.false_eq_true,
    if_false, Decimal.lt_iff hx hy, Nat.cast_lt]
  split
  · next hlt => rwa [Nat.min_eq_right hlt.le]
  · next hle => rwa [Nat.min_eq_left (Nat.not_lt.mp hle)]

/-- The difference of integers up to `2 ^ 53` is exact. -/
theorem denotes_sub_natCast (hle : d ≤ n) (hn : n ≤ 2 ^ 53) :
  Denotes (x - y) (n - d : Nat)
  := by
  have hrepresentable : Decimal.IsRepresentable ((n - d : Nat) : Int) := by
    apply Decimal.isRepresentable_intCast
    rw [Nat.abs_cast]
    omega
  rw [Nat.cast_sub hle]
  apply Decimal.denotes_sub hx hy
  rw [← Nat.cast_sub hle]
  exact_mod_cast hrepresentable

end

/-- Integers up to `2 ^ 53` are split into even parts. -/
theorem exists_splits {x y : Float} {n d : Nat} (hx : Denotes x n) (hy : Denotes y d)
    (hn : n ≤ 2 ^ 53) (hd : 0 < d) :
  ∃ ps, Splits y x ps ∧ AreCounts ps (evenParts n d)
  := by
  induction n using Nat.strong_induction_on generalizing x with
  | h n ih =>
    obtain rfl | hpos := Nat.eq_zero_or_pos n
    · use [], .done (by simp [zero_lt_iff hx])
      rw [evenParts_zero]
      exact .nil
    · have hpart := denotes_smaller hx hy
      have hrest := denotes_sub_natCast hx hpart (Nat.min_le_right d n) hn
      obtain ⟨ps, hps, hcounts⟩ := ih (n - min d n) (by omega) hrest (by omega)
      use smaller y x :: ps, .part ((zero_lt_iff hx).mpr hpos) hps
      rw [evenParts_of_pos hpos hd]
      exact .cons hpart hcounts

/-- Integers below `2 ^ 53` are written as their even parts, unless there are too many. -/
theorem partition_eq {c : Call} {n d : Nat} (hn : Denotes (c.number 0) n)
    (hd : Denotes (c.number 1) d) (hlt : n < 2 ^ 53) (hpos : 0 < d) (hlt' : d < 2 ^ 53) :
  partition c = if maxParts < ⌈(n / d : ℚ)⌉ then .empty
    else .ofChars (Text.join [';'] ((evenParts n d).map (Nat.toDigits 10)))
  := by
  have hvalid : ¬ ((!(c.number 0).isFinite) = true ∨ (c.number 1).isNaN = true
      ∨ c.number 1 ≤ 0.0) := by
    have hdivisor : ¬ c.number 1 ≤ 0.0 := by
      rw [Decimal.le_iff hd Decimal.denotes_zero, not_le, Nat.cast_pos]
      exact hpos
    rw [Decimal.isFinite_eq_true hn, Decimal.isNaN_eq_false hd]
    simp [hdivisor]
  have hlimit : Float.ofNat maxParts
      < Decimal.roundWith Decimal.Binary.ceiling (c.number 0 / c.number 1)
      ↔ maxParts < ⌈(n / d : ℚ)⌉ := by
    rw [Decimal.lt_iff (Decimal.denotes_ofNat (by decide))
      (Decimal.denotes_ceiling_div hn hd hpos hlt hlt')]
    exact_mod_cast Iff.rfl
  obtain ⟨ps, hps, hcounts⟩ := exists_splits hn hd hlt.le hpos
  have hrender := hcounts.map_render fun k hk => (le_of_mem_evenParts hk).trans hlt.le
  rw [partition, if_neg hvalid]
  simp only [hlimit]
  split
  · rfl
  · next hfew =>
    have hlength : ps.length ≤ 2 * maxParts := by
      have hcount := length_evenParts (n := n) hpos
      rw [hcounts.length_eq]
      omega
    rw [hps.parts_eq hlength, hrender]

end Library

/-! ### Formulas -/

namespace Expr

/-- An integer below `2 ^ 53` and a positive divisor below `2 ^ 53`: parts are taken off the number
until nothing remains, and they are as many divisors as there are in the number and what remains
after them, so their sum is the number.  They are as many as the quotient says when it is rounded
up, and they are the result if these are at most 10000; otherwise the result is the empty text. -/
theorem evaluate_partition {ctx : Context} {name : String}
    (hname : ctx.registry.Offers name Library.partition) {a b : Expr} {n d : Nat}
    (hn : Denotes (a.evaluate ctx).toNumber n) (hd : Denotes (b.evaluate ctx).toNumber d)
    (hlt : n < 2 ^ 53) (hpos : 0 < d) (hlt' : d < 2 ^ 53) :
  let result := evaluate ctx (.call name [a, b])
  let parts := List.replicate (n / d) d ++ if n % d = 0 then [] else [n % d]
  (∃ ps, Library.Splits (b.evaluate ctx).toNumber (a.evaluate ctx).toNumber ps
      ∧ List.Forall₂ (fun p (k : Nat) => Denotes p k) ps parts)
    ∧ (10000 < ⌈(n / d : ℚ)⌉ → result = .empty)
    ∧ (⌈(n / d : ℚ)⌉ ≤ 10000 →
      result = .ofChars (Text.join [';'] (parts.map (Nat.toDigits 10))) ∧ parts.length ≤ 10000)
    ∧ parts.sum = n ∧ (parts.length : Int) = ⌈(n / d : ℚ)⌉
  := by
  intro result parts
  let c : Call := ⟨[a.evaluate ctx, b.evaluate ctx], ctx.draw⟩
  have hresult : result = Library.partition c := evaluate_call_of_offers hname [a, b]
  have hpartition := Library.partition_eq (c := c) hn hd hlt hpos hlt'
  have hlength : (parts.length : Int) = ⌈(n / d : ℚ)⌉ := Library.length_evenParts hpos
  have hmax : (Library.maxParts : Int) = 10000 := rfl
  rw [← hresult, hmax] at hpartition
  refine ⟨Library.exists_splits hn hd hlt.le hpos, ?_, ?_, Library.sum_evenParts n d, hlength⟩
  · intro hmany
    rw [hpartition, if_pos hmany]
  · intro hfew
    constructor
    · rw [hpartition, if_neg (not_lt.mpr hfew)]
      rfl
    · omega

/-- Two full parts and a rest, and a number that is one more than 10000 full parts, whose quotient
is next to 10000 in the floats. -/
theorem evaluate_partition_rest :
  let ctx : Context := ⟨.builtin, none, 0.25⟩
  let partition (n d : String) := evaluate ctx
    (.call "PARTITION" [.literal (.text n), .literal (.text d)])
  partition "25" "10" = .text "10;10;5"
    ∧ partition "9007199254730001" "900719925473" = .empty
  := by
  intro ctx partition
  have hname : ctx.registry.Offers "PARTITION" Library.partition := Registry.offers_builtin rfl
  have h25 : Denotes (Value.text "25").toNumber (25 : Nat) := by
    exact_mod_cast Decimal.denotes_of_any (k := 25) (by decide +kernel)
  have h10 : Denotes (Value.text "10").toNumber (10 : Nat) := by
    exact_mod_cast Decimal.denotes_of_any (k := 10) (by decide +kernel)
  have hlarge : Denotes (Value.text "9007199254730001").toNumber (9007199254730001 : Nat) := by
    exact_mod_cast Decimal.denotes_of_any (k := 9007199254730001) (by decide +kernel)
  have hdivisor : Denotes (Value.text "900719925473").toNumber (900719925473 : Nat) := by
    exact_mod_cast Decimal.denotes_of_any (k := 900719925473) (by decide +kernel)
  obtain ⟨-, -, hfew, -⟩ := evaluate_partition (a := .literal (.text "25"))
    (b := .literal (.text "10")) hname h25 h10 (by decide) (by decide) (by decide)
  obtain ⟨-, hmany, -⟩ := evaluate_partition (a := .literal (.text "9007199254730001"))
    (b := .literal (.text "900719925473")) hname hlarge hdivisor (by decide) (by decide)
    (by decide)
  have hparts : String.ofList (Text.join [';'] ((List.replicate (25 / 10) 10
      ++ if 25 % 10 = 0 then [] else [25 % 10]).map (Nat.toDigits 10))) = "10;10;5" := by
    decide +kernel
  constructor
  · rw [← hparts]
    exact (hfew (by norm_num)).1
  · apply hmany
    norm_num

end Expr

end FieldFormula
