import FieldFormula.Proofs.Decimal.Division
import FieldFormula.Proofs.Decimal.Sums
import FieldFormula.Proofs.Evaluation.JsonEncode

/-!
# Items removed from JSON arrays

The look-up of an item and its removal resolve an index by rules of their own.  They agree on the
items of the array, from the front and from the end, and beyond the end, where there is nothing to
find and nothing is removed.  In front of the array they differ: nothing is found there, but the
first item is removed.

* `Library.place`: the position of an index that may count from the end.
* `Library.resolveIndex?_eq`, `Library.jsonIndex_eq`: the item at an index.
* `Library.denotes_removalIndex`, `Library.jsonRemove_eq`: the array without the item.
* `Expr.evaluate_jsonRemove`: the same for the functions in a formula.
-/

namespace FieldFormula

open Decimal (Denotes)

namespace Library

/-! ### Positions -/

/-- The position of an index in a list of length `len`.  A negative index counts from the end, and
its position is negative if it lies in front of the list. -/
def place (k : Int) (len : Nat) : Int :=
  if k < 0 then len + k else k

section

variable {x : Float} {k : Int} {len : Nat} (hx : Denotes x k)

include hx

theorem lt_zero_iff_of_denotes :
  x < 0.0 ↔ k < 0
  := by
  rw [Decimal.lt_iff hx Decimal.denotes_zero]
  exact_mod_cast Iff.rfl

/-- The position of a negative index is computed exactly where it lies in the list. -/
theorem denotes_ofNat_add (hlen : len ≤ 2 ^ 53) (hneg : k < 0) (hle : 0 ≤ len + k) :
  Denotes (Float.ofNat len + x) (len + k).toNat
  := by
  have hcast : ((len + k).toNat : ℚ) = len + k := by
    exact_mod_cast congrArg (Int.cast (R := ℚ)) (Int.toNat_of_nonneg hle)
  have hbound : |(len : Int) + k| ≤ 2 ^ 53 := by
    rw [abs_of_nonneg hle]
    omega
  rw [hcast]
  apply Decimal.denotes_add (Decimal.denotes_ofNat hlen) hx
  exact_mod_cast Decimal.isRepresentable_intCast hbound

/-- In front of the list, the position of an index is a float below zero. -/
theorem ofNat_add_lt_zero (hlen : len ≤ 2 ^ 53) (hlt : len + k < 0) :
  Float.ofNat len + x < 0.0 ∧ ¬ 0.0 ≤ Float.ofNat len + x
  := by
  apply Decimal.add_lt_zero (Decimal.denotes_ofNat hlen) hx
  exact_mod_cast hlt

variable (hsize : 0 ≤ k ∧ k < 2 ^ 53 ∨ len ≤ 2 ^ 53)

include hsize

/-- An index is found at its position. -/
theorem resolveIndex?_eq :
  resolveIndex? x len = if 0 ≤ place k len ∧ place k len < len
    then some (place k len).toNat else none
  := by
  obtain hnonneg | hneg := le_or_gt 0 k
  · obtain ⟨n, rfl⟩ := Int.eq_ofNat_of_zero_le hnonneg
    have hplace : place n len = n := if_neg (by omega)
    rw [resolveIndex?_of_denotes (n := n) (by exact_mod_cast hx) (by omega), hplace]
    simp
  · have hlen : len ≤ 2 ^ 53 := by omega
    have hplace : place k len = len + k := if_pos hneg
    obtain hlt | hle := Int.lt_or_le (len + k) 0
    · have hfront := (ofNat_add_lt_zero hx hlen hlt).2
      rw [hplace, if_neg (by omega), resolveIndex?, if_pos ((lt_zero_iff_of_denotes hx).mpr hneg)]
      simp [hfront]
    · -- the exact position counts from the front
      have hsum := denotes_ofNat_add hx hlen hneg hle
      have hnot : ¬ Float.ofNat len + x < 0.0 := by
        rw [lt_zero_iff_of_denotes (k := (len + k).toNat) (by exact_mod_cast hsum)]
        omega
      have hstep : resolveIndex? x len = resolveIndex? (Float.ofNat len + x) len := by
        rw [resolveIndex?, resolveIndex?, if_pos ((lt_zero_iff_of_denotes hx).mpr hneg),
          if_neg hnot]
      rw [hstep, resolveIndex?_of_denotes hsum (Or.inr hlen), hplace, if_pos (by omega),
        if_pos (by omega)]

/-- The item that is removed is the one at the position, or the first one for an index in front of
the list. -/
theorem denotes_removalIndex :
  Denotes (removalIndex x len) (place k len).toNat
  := by
  have hwhole : Denotes (Decimal.roundWith Decimal.Binary.truncate x) k :=
    Decimal.denotes_roundWith hx fun b => Decimal.Binary.truncate_eq
  rw [removalIndex, Decimal.isNaN_eq_false hx, if_neg (by decide)]
  obtain hnonneg | hneg := le_or_gt 0 k
  · have hplace : place k len = k := if_neg (by omega)
    have hcast : (k.toNat : ℚ) = k := by
      exact_mod_cast congrArg (Int.cast (R := ℚ)) (Int.toNat_of_nonneg hnonneg)
    have hnot : ¬ x < 0.0 := by
      rw [lt_zero_iff_of_denotes hx]
      omega
    simp only [hnot, if_false, hplace, hcast]
    exact hwhole
  · have hlen : len ≤ 2 ^ 53 := by omega
    have hplace : place k len = len + k := if_pos hneg
    simp only [(lt_zero_iff_of_denotes hx).mpr hneg, if_true, hplace]
    obtain hlt | hle := Int.lt_or_le (len + k) 0
    · rw [if_pos (ofNat_add_lt_zero hwhole hlen hlt).1, Int.toNat_of_nonpos hlt.le]
      exact_mod_cast Decimal.denotes_zero
    · have hsum := denotes_ofNat_add hwhole hlen hneg hle
      have hnot : ¬ Float.ofNat len + Decimal.roundWith Decimal.Binary.truncate x < 0.0 := by
        rw [lt_zero_iff_of_denotes (k := (len + k).toNat) (by exact_mod_cast hsum)]
        omega
      rw [if_neg hnot]
      exact hsum

end

/-! ### Arrays -/

section

variable {i a : Value} {k : Int} {items : List Json} (hi : Denotes i.toNumber k)
  (ha : Json.ofText a.chars = .ok (.array items))
  (hsize : 0 ≤ k ∧ k < 2 ^ 53 ∨ items.length ≤ 2 ^ 53) (draw : Float)

include hi ha hsize

/-- The item at an index is the one at its position, and there is none in front of the array. -/
theorem jsonIndex_eq :
  jsonIndex ⟨[i, a], draw⟩ = if 0 ≤ place k items.length
    then (items[(place k items.length).toNat]?).elim .empty fun v => .ofChars (itemText v)
    else .empty
  := by
  have hread : Json.ofText (Call.chars ⟨[i, a], draw⟩ 1) = .ok (.array items) := ha
  have hnumber : Call.number ⟨[i, a], draw⟩ 0 = i.toNumber := rfl
  rw [jsonIndex, withJson, hread]
  simp only [hnumber, resolveIndex?_eq hi hsize]
  by_cases hnonneg : 0 ≤ place k items.length
  · by_cases hlt : place k items.length < items.length
    · rw [if_pos ⟨hnonneg, hlt⟩, if_pos hnonneg, Option.bind_some]
      cases items[(place k items.length).toNat]? <;> rfl
    · rw [if_neg (by tauto), if_pos hnonneg, List.getElem?_eq_none (by omega)]
      rfl
  · rw [if_neg (by tauto), if_neg hnonneg]
    rfl

/-- The item at the position of the index is removed, and the first one for an index in front of
the array. -/
theorem jsonRemove_eq :
  jsonRemove ⟨[i, a], draw⟩
    = jsonValue (.array (items.eraseIdx (place k items.length).toNat))
  := by
  have hread : Json.ofText (Call.chars ⟨[i, a], draw⟩ 1) = .ok (.array items) := ha
  have hnumber : Call.number ⟨[i, a], draw⟩ 0 = i.toNumber := rfl
  obtain ⟨n, hn⟩ : ∃ n, (place k items.length).toNat = n := ⟨_, rfl⟩
  have hstart := denotes_removalIndex hi hsize
  rw [hn] at hstart
  have hcount : n < 2 ^ 53 ∨ items.length ≤ 2 ^ 53 := by
    rw [place] at hn
    split at hn <;> omega
  have hlt : removalIndex i.toNumber items.length < Float.ofNat items.length
      ↔ n < items.length := by
    rw [Decimal.lt_ofNat_iff (k := n) (by exact_mod_cast hstart) (by exact_mod_cast hcount)]
    exact_mod_cast Iff.rfl
  rw [jsonRemove, withJson, hread, hn]
  simp only [hnumber, hlt, toNat_of_denotes hstart]
  split
  · rfl
  · next hle => rw [List.eraseIdx_of_length_le (Nat.not_lt.mp hle)]

end

end Library

/-! ### Formulas -/

namespace Expr

/-- An index on an array, from the front or from the end, is the index of an item that is found, and
the array without this item remains.  Beyond the end no item is found, and all of them remain.  In
front of the array no item is found either, but the array without its first item remains.  An index
that is not a natural number below `2 ^ 53` is compared with a length that a float counts
exactly. -/
theorem evaluate_jsonRemove {ctx : Context} {i a : Expr} {k : Int} {items : List Json}
    (hregistry : ctx.registry = .builtin) (hi : Denotes (i.evaluate ctx).toNumber k)
    (ha : Json.ofText (a.evaluate ctx).chars = .ok (.array items))
    (hsize : 0 ≤ k ∧ k < 2 ^ 53 ∨ items.length ≤ 2 ^ 53) :
  let found := evaluate ctx (.call "JSONINDEX" [i, a])
  let remaining := evaluate ctx (.call "JSONREMOVE" [i, a])
  (-items.length ≤ k → k < items.length → ∃ front v back, items = front ++ v :: back
      ∧ (front.length : Int) = (if k < 0 then items.length + k else k)
      ∧ found = .ofChars (Library.itemText v)
      ∧ remaining = .ofChars (Json.array (front ++ back)).text)
    ∧ (items.length ≤ k → found = .empty ∧ remaining = .ofChars (Json.array items).text)
    ∧ (k < -items.length → found = .empty ∧ remaining = .ofChars (Json.array items.tail).text)
  := by
  intro found remaining
  obtain ⟨n, hn⟩ : ∃ n, Library.place k items.length = n := ⟨_, rfl⟩
  have hfound : found = if 0 ≤ n then
      (items[n.toNat]?).elim .empty fun v => .ofChars (Library.itemText v) else .empty := by
    rw [← hn, ← Library.jsonIndex_eq hi ha hsize ctx.draw]
    exact evaluate_call hregistry "JSONINDEX" Library.jsonIndex rfl [i, a]
  have hremaining : remaining = .ofChars (Json.array (items.eraseIdx n.toNat)).text := by
    apply (evaluate_call hregistry "JSONREMOVE" Library.jsonRemove rfl [i, a]).trans
    rw [← hn]
    exact Library.jsonRemove_eq hi ha hsize ctx.draw
  rw [hfound, hremaining]
  refine ⟨?_, ?_, ?_⟩
  · intro hlow hhigh
    have hnonneg : 0 ≤ n := by
      rw [← hn, Library.place]
      split <;> omega
    have hlt : n.toNat < items.length := by
      rw [← hn, Library.place]
      split <;> omega
    use items.take n.toNat, items[n.toNat], items.drop (n.toNat + 1)
    refine ⟨?_, ?_, ?_, ?_⟩
    · rw [List.cons_getElem_drop_succ, List.take_append_drop]
    · rw [List.length_take_of_le hlt.le, Int.toNat_of_nonneg hnonneg, ← hn, Library.place]
    · rw [if_pos hnonneg, List.getElem?_eq_getElem hlt]
      rfl
    · rw [List.eraseIdx_eq_take_drop_succ]
  · intro hle
    have hbeyond : items.length ≤ n.toNat := by
      rw [← hn, Library.place]
      split <;> omega
    rw [List.getElem?_eq_none hbeyond, List.eraseIdx_of_length_le hbeyond, Option.elim_none,
      ite_self]
    exact ⟨rfl, rfl⟩
  · intro hlt
    have hneg : n < 0 := by
      rw [← hn, Library.place]
      split <;> omega
    rw [if_neg hneg.not_ge, Int.toNat_of_nonpos hneg.le, List.eraseIdx_zero]
    exact ⟨rfl, rfl⟩

/-- The second item from the end is removed. -/
theorem evaluate_jsonRemove_middle :
  let ctx : Context := ⟨.builtin, none, 0.0⟩
  let i : Expr := .literal (.text "-2")
  let a : Expr := .literal (.text "[true,\"x\",null]")
  ∃ front v back, [.bool true, .string "x", .null] = front ++ v :: back
    ∧ (front.length : Int) = 3 + -2
    ∧ evaluate ctx (.call "JSONINDEX" [i, a]) = .ofChars (Library.itemText v)
    ∧ evaluate ctx (.call "JSONREMOVE" [i, a]) = .ofChars (Json.array (front ++ back)).text
  := by
  intro ctx i a
  have hregistry : ctx.registry = .builtin := rfl
  have hi : Denotes (i.evaluate ctx).toNumber (-2 : Int) :=
    Decimal.denotes_of_any (by decide +kernel)
  have ha : Json.ofText (a.evaluate ctx).chars
      = .ok (.array [.bool true, .string "x", .null]) := by
    have hchars : (a.evaluate ctx).chars = (Json.array [.bool true, .string "x", .null]).text := by
      decide +kernel
    rw [hchars, Json.ofText_text]
    · apply Json.wellFormed_array_iff.mpr
      simp only [List.forall_mem_cons]
      use Json.wellFormed_bool _ _, Json.wellFormed_string _ _, Json.wellFormed_null _
      apply List.forall_mem_nil
    · apply Json.floatsReadBack_array_iff.mpr
      simp only [List.forall_mem_cons]
      use Json.floatsReadBack_bool _, Json.floatsReadBack_string _, by rintro x ⟨⟩
      apply List.forall_mem_nil
  obtain ⟨hinside, -, -⟩ := evaluate_jsonRemove hregistry hi ha (Or.inr (by decide))
  exact hinside (by decide) (by decide)

/-- Three items from the end of an array of two, no item is found, and the first one is removed. -/
theorem evaluate_jsonRemove_front :
  let ctx : Context := ⟨.builtin, none, 0.0⟩
  let items : List Json := [.null, .bool true]
  let i : Expr := .literal (.text "-3")
  let a : Expr := .literal (.text "[null,true]")
  Denotes (i.evaluate ctx).toNumber (-3 : Int)
    ∧ Json.ofText (a.evaluate ctx).chars = .ok (.array items)
    ∧ (evaluate ctx (.call "JSONINDEX" [i, a])).toText = ""
    ∧ (evaluate ctx (.call "JSONREMOVE" [i, a])).toText = "[true]"
    ∧ (Json.array items).text = "[null,true]".toList
  := by
  intro ctx items i a
  have hregistry : ctx.registry = .builtin := rfl
  refine ⟨Decimal.denotes_of_any (by decide +kernel), ?_, ?_, ?_, ?_⟩
  · have hchars : (a.evaluate ctx).chars = (Json.array items).text := by decide +kernel
    rw [hchars, Json.ofText_text]
    · apply Json.wellFormed_array_iff.mpr
      simp only [items, List.forall_mem_cons]
      use Json.wellFormed_null _, Json.wellFormed_bool _ _
      apply List.forall_mem_nil
    · apply Json.floatsReadBack_array_iff.mpr
      simp only [items, List.forall_mem_cons]
      use by rintro x ⟨⟩, Json.floatsReadBack_bool _
      apply List.forall_mem_nil
  · rw [evaluate_call hregistry "JSONINDEX" Library.jsonIndex rfl]
    decide +kernel
  · rw [evaluate_call hregistry "JSONREMOVE" Library.jsonRemove rfl]
    decide +kernel
  · decide +kernel

end Expr

end FieldFormula
