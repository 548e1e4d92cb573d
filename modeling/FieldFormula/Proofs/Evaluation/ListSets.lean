import FieldFormula.Proofs.Decimal.Comparison
import FieldFormula.Proofs.Decimal.Counts
import FieldFormula.Proofs.Evaluation.Items
import FieldFormula.Proofs.Evaluation.Replacement
import FieldFormula.Proofs.Registry.Lookup

/-!
# Lists as sets

The items of several lists, each once, are what one list of all of them has, each once.  The items
of a list that another one has, and those that it has not, are the items of the list dealt out to
two: each keeps its place among the others, as often as it occurs.  What the functions return is
read again by the next one, so the laws of union, difference and intersection hold of formulas.

* `Library.listUnique_eq`, `Library.listMerge_eq`: the items of several lists.
* `Library.fullItems_listDiff`, `Library.fullItems_listIntersect`: the items dealt out to two lists.
* `Library.itemCount_listDiff_add`: what is counted in the two is counted in the list.
* `Expr.evaluate_listUnique`, `Expr.evaluate_listDiff`: the laws for formulas.
-/

namespace FieldFormula

namespace Library

/-! ### Items once each -/

section

variable (a b : Value) (draw : Float)

theorem listUnique_eq (c : Call) :
  listUnique c = .ofChars (listOf (distinct (c.allChars.flatMap fullItems)))
  := by
  rw [listUnique, fullItems_listOf]

/-- The items of two lists are put together like those of any number of lists. -/
theorem listMerge_eq :
  listMerge ⟨[a, b], draw⟩ = listUnique ⟨[a, b], draw⟩
  := by
  rw [listUnique_eq]
  have hchars : Call.allChars ⟨[a, b], draw⟩ = [a.chars, b.chars] := rfl
  rw [hchars, List.flatMap_cons, List.flatMap_cons, List.flatMap_nil, List.append_nil]
  rfl

/-- Items of lists, each once, are found again in the list that is made of them. -/
theorem fullItems_listOf_distinct (texts : List (List Char)) :
  fullItems (listOf (distinct (texts.flatMap fullItems))) = distinct (texts.flatMap fullItems)
  := by
  apply fullItems_listOf_items
  intro i hi
  obtain ⟨t, -, hi⟩ := List.mem_flatMap.mp (mem_distinct_iff.mp hi)
  apply of_mem_fullItems hi

theorem fullItems_listUnique (c : Call) :
  fullItems (listUnique c).chars = distinct (c.allChars.flatMap fullItems)
  := by
  rw [listUnique_eq, Value.chars_ofChars, fullItems_listOf_distinct]

/-- One list of the texts has the items that the texts have. -/
theorem listUnique_of_chars (c : Call) (v : Value) (draw : Float)
    (hv : v.chars = listOf c.allChars) :
  listUnique ⟨[v], draw⟩ = listUnique c
  := by
  have hchars : Call.allChars ⟨[v], draw⟩ = [listOf c.allChars] := congrArg ([·]) hv
  rw [listUnique_eq, listUnique_eq, hchars, List.flatMap_singleton, fullItems_listOf]

/-- Items that are kept once stay as they are. -/
theorem listUnique_listUnique (c : Call) (draw : Float) :
  listUnique ⟨[listUnique c], draw⟩ = listUnique c
  := by
  have hitems : Call.allChars ⟨[listUnique c], draw⟩ = [(listUnique c).chars] := rfl
  rw [listUnique_eq, hitems, List.flatMap_singleton, fullItems_listUnique,
    distinct_eq_self (nodup_distinct _), listUnique_eq]

/-! ### Items dealt out to two lists -/

/-- Items chosen from a list are found again in the list that is made of them. -/
theorem fullItems_listOf_filter (p : List Char → Bool) (l : List Char) :
  fullItems (listOf ((fullItems l).filter p)) = (fullItems l).filter p
  := by
  apply fullItems_listOf_items
  intro i hi
  apply of_mem_fullItems (List.mem_filter.mp hi).1

theorem listDiff_eq :
  listDiff ⟨[a, b], draw⟩
    = .ofChars (listOf ((fullItems a.chars).filter fun i => i ∉ fullItems b.chars))
  := by
  apply congrArg (fun is => Value.ofChars (listOf is))
  apply List.filter_congr
  intro i _
  rw [List.contains_eq_mem, decide_not]
  rfl

theorem listIntersect_eq :
  listIntersect ⟨[a, b], draw⟩
    = .ofChars (listOf ((fullItems a.chars).filter fun i => i ∈ fullItems b.chars))
  := by
  apply congrArg (fun is => Value.ofChars (listOf is))
  apply List.filter_congr
  intro i _
  rw [List.contains_eq_mem]
  rfl

theorem fullItems_listDiff :
  fullItems (listDiff ⟨[a, b], draw⟩).chars
    = (fullItems a.chars).filter fun i => i ∉ fullItems b.chars
  := by
  rw [listDiff_eq, Value.chars_ofChars, fullItems_listOf_filter]

theorem fullItems_listIntersect :
  fullItems (listIntersect ⟨[a, b], draw⟩).chars
    = (fullItems a.chars).filter fun i => i ∈ fullItems b.chars
  := by
  rw [listIntersect_eq, Value.chars_ofChars, fullItems_listOf_filter]

/-- What neither of two lists has is what their union has not. -/
theorem listDiff_listDiff (c : Value) :
  listDiff ⟨[listDiff ⟨[a, b], draw⟩, c], draw⟩ = listDiff ⟨[a, listMerge ⟨[b, c], draw⟩], draw⟩
  := by
  have hunion : ∀ i, i ∈ fullItems (listMerge ⟨[b, c], draw⟩).chars
      ↔ i ∈ fullItems b.chars ∨ i ∈ fullItems c.chars := by
    intro i
    rw [listMerge_eq, fullItems_listUnique, mem_distinct_iff]
    simp [Call.allChars]
  rw [listDiff_eq, fullItems_listDiff, listDiff_eq, List.filter_filter]
  congr 2
  apply List.filter_congr
  intro i _
  simp only [hunion, not_or, Bool.decide_and, Bool.and_comm]

/-- What two lists have in common is what the first has and the difference has not. -/
theorem listIntersect_eq_listDiff :
  listIntersect ⟨[a, b], draw⟩ = listDiff ⟨[a, listDiff ⟨[a, b], draw⟩], draw⟩
  := by
  rw [listIntersect_eq, listDiff_eq, fullItems_listDiff]
  congr 2
  apply List.filter_congr
  intro i hi
  simp [hi]

/-! ### Counting items -/

/-- The number of items with more than blanks in a list. -/
def itemCount (l : List Char) : Nat :=
  (itemsOf l).countP (!·.all Text.isBlank)

theorem listCount_eq :
  listCount ⟨[a], draw⟩ = .ofNat (itemCount a.chars)
  := by
  rw [itemCount, List.countP_eq_length_filter]
  rfl

/-- Items without characters are not counted. -/
theorem itemCount_eq (l : List Char) :
  itemCount l = (fullItems l).countP (!·.all Text.isBlank)
  := by
  rw [fullItems, List.countP_filter]
  apply List.countP_congr
  rintro (_ | _) _ <;> simp

/-- The items of a list that are counted are counted in one of the two it is dealt out to. -/
theorem itemCount_listDiff_add :
  itemCount (listDiff ⟨[a, b], draw⟩).chars + itemCount (listIntersect ⟨[a, b], draw⟩).chars
    = itemCount a.chars
  := by
  rw [itemCount_eq, itemCount_eq, itemCount_eq, fullItems_listDiff, fullItems_listIntersect,
    List.countP_eq_countP_filter_add (fullItems a.chars) _ fun i => i ∉ fullItems b.chars]
  simp only [decide_not, Bool.not_not]

end

end Library

/-! ### Formulas -/

namespace Expr

variable {ctx : Context}

/-- The items of several texts that are not empty are kept once each, in the order of their first
places, and no others.  So nothing changes when it is done twice, and the texts can be put together
to one before.  The union of two lists is the case of two texts. -/
theorem evaluate_listUnique (hregistry : ctx.registry = .builtin) (args : List Expr) :
  let items := args.flatMap fun e => Library.fullItems (e.evaluate ctx).chars
  let unique : Expr := .call "LISTUNIQUE" args
  let kept := Library.fullItems (unique.evaluate ctx).chars
  kept.Pairwise (fun i j => items.idxOf i < items.idxOf j)
    ∧ (∀ i, i ∈ kept ↔ i ∈ items)
    ∧ unique.evaluate ctx = .ofChars (Text.join [';'] kept)
    ∧ evaluate ctx (.call "LISTUNIQUE" [unique]) = unique.evaluate ctx
    ∧ (∀ e : Expr,
      (e.evaluate ctx).chars = Text.join [';'] (args.map fun d => (d.evaluate ctx).chars) →
        evaluate ctx (.call "LISTUNIQUE" [e]) = unique.evaluate ctx)
    ∧ ∀ a b : Expr,
      evaluate ctx (.call "LISTMERGE" [a, b]) = evaluate ctx (.call "LISTUNIQUE" [a, b])
  := by
  intro items unique kept
  let c : Call := ⟨args.map (·.evaluate ctx), ctx.draw⟩
  have hcall : ∀ es : List Expr, evaluate ctx (.call "LISTUNIQUE" es)
      = Library.listUnique ⟨es.map (·.evaluate ctx), ctx.draw⟩ := by
    intro es
    rw [evaluate_call hregistry "LISTUNIQUE" Library.listUnique rfl, evaluateAll_eq_map]
  have hunique : unique.evaluate ctx = Library.listUnique c := hcall args
  have hitems : c.allChars.flatMap Library.fullItems = items := by
    simp only [c, items, Call.allChars, List.map_map, List.flatMap_map, Function.comp_apply]
  have hkept : kept = Library.distinct items := by
    simp only [kept]
    rw [hunique, Library.fullItems_listUnique, hitems]
  refine ⟨?_, ?_, ?_, ?_, ?_, ?_⟩
  · rw [hkept]
    apply Library.pairwise_distinct
  · intro i
    rw [hkept, Library.mem_distinct_iff]
  · rw [hkept, hunique, Library.listUnique_eq, hitems]
    rfl
  · rw [hcall, List.map_singleton, hunique, Library.listUnique_listUnique]
  · intro e he
    rw [hcall, List.map_singleton, hunique]
    apply Library.listUnique_of_chars
    rw [he, Call.allChars, List.map_map]
    rfl
  · intro a b
    rw [hcall, evaluate_call hregistry "LISTMERGE" Library.listMerge rfl]
    apply Library.listMerge_eq

/-- Two texts with an empty item, with items in common and with an item made of a blank. -/
theorem evaluate_listUnique_two :
  let ctx : Context := ⟨.builtin, none, 0.0⟩
  let args : List Expr := [.literal (.text "b;;a"), .literal (.text "a;b; ")]
  let unique : Expr := .call "LISTUNIQUE" args
  (unique.evaluate ctx).chars = "b;a; ".toList
    ∧ evaluate ctx (.call "LISTUNIQUE" [unique]) = unique.evaluate ctx
    ∧ evaluate ctx (.call "LISTUNIQUE" [.literal (.text "b;;a;a;b; ")]) = unique.evaluate ctx
    ∧ evaluate ctx (.call "LISTMERGE" args) = unique.evaluate ctx
  := by
  intro ctx args unique
  have hregistry : ctx.registry = .builtin := rfl
  obtain ⟨-, -, -, htwice, hjoined, hmerge⟩ := evaluate_listUnique hregistry args
  refine ⟨?_, htwice, hjoined _ (by decide), hmerge _ _⟩
  rw [evaluate_call hregistry "LISTUNIQUE" Library.listUnique rfl]
  decide +kernel

/-- The items of a list that are not empty are dealt out to the difference from another list and to
what the two have in common, in their order and as often as they occur, by whether the other list
has them.  What neither of two lists has is what their union has not, and what is common to two
lists is what their difference has not.  The counts of the two lists add up to that of the first, as
floats too as long as these are exact. -/
theorem evaluate_listDiff (hregistry : ctx.registry = .builtin) (a b c : Expr) :
  let items (e : Expr) := Library.fullItems (e.evaluate ctx).chars
  let count (e : Expr) := Library.itemCount (e.evaluate ctx).chars
  let number (e : Expr) := (evaluate ctx (.call "LISTCOUNT" [e])).toNumber
  let diff : Expr := .call "LISTDIFF" [a, b]
  let common : Expr := .call "LISTINTERSECT" [a, b]
  items diff = (items a).filter (fun i => i ∉ items b)
    ∧ items common = (items a).filter (fun i => i ∈ items b)
    ∧ (∀ e ∈ [diff, common], e.evaluate ctx = .ofChars (Text.join [';'] (items e)))
    ∧ evaluate ctx (.call "LISTDIFF" [diff, c])
      = evaluate ctx (.call "LISTDIFF" [a, .call "LISTMERGE" [b, c]])
    ∧ common.evaluate ctx = evaluate ctx (.call "LISTDIFF" [a, diff])
    ∧ (∀ e : Expr, evaluate ctx (.call "LISTCOUNT" [e]) = .ofNat (count e))
    ∧ count diff + count common = count a
    ∧ (count a ≤ 2 ^ 53 → (number diff + number common == number a) = true)
  := by
  intro items count number diff common
  have hdiff : ∀ d e : Expr, evaluate ctx (.call "LISTDIFF" [d, e])
      = Library.listDiff ⟨[d.evaluate ctx, e.evaluate ctx], ctx.draw⟩ :=
    fun d e => evaluate_call hregistry "LISTDIFF" Library.listDiff rfl [d, e]
  have hcommon : common.evaluate ctx
      = Library.listIntersect ⟨[a.evaluate ctx, b.evaluate ctx], ctx.draw⟩ :=
    evaluate_call hregistry "LISTINTERSECT" Library.listIntersect rfl [a, b]
  have hmerge : evaluate ctx (.call "LISTMERGE" [b, c])
      = Library.listMerge ⟨[b.evaluate ctx, c.evaluate ctx], ctx.draw⟩ :=
    evaluate_call hregistry "LISTMERGE" Library.listMerge rfl [b, c]
  have hcount : ∀ e : Expr, evaluate ctx (.call "LISTCOUNT" [e]) = .ofNat (count e) := by
    intro e
    rw [evaluate_call hregistry "LISTCOUNT" Library.listCount rfl [e]]
    apply Library.listCount_eq
  have hitems : items diff = (items a).filter fun i => i ∉ items b := by
    simp only [items, diff, hdiff, Library.fullItems_listDiff]
  have hitems' : items common = (items a).filter fun i => i ∈ items b := by
    simp only [items, hcommon, Library.fullItems_listIntersect]
  have hsum : count diff + count common = count a := by
    simp only [count, diff, hdiff, hcommon, Library.itemCount_listDiff_add]
  refine ⟨hitems, hitems', ?_, ?_, ?_, hcount, hsum, ?_⟩
  · rw [List.forall_mem_cons, List.forall_mem_singleton, hitems, hitems', hdiff, hcommon]
    use Library.listDiff_eq _ _ _, Library.listIntersect_eq _ _ _
  · rw [hdiff, hdiff, hdiff, hmerge, Library.listDiff_listDiff]
  · rw [hcommon, hdiff, hdiff, Library.listIntersect_eq_listDiff]
  · intro hle
    simp only [number, hcount]
    rw [← hsum]
    apply Decimal.ofNat_add_ofNat
    rwa [hsum]

/-- A list with an empty item, with a repeated one and with one made of a blank. -/
theorem evaluate_listDiff_repeated :
  let ctx : Context := ⟨.builtin, none, 0.0⟩
  let a : Expr := .literal (.text "x;y;;x; ")
  let b : Expr := .literal (.text "y;z")
  let c : Expr := .literal (.text "x")
  let number (e : Expr) := (evaluate ctx (.call "LISTCOUNT" [e])).toNumber
  let diff : Expr := .call "LISTDIFF" [a, b]
  let common : Expr := .call "LISTINTERSECT" [a, b]
  (diff.evaluate ctx).chars = "x;x; ".toList ∧ (common.evaluate ctx).chars = "y".toList
    ∧ evaluate ctx (.call "LISTDIFF" [diff, c])
      = evaluate ctx (.call "LISTDIFF" [a, .call "LISTMERGE" [b, c]])
    ∧ common.evaluate ctx = evaluate ctx (.call "LISTDIFF" [a, diff])
    ∧ (number diff + number common == number a) = true
  := by
  intro ctx a b c number diff common
  have hregistry : ctx.registry = .builtin := rfl
  obtain ⟨-, -, -, hunion, hcommon, -, -, hnumber⟩ := evaluate_listDiff hregistry a b c
  refine ⟨?_, ?_, hunion, hcommon, hnumber ?_⟩
  · rw [evaluate_call hregistry "LISTDIFF" Library.listDiff rfl]
    decide +kernel
  · rw [evaluate_call hregistry "LISTINTERSECT" Library.listIntersect rfl]
    decide +kernel
  · decide +kernel

end Expr

end FieldFormula
