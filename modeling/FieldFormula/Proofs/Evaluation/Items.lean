import FieldFormula.Library.List
import FieldFormula.Proofs.Text.Search
import Mathlib.Data.List.Induction
import Mathlib.Data.List.Nodup
import Mathlib.Tactic.Use

/-!
# Items of lists

A list is made of items that do not hold a semicolon, and the functions that take lists as sets
leave out the empty ones.  Texts that are put together to a list bring in all of their items, so
items that are put together to a list are found again in it.

* `Library.fullItems_listOf`: the items of texts that are put together.
* `Library.fullItems_listOf_items`: items are found again in the list that is made of them.
* `Library.pairwise_distinct`: items are in the order of their first places when each is kept once.
-/

namespace FieldFormula.Library

variable {is : List (List Char)} {i l : List Char}

/-! ### Items of texts put together -/

theorem itemsOf_ne_nil (l : List Char) : itemsOf l ≠ [] :=
  Text.splitOn_ne_nil [';'] l

theorem semicolon_notMem_of_mem_itemsOf (hi : i ∈ itemsOf l) :
  ';' ∉ i
  := by
  rw [← List.singleton_infix_iff]
  apply Text.not_infix_of_mem_splitOn (List.cons_ne_nil ';' []) hi

/-- A text without semicolons is one item. -/
theorem itemsOf_of_notMem (hi : ';' ∉ i) : itemsOf i = [i] :=
  Text.splitOn_of_notMem hi

theorem itemsOf_append_cons (l k : List Char) :
  itemsOf (l ++ ';' :: k) = itemsOf l ++ itemsOf k
  := Text.splitOn_append_cons l k

/-- Items without semicolons are found again in the list that is made of them. -/
theorem itemsOf_listOf (hne : is ≠ []) (his : ∀ i ∈ is, ';' ∉ i) :
  itemsOf (listOf is) = is
  := Text.splitOn_join hne his

theorem of_mem_fullItems (hi : i ∈ fullItems l) :
  i ≠ [] ∧ ';' ∉ i
  := by
  obtain ⟨hmem, hne⟩ := List.mem_filter.mp hi
  use by simpa using hne
  apply semicolon_notMem_of_mem_itemsOf hmem

theorem fullItems_nil : fullItems [] = [] := by
  rw [fullItems, itemsOf_of_notMem List.not_mem_nil]
  rfl

/-- Texts that are put together bring in all of their items. -/
theorem fullItems_listOf (texts : List (List Char)) :
  fullItems (listOf texts) = texts.flatMap fullItems
  := by
  induction texts with
  | nil => exact fullItems_nil
  | cons t texts ih =>
    cases texts with
    | nil => simp [listOf, Text.join]
    | cons u texts =>
      have hjoin : listOf (t :: u :: texts) = t ++ ';' :: listOf (u :: texts) := by
        rw [listOf, Text.join_cons [';'] (List.cons_ne_nil u texts), List.append_assoc]
        rfl
      rw [hjoin, fullItems, itemsOf_append_cons, List.filter_append, List.flatMap_cons, ← ih]
      rfl

/-- Items that are not empty are found again in the list that is made of them. -/
theorem fullItems_listOf_items (his : ∀ i ∈ is, i ≠ [] ∧ ';' ∉ i) :
  fullItems (listOf is) = is
  := by
  rw [fullItems_listOf]
  induction is with
  | nil => rfl
  | cons i is ih =>
    obtain ⟨⟨hne, hi⟩, his⟩ := List.forall_mem_cons.mp his
    have hsingle : fullItems i = [i] := by
      rw [fullItems, itemsOf_of_notMem hi]
      simpa using hne
    rw [List.flatMap_cons, ih his, hsingle, List.singleton_append]

/-! ### Items once each -/

theorem mem_distinct_iff : i ∈ distinct is ↔ i ∈ is :=
  List.mem_eraseDups

/-- An item behind others is kept if it is not one of them. -/
theorem distinct_concat (is : List (List Char)) (i : List Char) :
  distinct (is ++ [i]) = if i ∈ is then distinct is else distinct is ++ [i]
  := by
  rw [distinct, List.eraseDups_append]
  split
  · next hi =>
    have hnone : [i].removeAll is = [] := by simp [List.removeAll, hi]
    rw [hnone, List.eraseDups_nil, List.append_nil, distinct]
  · next hi =>
    have hnew : [i].removeAll is = [i] := by simp [List.removeAll, hi]
    rw [hnew, distinct]
    rfl

/-- Items are in the order of their first places when each is kept once. -/
theorem pairwise_distinct (is : List (List Char)) :
  (distinct is).Pairwise fun i j => is.idxOf i < is.idxOf j
  := by
  induction is using List.reverseRecOn with
  | nil => exact List.Pairwise.nil
  | append_singleton is i ih =>
    -- the places in the list do not change when it grows at its end
    have hidx : ∀ j ∈ is, (is ++ [i]).idxOf j = is.idxOf j := by
      intro j hj
      rw [List.idxOf_append, if_pos hj]
    have hold : (distinct is).Pairwise fun j k => (is ++ [i]).idxOf j < (is ++ [i]).idxOf k := by
      apply ih.imp_of_mem
      intro j k hj hk hlt
      rwa [hidx j (mem_distinct_iff.mp hj), hidx k (mem_distinct_iff.mp hk)]
    rw [distinct_concat]
    split
    · exact hold
    · next hi =>
      rw [List.pairwise_append]
      use hold, List.pairwise_singleton _ _
      intro j hj k hk
      rw [List.mem_singleton.mp hk, hidx j (mem_distinct_iff.mp hj), List.idxOf_append, if_neg hi]
      have hlt := List.idxOf_lt_length_of_mem (mem_distinct_iff.mp hj)
      omega

theorem nodup_distinct (is : List (List Char)) :
  (distinct is).Nodup
  := by
  apply (pairwise_distinct is).imp
  rintro i _ hlt rfl
  exact lt_irrefl _ hlt

/-- Different items are all kept. -/
theorem distinct_eq_self (h : is.Nodup) :
  distinct is = is
  := by
  induction is using List.reverseRecOn with
  | nil => rfl
  | append_singleton is i ih =>
    obtain ⟨his, -, hdisjoint⟩ := List.nodup_append'.mp h
    rw [distinct_concat, if_neg (fun hi => hdisjoint hi (List.mem_singleton_self i)), ih his]

end FieldFormula.Library
