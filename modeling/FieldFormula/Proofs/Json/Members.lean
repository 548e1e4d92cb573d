import FieldFormula.Json
import Mathlib.Data.List.Nodup
import Mathlib.Tactic.Use

/-!
# Members of objects

The value of a key is replaced where the key stands, and a new key comes last.  So the order of the
keys is kept, the key has the new value, and all other keys have the values that they had.

* `keys_insert`: the keys and their order.
* `lookup_insert_self`, `lookup_insert_of_ne`: the values of the keys.
* `insert_insert`: the last of two values is kept.
* `ofPairs_eq_self`: pairs of different keys are members as they stand.
-/

namespace FieldFormula.Json

/-- The keys of members. -/
def keys (ms : List (String × Json)) : List String :=
  ms.map Prod.fst

theorem keys_cons (k : String) (v : Json) (ms : List (String × Json)) :
  keys ((k, v) :: ms) = k :: keys ms
  := rfl

variable {key : String} {value : Json}

/-! ### Replacing the value of a key -/

theorem insert_cons_self (v : Json) (ms : List (String × Json)) :
  insert key value ((key, v) :: ms) = (key, value) :: ms
  := if_pos rfl

theorem insert_cons_of_ne {k : String} (h : k ≠ key) (v : Json) (ms : List (String × Json)) :
  insert key value ((k, v) :: ms) = (k, v) :: insert key value ms
  := if_neg h

/-- The keys keep their order, and a new key comes last. -/
theorem keys_insert (key : String) (value : Json) (ms : List (String × Json)) :
  keys (insert key value ms) = if key ∈ keys ms then keys ms else keys ms ++ [key]
  := by
  induction ms with
  | nil => rfl
  | cons m ms ih =>
    obtain ⟨k, v⟩ := m
    by_cases hk : k = key
    · subst hk
      rw [insert_cons_self, keys_cons, keys_cons, if_pos List.mem_cons_self]
    · rw [insert_cons_of_ne hk, keys_cons, keys_cons, ih]
      by_cases hmem : key ∈ keys ms
      · rw [if_pos hmem, if_pos (List.mem_cons_of_mem k hmem)]
      · rw [if_neg hmem, if_neg (List.not_mem_cons_of_ne_of_not_mem (Ne.symm hk) hmem),
          List.cons_append]

theorem nodup_keys_insert {ms : List (String × Json)} (h : (keys ms).Nodup) :
  (keys (insert key value ms)).Nodup
  := by
  rw [keys_insert]
  split
  · apply h
  · next hkey =>
    rw [← List.concat_eq_append]
    apply List.Nodup.concat hkey h

theorem lookup_insert_self (key : String) (value : Json) (ms : List (String × Json)) :
  (insert key value ms).lookup key = some value
  := by
  induction ms with
  | nil => simp [insert]
  | cons m ms ih =>
    obtain ⟨k, v⟩ := m
    by_cases hk : k = key
    · subst hk
      rw [insert_cons_self, List.lookup_cons_self]
    · have hne : (key == k) = false := by simpa using Ne.symm hk
      rw [insert_cons_of_ne hk, List.lookup_cons, hne, ih]

theorem lookup_insert_of_ne {other : String} (h : other ≠ key) (value : Json)
    (ms : List (String × Json)) :
  (insert key value ms).lookup other = ms.lookup other
  := by
  have hkey : (other == key) = false := by simpa using h
  induction ms with
  | nil => rw [insert, List.lookup_cons, hkey, List.lookup_nil]
  | cons m ms ih =>
    obtain ⟨k, v⟩ := m
    by_cases hk : k = key
    · subst hk
      rw [insert_cons_self, List.lookup_cons, List.lookup_cons, hkey]
    · rw [insert_cons_of_ne hk, List.lookup_cons, List.lookup_cons, ih]

/-- The last of two values is kept. -/
theorem insert_insert (key : String) (v w : Json) (ms : List (String × Json)) :
  insert key w (insert key v ms) = insert key w ms
  := by
  induction ms with
  | nil => apply insert_cons_self
  | cons m ms ih =>
    obtain ⟨k, u⟩ := m
    by_cases hk : k = key
    · subst hk
      rw [insert_cons_self, insert_cons_self, insert_cons_self]
    · rw [insert_cons_of_ne hk, insert_cons_of_ne hk, insert_cons_of_ne hk, ih]

theorem mem_insert {m : String × Json} {ms : List (String × Json)} (h : m ∈ insert key value ms) :
  m = (key, value) ∨ m ∈ ms
  := by
  induction ms with
  | nil => exact Or.inl (List.mem_singleton.mp h)
  | cons n ms ih =>
    obtain ⟨k, v⟩ := n
    by_cases hk : k = key
    · subst hk
      rw [insert_cons_self] at h
      exact (List.mem_cons.mp h).imp_right (List.mem_cons_of_mem _)
    · rw [insert_cons_of_ne hk] at h
      obtain rfl | hm := List.mem_cons.mp h
      · exact Or.inr List.mem_cons_self
      · exact (ih hm).imp_right (List.mem_cons_of_mem _)

/-! ### Members of pairs -/

/-- A new key comes last. -/
theorem insert_of_notMem {ms : List (String × Json)} (h : key ∉ keys ms) (value : Json) :
  insert key value ms = ms ++ [(key, value)]
  := by
  induction ms with
  | nil => rfl
  | cons m ms ih =>
    obtain ⟨k, v⟩ := m
    rw [keys_cons, List.mem_cons, not_or] at h
    rw [insert_cons_of_ne (Ne.symm h.1), ih h.2, List.cons_append]

theorem ofPairs_eq_foldl (pairs : List (String × Json)) :
  ofPairs pairs = pairs.foldl (fun ms p => insert p.1 p.2 ms) []
  := rfl

theorem foldl_insert_eq_append {pairs ms : List (String × Json)} (h : (keys (ms ++ pairs)).Nodup) :
  pairs.foldl (fun ms p => insert p.1 p.2 ms) ms = ms ++ pairs
  := by
  induction pairs generalizing ms with
  | nil => rw [List.foldl_nil, List.append_nil]
  | cons p pairs ih =>
    have hnew : p.1 ∉ keys ms := by
      rw [keys, List.map_append, List.nodup_append'] at h
      intro hp
      apply h.2.2 hp
      apply List.mem_cons_self
    rw [List.append_cons] at h
    rw [List.foldl_cons, insert_of_notMem hnew, ih h, ← List.append_cons]

/-- Pairs of different keys are members as they stand. -/
theorem ofPairs_eq_self {ms : List (String × Json)} (h : (keys ms).Nodup) :
  ofPairs ms = ms
  := foldl_insert_eq_append h

/-- The keys of members are different. -/
theorem nodup_keys_ofPairs (pairs : List (String × Json)) :
  (keys (ofPairs pairs)).Nodup
  := by
  rw [ofPairs_eq_foldl]
  apply List.foldlRecOn (motive := fun ms => (keys ms).Nodup)
  · apply List.nodup_nil
  · intro ms hms p _
    apply nodup_keys_insert hms

/-- The members of pairs are among the pairs. -/
theorem mem_of_mem_ofPairs {m : String × Json} {pairs : List (String × Json)}
    (h : m ∈ ofPairs pairs) :
  m ∈ pairs
  := by
  revert h
  rw [ofPairs_eq_foldl]
  apply List.foldlRecOn (motive := fun ms => m ∈ ms → m ∈ pairs)
  · intro h
    contradiction
  · intro ms hms p hp h
    obtain rfl | hm := mem_insert h
    · apply hp
    · apply hms hm

end FieldFormula.Json
