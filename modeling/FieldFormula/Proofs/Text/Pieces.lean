import FieldFormula.Text.Search
import Mathlib.Data.List.Infix

/-!
# Pieces of a text

A text is split around the first occurrence of a marker, then the text behind it around the next
one, and so on.  So no piece holds the marker, and the pieces joined with the marker are the text.
Joined with another text they are the text in which that text takes the place of the marker.

* `cut?_eq_none_iff`, `length_le_of_cut?`: the first occurrence of a marker.
* `cutLast?_eq_none_iff`, `le_length_of_cutLast?`: the last occurrence of a marker.
* `not_infix_of_mem_splitOn`: no piece holds the marker.
* `join_splitOn_eq_substitute`: joining pieces is replacing.
* `join_splitOn`: joining pieces with the marker undoes splitting.
-/

namespace FieldFormula.Text

variable {m s before after : List Char}

/-! ### The first occurrence -/

/-- A text is not split only if the marker does not occur in it. -/
theorem cut?_eq_none_iff :
  cut? m s = none ↔ ¬ m <:+: s
  := by
  induction s with
  | nil => simp [cut?]
  | cons c s ih =>
    rw [cut?, List.infix_cons_iff, ← List.isPrefixOf_iff_prefix, not_or, ← ih]
    split
    · next hfront => simp [hfront]
    · next hfront => simp [hfront]

theorem exists_cut?_eq_some (h : m <:+: s) :
  ∃ before after, cut? m s = some (before, after)
  := by
  have hne : cut? m s ≠ none := mt cut?_eq_none_iff.mp (not_not_intro h)
  obtain ⟨⟨before, after⟩, hcut⟩ := Option.ne_none_iff_exists'.mp hne
  use before, after

/-- A text is split around the first occurrence of the marker. -/
theorem length_le_of_cut? (h : cut? m s = some (before, after)) {x y : List Char}
    (hs : s = x ++ m ++ y) :
  before.length ≤ x.length
  := by
  induction s generalizing before x with
  | nil =>
    rw [cut?] at h
    split at h
    · obtain ⟨rfl, -⟩ := Prod.mk.inj (Option.some.inj h)
      exact Nat.zero_le _
    · contradiction
  | cons c s ih =>
    rw [cut?] at h
    split at h
    · obtain ⟨rfl, -⟩ := Prod.mk.inj (Option.some.inj h)
      exact Nat.zero_le _
    · next hfront =>
      obtain ⟨⟨front, rest⟩, hcut, heq⟩ := Option.map_eq_some_iff.mp h
      obtain ⟨rfl, rfl⟩ := Prod.mk.inj heq
      cases x with
      | nil =>
        rw [List.isPrefixOf_iff_prefix] at hfront
        exact absurd ⟨y, hs.symm⟩ hfront
      | cons d x =>
        obtain ⟨-, hs⟩ := List.cons.inj hs
        have hle := ih hcut hs
        simpa using hle

/-- Before its first occurrence a marker does not occur. -/
theorem not_infix_of_cut? (hm : m ≠ []) (h : cut? m s = some (before, after)) :
  ¬ m <:+: before
  := by
  rintro ⟨x, y, hbefore⟩
  have hs : s = x ++ m ++ (y ++ m ++ after) := by
    rw [eq_append_of_cut? h, ← hbefore]
    simp only [List.append_assoc]
  have hle := length_le_of_cut? h hs
  have hpos := List.length_pos_iff.mpr hm
  rw [← hbefore] at hle
  simp only [List.length_append] at hle
  omega

/-! ### The last occurrence -/

/-- A text is not split around a last occurrence only if the marker does not occur in it. -/
theorem cutLast?_eq_none_iff :
  cutLast? m s = none ↔ ¬ m <:+: s
  := by
  induction s with
  | nil => simp [cutLast?]
  | cons c s ih =>
    rw [cutLast?, List.infix_cons_iff, ← List.isPrefixOf_iff_prefix, not_or, ← ih]
    cases cutLast? m s with
    | none => simp
    | some parts => simp

theorem exists_cutLast?_eq_some (h : m <:+: s) :
  ∃ before after, cutLast? m s = some (before, after)
  := by
  have hne : cutLast? m s ≠ none := mt cutLast?_eq_none_iff.mp (not_not_intro h)
  obtain ⟨⟨before, after⟩, hcut⟩ := Option.ne_none_iff_exists'.mp hne
  use before, after

theorem eq_append_of_cutLast? (h : cutLast? m s = some (before, after)) :
  s = before ++ m ++ after
  := by
  induction s generalizing before with
  | nil =>
    rw [cutLast?] at h
    split at h
    · next hm =>
      obtain ⟨rfl, rfl⟩ := Prod.mk.inj (Option.some.inj h)
      simpa using hm
    · contradiction
  | cons c s ih =>
    rw [cutLast?] at h
    split at h
    · next front rest hcut =>
      obtain ⟨rfl, rfl⟩ := Prod.mk.inj (Option.some.inj h)
      rw [ih hcut, List.cons_append, List.cons_append]
    · split at h
      · next hfront =>
        obtain ⟨rfl, rfl⟩ := Prod.mk.inj (Option.some.inj h)
        exact (isPrefixOf_iff.mp hfront).symm
      · contradiction

/-- A text is split around the last occurrence of the marker. -/
theorem le_length_of_cutLast? (h : cutLast? m s = some (before, after)) {x y : List Char}
    (hs : s = x ++ m ++ y) :
  x.length ≤ before.length
  := by
  induction s generalizing before x with
  | nil =>
    obtain ⟨rfl, -⟩ : x = [] ∧ m = [] ∧ y = [] := by simpa using hs.symm
    exact Nat.zero_le _
  | cons c s ih =>
    cases x with
    | nil => exact Nat.zero_le _
    | cons d x =>
      obtain ⟨-, hs⟩ := List.cons.inj hs
      rw [cutLast?] at h
      split at h
      · next front rest hcut =>
        obtain ⟨rfl, rfl⟩ := Prod.mk.inj (Option.some.inj h)
        have hle := ih hcut hs
        simpa using hle
      · next hnone =>
        -- the marker occurs behind the first character, so it is found there
        rw [cutLast?_eq_none_iff] at hnone
        exact absurd ⟨x, y, hs.symm⟩ hnone

/-! ### Splitting -/

theorem splitOn_of_eq_none (h : cut? m s = none) :
  splitOn m s = [s]
  := by
  rw [splitOn.eq_def]
  split
  · rfl
  · next hcut => simp [h] at hcut

theorem splitOn_of_eq_some (hm : m ≠ []) (h : cut? m s = some (before, after)) :
  splitOn m s = before :: splitOn m after
  := by
  rw [splitOn.eq_def]
  split
  · next hcut => simp [h] at hcut
  · next hcut =>
    obtain ⟨rfl, rfl⟩ := Prod.mk.inj (Option.some.inj (h.symm.trans hcut))
    rw [dif_neg hm]

theorem splitOn_ne_nil (m s : List Char) :
  splitOn m s ≠ []
  := by
  rw [splitOn.eq_def]
  split
  · apply List.cons_ne_nil
  · split <;> apply List.cons_ne_nil

/-- No piece holds the marker. -/
theorem not_infix_of_mem_splitOn (hm : m ≠ []) {p : List Char} (hp : p ∈ splitOn m s) :
  ¬ m <:+: p
  := by
  induction s using splitOn.induct m with
  | case1 s hnone =>
    rw [splitOn_of_eq_none hnone, List.mem_singleton] at hp
    rw [hp, ← cut?_eq_none_iff]
    exact hnone
  | case2 s before after hsome hnil => contradiction
  | case3 s before after hsome _ ih =>
    rw [splitOn_of_eq_some hm hsome] at hp
    obtain rfl | hp := List.mem_cons.mp hp
    · apply not_infix_of_cut? hm hsome
    · apply ih hp

/-! ### Replacing -/

section

variable (r : List Char)

theorem substitute_of_eq_none (h : cut? m s = none) :
  substitute m r s = s
  := by
  induction s with
  | nil => rw [substitute]
  | cons c s ih =>
    rw [cut?] at h
    split at h
    · contradiction
    · next hfront =>
      rw [substitute, if_neg (fun hc => hfront hc.2), ih (Option.map_eq_none_iff.mp h)]

theorem substitute_of_eq_some (hm : m ≠ []) (h : cut? m s = some (before, after)) :
  substitute m r s = before ++ r ++ substitute m r after
  := by
  induction s generalizing before with
  | nil => simp [cut?, hm] at h
  | cons c s ih =>
    rw [cut?] at h
    split at h
    · next hfront =>
      obtain ⟨rfl, rfl⟩ := Prod.mk.inj (Option.some.inj h)
      have hdrop : (c :: s).drop m.length = s.drop (m.length - 1) :=
        List.drop_cons (List.length_pos_iff.mpr hm)
      rw [substitute, if_pos ⟨hm, hfront⟩, hdrop, List.nil_append]
    · next hfront =>
      obtain ⟨⟨front, rest⟩, hcut, heq⟩ := Option.map_eq_some_iff.mp h
      obtain ⟨rfl, rfl⟩ := Prod.mk.inj heq
      rw [substitute, if_neg (fun hc => hfront hc.2), ih hcut, List.cons_append, List.cons_append]

/-- A marker that takes its own place leaves the text as it is. -/
theorem substitute_self (m s : List Char) :
  substitute m m s = s
  := by
  induction s using substitute.induct m with
  | case1 => rw [substitute]
  | case2 c s hfront ih =>
    have hs := isPrefixOf_iff.mp hfront.2
    rw [List.drop_cons (List.length_pos_iff.mpr hfront.1)] at hs
    rw [substitute, if_pos hfront, ih, hs]
  | case3 c s hfront ih => rw [substitute, if_neg hfront, ih]

/-- A character that takes the place of another one. -/
theorem substitute_singleton (c d : Char) (s : List Char) :
  substitute [c] [d] s = s.map fun a => if a = c then d else a
  := by
  induction s with
  | nil => rw [substitute, List.map_nil]
  | cons a s ih =>
    rw [substitute, List.map_cons]
    by_cases h : a = c
    · simp [h, ih]
    · simp [h, Ne.symm h, ih]

theorem join_cons {ps : List (List Char)} (hps : ps ≠ []) (p : List Char) :
  join r (p :: ps) = p ++ r ++ join r ps
  := by
  cases ps with
  | nil => contradiction
  | cons q ps => rfl

/-- A piece that is not the last is found in the joined text with the separator behind it. -/
theorem append_infix_join {ps : List (List Char)} {p : List Char} (hp : p ∈ ps.dropLast) :
  p ++ r <:+: join r ps
  := by
  induction ps with
  | nil => cases hp
  | cons q ps ih =>
    cases ps with
    | nil => cases hp
    | cons q' ps =>
      rw [join_cons r (List.cons_ne_nil q' ps)]
      rw [List.dropLast_cons_cons] at hp
      obtain rfl | hp := List.mem_cons.mp hp
      · apply (List.prefix_append _ _).isInfix
      · apply (ih hp).trans (List.suffix_append _ _).isInfix

theorem infix_join {ps : List (List Char)} {p : List Char} (hp : p ∈ ps) :
  p <:+: join r ps
  := by
  induction ps with
  | nil => cases hp
  | cons q ps ih =>
    cases ps with
    | nil =>
      rw [List.mem_singleton.mp hp]
      apply List.infix_rfl
    | cons q' ps =>
      rw [join_cons r (List.cons_ne_nil q' ps), List.append_assoc]
      obtain rfl | hp := List.mem_cons.mp hp
      · apply (List.prefix_append _ _).isInfix
      · apply (ih hp).trans
        rw [← List.append_assoc]
        apply (List.suffix_append _ _).isInfix

/-- The pieces joined with another text are the text in which it takes the place of the marker. -/
theorem join_splitOn_eq_substitute (hm : m ≠ []) (s : List Char) :
  join r (splitOn m s) = substitute m r s
  := by
  induction s using splitOn.induct m with
  | case1 s hnone =>
    rw [splitOn_of_eq_none hnone, substitute_of_eq_none r hnone]
    rfl
  | case2 s before after hsome hnil => contradiction
  | case3 s before after hsome _ ih =>
    rw [splitOn_of_eq_some hm hsome, join_cons r (splitOn_ne_nil m after), ih,
      substitute_of_eq_some r hm hsome]

/-- The pieces joined with the marker are the text. -/
theorem join_splitOn (hm : m ≠ []) (s : List Char) :
  join m (splitOn m s) = s
  := by
  rw [join_splitOn_eq_substitute m hm, substitute_self]

end

/-- The characters of a text joined with nothing between them are the text. -/
theorem join_nil_map_singleton (s : List Char) :
  join [] (s.map ([·])) = s
  := by
  induction s with
  | nil => rfl
  | cons c s ih =>
    cases s with
    | nil => rfl
    | cons d s =>
      rw [List.map_cons, join_cons [] (by simp), ih]
      rfl

end FieldFormula.Text
