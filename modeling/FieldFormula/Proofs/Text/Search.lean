import FieldFormula.Proofs.Text.Pieces

/-!
# Splitting at a character

A text is split around a single character at each place where the character stands, so pieces that
do not hold the character are found again in the text that joins them with it.

* `splitOn_join`: joined pieces are found again.
* `cutLast?_append`: where the last of several places is.
-/

namespace FieldFormula.Text

variable {c : Char} {p : List Char}

/-! ### The first place -/

theorem cut?_append (hp : c ∉ p) (s : List Char) :
  cut? [c] (p ++ c :: s) = some (p, s)
  := by
  induction p with
  | nil => simp [cut?]
  | cons d p ih =>
    obtain ⟨hne, hp⟩ := not_or.mp (mt List.mem_cons.mpr hp)
    rw [List.cons_append, cut?, ih hp]
    simp [hne]

/-- A text without the delimiter is one piece. -/
theorem splitOn_of_notMem (hp : c ∉ p) :
  splitOn [c] p = [p]
  := by
  apply splitOn_of_eq_none
  rw [cut?_eq_none_iff, List.singleton_infix_iff]
  exact hp

theorem splitOn_append (hp : c ∉ p) (s : List Char) :
  splitOn [c] (p ++ c :: s) = p :: splitOn [c] s
  := splitOn_of_eq_some (List.cons_ne_nil c []) (cut?_append hp s)

/-- Pieces that do not hold the separator are found again in the text that joins them. -/
theorem splitOn_join {ps : List (List Char)} (hne : ps ≠ []) (hps : ∀ p ∈ ps, c ∉ p) :
  splitOn [c] (join [c] ps) = ps
  := by
  induction ps with
  | nil => contradiction
  | cons p ps ih =>
    obtain ⟨hp, hps⟩ := List.forall_mem_cons.mp hps
    cases ps with
    | nil => apply splitOn_of_notMem hp
    | cons q ps =>
      rw [join_cons [c] (List.cons_ne_nil q ps), List.append_assoc, List.singleton_append,
        splitOn_append hp, ih (List.cons_ne_nil q ps) hps]

/-- A text is split at one place of the character and then on either side of it. -/
theorem splitOn_append_cons (s t : List Char) :
  splitOn [c] (s ++ c :: t) = splitOn [c] s ++ splitOn [c] t
  := by
  induction s using splitOn.induct [c] with
  | case1 s hnone =>
    have hs : c ∉ s := by
      rw [← List.singleton_infix_iff, ← cut?_eq_none_iff]
      exact hnone
    rw [splitOn_of_eq_none hnone, splitOn_append hs, List.singleton_append]
  | case2 s before after hsome hnil => contradiction
  | case3 s before after hsome hne ih =>
    have hbefore : c ∉ before := by
      rw [← List.singleton_infix_iff]
      apply not_infix_of_cut? hne hsome
    rw [splitOn_of_eq_some hne hsome, eq_append_of_cut? hsome, List.append_assoc,
      List.append_assoc, List.singleton_append, splitOn_append hbefore, ih, List.cons_append]

/-- The pieces of a text hold no character that the text does not hold. -/
theorem notMem_of_mem_splitOn {c d : Char} {s : List Char} (hs : c ∉ s) :
  ∀ p ∈ splitOn [d] s, c ∉ p
  := by
  intro p hp hmem
  have hfound := infix_join [d] hp
  rw [join_splitOn (List.cons_ne_nil d [])] at hfound
  apply hs (hfound.subset hmem)

/-! ### The last place -/

/-- A character of a text has a last place in it. -/
theorem exists_last_of_mem {s : List Char} (hc : c ∈ s) :
  ∃ x r, s = x ++ c :: r ∧ c ∉ r
  := by
  obtain ⟨r, x, hs, hr⟩ := List.eq_append_cons_of_mem (List.mem_reverse.mpr hc)
  refine ⟨x.reverse, r.reverse, ?_, by simpa using hr⟩
  rw [← List.reverse_reverse s, hs]
  simp

theorem cutLast?_of_notMem (hp : c ∉ p) :
  cutLast? [c] p = none
  := by
  rw [cutLast?_eq_none_iff, List.singleton_infix_iff]
  exact hp

/-- A text is split around the last place of a character. -/
theorem cutLast?_append (s : List Char) (hp : c ∉ p) :
  cutLast? [c] (s ++ c :: p) = some (s, p)
  := by
  induction s with
  | nil =>
    rw [List.nil_append, cutLast?, cutLast?_of_notMem hp]
    simp
  | cons d s ih => rw [List.cons_append, cutLast?, ih]

end FieldFormula.Text
