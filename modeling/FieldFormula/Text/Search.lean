/-!
# Occurrences of a marker in a text

`cut?` and `cutLast?` split a text around the first and around the last occurrence of a
marker.  `splitOn` splits it around all occurrences that do not overlap, left to right,
`substitute` puts another text in their place, and `join` puts pieces back together around
a separator.  What `cut?` returns rebuilds the text, so `splitOn` gets shorter texts at each
step.
-/

namespace FieldFormula.Text

/-- The parts of a text before and after the first occurrence of the marker `m`. -/
def cut? (m : List Char) : List Char → Option (List Char × List Char)
  | [] => if m.isEmpty then some ([], []) else none
  | c :: s =>
    if m.isPrefixOf (c :: s) then
      some ([], (c :: s).drop m.length)
    else
      (cut? m s).map fun (before, after) => (c :: before, after)

/-- The parts of a text before and after the last occurrence of the marker `m`. -/
def cutLast? (m : List Char) : List Char → Option (List Char × List Char)
  | [] => if m.isEmpty then some ([], []) else none
  | c :: s =>
    match cutLast? m s with
    | some (before, after) => some (c :: before, after)
    | none =>
      if m.isPrefixOf (c :: s) then some ([], (c :: s).drop m.length) else none

/-- Whether the marker `m` occurs in the text. -/
def occurs (m s : List Char) : Bool :=
  (cut? m s).isSome

theorem isPrefixOf_iff {m s : List Char} :
  m.isPrefixOf s = true ↔ m ++ s.drop m.length = s
  := by
  rw [List.isPrefixOf_iff_prefix]
  constructor
  · rintro ⟨t, rfl⟩
    simp
  · intro h
    exact ⟨_, h⟩

theorem eq_append_of_cut? {m s before after : List Char}
    (h : cut? m s = some (before, after)) :
  s = before ++ m ++ after
  := by
  induction s generalizing before with
  | nil =>
    simp only [cut?] at h
    split at h
    · next hm =>
      simp only [Option.some.injEq, Prod.mk.injEq] at h
      simp_all
    · simp at h
  | cons c s ih =>
    simp only [cut?] at h
    split at h
    · next hm =>
      simp only [Option.some.injEq, Prod.mk.injEq] at h
      obtain ⟨rfl, rfl⟩ := h
      exact (isPrefixOf_iff.1 hm).symm
    · obtain ⟨⟨b, a⟩, hb, he⟩ := Option.map_eq_some_iff.1 h
      simp only [Prod.mk.injEq] at he
      obtain ⟨rfl, rfl⟩ := he
      simp [ih hb]

/-- The pieces of a text around the occurrences of the delimiter `d`, taken left to right
without overlap.  An empty delimiter leaves the text whole. -/
def splitOn (d s : List Char) : List (List Char) :=
  match _h : cut? d s with
  | none => [s]
  | some (before, after) =>
    if _hd : d = [] then [s] else before :: splitOn d after
termination_by s.length
decreasing_by
  have := congrArg List.length (eq_append_of_cut? _h)
  have := List.length_pos_iff.2 _hd
  simp only [List.length_append] at *
  omega

/-- The text with `r` in place of the occurrences of the marker `m`, taken left to right
without overlap.  An empty marker leaves the text as it is. -/
def substitute (m r s : List Char) : List Char :=
  match s with
  | [] => []
  | c :: s =>
    if m ≠ [] ∧ m.isPrefixOf (c :: s) then r ++ substitute m r (s.drop (m.length - 1))
    else c :: substitute m r s
termination_by s.length
decreasing_by
  · simp only [List.length_drop, List.length_cons]
    omega
  · simp

/-- The pieces put together with the separator `d` between neighbours. -/
def join (d : List Char) : List (List Char) → List Char
  | [] => []
  | [p] => p
  | p :: q :: ps => p ++ d ++ join d (q :: ps)

/-- Whether the text begins with the marker `m`. -/
def startsWith (m s : List Char) : Bool :=
  m.isPrefixOf s

/-- Whether the text ends with the marker `m`. -/
def endsWith (m s : List Char) : Bool :=
  m.isSuffixOf s

end FieldFormula.Text
