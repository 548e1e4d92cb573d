import FieldFormula.Proofs.Registry.Lookup
import FieldFormula.Proofs.Text.Pieces

/-!
# Texts around markers

A text is cut around the first or the last occurrence of a marker.  The two parts and the marker
make up the text again, and no occurrence starts before the first cut or after the last one.  The
text between two markers is cut out by two first occurrences, one in what the other leaves.

* `Library.beforeFirst_append_afterFirst`, `Library.beforeLast_append_afterLast`: the parts.
* `Library.length_beforeFirst_le`, `Library.le_length_beforeLast`: where the cuts are.
* `Library.between_eq`: the text between two markers.
* `Expr.evaluate_markers`: the same for the functions in a formula.
-/

namespace FieldFormula

namespace Library

variable {m s x y : List Char}

/-! ### The first occurrence -/

theorem beforeFirst_append_afterFirst (h : m <:+: s) :
  beforeFirst m s ++ m ++ afterFirst m s = s
  := by
  obtain ⟨before, after, hcut⟩ := Text.exists_cut?_eq_some h
  rw [beforeFirst, afterFirst, hcut]
  exact (Text.eq_append_of_cut? hcut).symm

/-- No occurrence of the marker starts before the first cut. -/
theorem length_beforeFirst_le (hs : s = x ++ m ++ y) :
  (beforeFirst m s).length ≤ x.length
  := by
  obtain ⟨before, after, hcut⟩ := Text.exists_cut?_eq_some ⟨x, y, hs.symm⟩
  rw [beforeFirst, hcut]
  apply Text.length_le_of_cut? hcut hs

theorem beforeFirst_of_not_infix (h : ¬ m <:+: s) :
  beforeFirst m s = s
  := by
  rw [beforeFirst, Text.cut?_eq_none_iff.mpr h]

theorem afterFirst_of_not_infix (h : ¬ m <:+: s) :
  afterFirst m s = []
  := by
  rw [afterFirst, Text.cut?_eq_none_iff.mpr h]

/-! ### The last occurrence -/

theorem beforeLast_append_afterLast (h : m <:+: s) :
  beforeLast m s ++ m ++ afterLast m s = s
  := by
  obtain ⟨before, after, hcut⟩ := Text.exists_cutLast?_eq_some h
  rw [beforeLast, afterLast, hcut]
  exact (Text.eq_append_of_cutLast? hcut).symm

/-- No occurrence of the marker starts after the last cut. -/
theorem le_length_beforeLast (hs : s = x ++ m ++ y) :
  x.length ≤ (beforeLast m s).length
  := by
  obtain ⟨before, after, hcut⟩ := Text.exists_cutLast?_eq_some ⟨x, y, hs.symm⟩
  rw [beforeLast, hcut]
  apply Text.le_length_of_cutLast? hcut hs

theorem beforeLast_of_not_infix (h : ¬ m <:+: s) :
  beforeLast m s = s
  := by
  rw [beforeLast, Text.cutLast?_eq_none_iff.mpr h]

theorem afterLast_of_not_infix (h : ¬ m <:+: s) :
  afterLast m s = []
  := by
  rw [afterLast, Text.cutLast?_eq_none_iff.mpr h]

/-! ### Two markers -/

/-- The words that stand for other markers, in any case of their letters. -/
def IsKeyword (marker : List Char) : Prop :=
  marker.map Char.toLower ∈ ["crlf".toList, "tab".toList]

instance : DecidablePred IsKeyword :=
  fun marker => inferInstanceAs (Decidable (marker.map Char.toLower ∈ _))

theorem markerFor_eq_self (h : ¬ IsKeyword m) (s : List Char) :
  markerFor m s = m
  := by
  obtain ⟨hbreak, htab⟩ : isWord "crlf" m ≠ true ∧ isWord "tab" m ≠ true := by
    simpa [IsKeyword, isWord] using h
  rw [markerFor, if_neg hbreak, if_neg htab]

/-- Nothing is cut out of nothing. -/
theorem beforeFirst_nil (m : List Char) :
  beforeFirst m [] = []
  := by
  rw [beforeFirst, Text.cut?]
  split
  · next hcut =>
    split at hcut
    · exact (Prod.mk.inj (Option.some.inj hcut)).1.symm
    · contradiction
  · rfl

/-- The text between two markers is in front of the one in what is behind the other. -/
theorem between_eq {start stop : List Char} (hstart : ¬ IsKeyword start) (hstop : ¬ IsKeyword stop)
    (s : List Char) :
  between start stop s = beforeFirst stop (afterFirst start s)
  := by
  rw [between, markerFor_eq_self hstart, markerFor_eq_self hstop, afterFirst]
  cases Text.cut? start s with
  | none => exact (beforeFirst_nil stop).symm
  | some parts => rfl

end Library

/-! ### Formulas -/

namespace Expr

/-- The parts of a text left and right of a marker make up the text with the marker between them,
for the first occurrence and for the last, and all other occurrences start between the two.  Without
an occurrence the left part is all of the text.  The text between two markers is left of the one in
the part right of the other, as long as neither marker is a keyword. -/
theorem evaluate_markers {ctx : Context} (hregistry : ctx.registry = .builtin) (m s : Expr) :
  let marker := (m.evaluate ctx).chars
  let text := (s.evaluate ctx).chars
  let part (name : String) := (evaluate ctx (.call name [m, s])).chars
  (marker <:+: text →
      part "LEFTOF" ++ marker ++ part "RIGHTOF" = text
      ∧ part "LEFTOFLAST" ++ marker ++ part "RIGHTOFLAST" = text
      ∧ ∀ x y, text = x ++ marker ++ y →
        (part "LEFTOF").length ≤ x.length ∧ x.length ≤ (part "LEFTOFLAST").length)
    ∧ (¬ marker <:+: text →
      part "LEFTOF" = text ∧ part "RIGHTOF" = []
      ∧ part "LEFTOFLAST" = text ∧ part "RIGHTOFLAST" = [])
    ∧ ∀ l r : Expr,
      ¬ Library.IsKeyword (l.evaluate ctx).chars → ¬ Library.IsKeyword (r.evaluate ctx).chars →
        evaluate ctx (.call "PARSE" [l, r, s])
          = evaluate ctx (.call "LEFTOF" [r, .call "RIGHTOF" [l, s]])
  := by
  intro marker text part
  have hleftOf : ∀ d t : Expr, evaluate ctx (.call "LEFTOF" [d, t])
      = .ofChars (Library.beforeFirst (d.evaluate ctx).chars (t.evaluate ctx).chars) :=
    fun d t => evaluate_call hregistry "LEFTOF" Library.leftOf rfl [d, t]
  have hrightOf : ∀ d t : Expr, evaluate ctx (.call "RIGHTOF" [d, t])
      = .ofChars (Library.afterFirst (d.evaluate ctx).chars (t.evaluate ctx).chars) :=
    fun d t => evaluate_call hregistry "RIGHTOF" Library.rightOf rfl [d, t]
  have hleftOfLast : evaluate ctx (.call "LEFTOFLAST" [m, s])
      = .ofChars (Library.beforeLast marker text) :=
    evaluate_call hregistry "LEFTOFLAST" Library.leftOfLast rfl [m, s]
  have hrightOfLast : evaluate ctx (.call "RIGHTOFLAST" [m, s])
      = .ofChars (Library.afterLast marker text) :=
    evaluate_call hregistry "RIGHTOFLAST" Library.rightOfLast rfl [m, s]
  simp only [part, hleftOf, hrightOf, hleftOfLast, hrightOfLast, Value.chars_ofChars]
  refine ⟨?_, ?_, ?_⟩
  · intro hoccurs
    use Library.beforeFirst_append_afterFirst hoccurs,
      Library.beforeLast_append_afterLast hoccurs
    intro x y hs
    use Library.length_beforeFirst_le hs, Library.le_length_beforeLast hs
  · intro habsent
    use Library.beforeFirst_of_not_infix habsent, Library.afterFirst_of_not_infix habsent,
      Library.beforeLast_of_not_infix habsent, Library.afterLast_of_not_infix habsent
  · intro l r hl hr
    have hparse : evaluate ctx (.call "PARSE" [l, r, s])
        = .ofChars (Library.between (l.evaluate ctx).chars (r.evaluate ctx).chars text) :=
      evaluate_call hregistry "PARSE" Library.parse rfl [l, r, s]
    rw [hparse, Library.between_eq hl hr]

/-- The marker occurs twice in a run of three characters, so the cuts are at two places.  In another
text it does not occur. -/
theorem evaluate_markers_overlapping :
  let ctx : Context := ⟨.builtin, none, 0.0⟩
  let part (name text : String) :=
    (evaluate ctx (.call name [.literal (.text "aa"), .literal (.text text)])).chars
  part "LEFTOF" "baaac" ++ "aa".toList ++ part "RIGHTOF" "baaac" = "baaac".toList
    ∧ part "LEFTOFLAST" "baaac" ++ "aa".toList ++ part "RIGHTOFLAST" "baaac" = "baaac".toList
    ∧ (part "LEFTOF" "baaac").length ≤ 1 ∧ 2 ≤ (part "LEFTOFLAST" "baaac").length
    ∧ part "LEFTOF" "bac" = "bac".toList ∧ part "RIGHTOFLAST" "bac" = []
    ∧ evaluate ctx (.call "PARSE"
        [.literal (.text "b"), .literal (.text "c"), .literal (.text "baaac")])
      = evaluate ctx (.call "LEFTOF" [.literal (.text "c"),
        .call "RIGHTOF" [.literal (.text "b"), .literal (.text "baaac")]])
  := by
  intro ctx part
  have hregistry : ctx.registry = .builtin := rfl
  let m : Expr := .literal (.text "aa")
  obtain ⟨hoccurs, -, hparse⟩ := evaluate_markers hregistry m (.literal (.text "baaac"))
  obtain ⟨-, habsent, -⟩ := evaluate_markers hregistry m (.literal (.text "bac"))
  obtain ⟨hfirst, hlast, hcuts⟩ := hoccurs (by decide)
  obtain ⟨hleft, -, -, hright⟩ := habsent (by decide)
  have hbefore := hcuts ['b'] ['a', 'c'] (by decide)
  have hafter := hcuts ['b', 'a'] ['c'] (by decide)
  refine ⟨hfirst, hlast, hbefore.1, hafter.2, hleft, hright, ?_⟩
  apply hparse
  · decide
  · decide

end Expr

end FieldFormula
