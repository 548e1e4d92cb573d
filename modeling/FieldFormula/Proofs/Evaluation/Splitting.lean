import FieldFormula.Proofs.Decimal.Comparison
import FieldFormula.Proofs.Decimal.Reading
import FieldFormula.Proofs.Registry.Lookup
import FieldFormula.Proofs.Text.Pieces

/-!
# Splitting and replacing

The function that replaces a text scans for it, and the function that splits a text cuts out its
pieces.  They agree: what is replaced is what stands between the pieces.  An empty delimiter stands
between any two characters, so then the pieces are the characters.

* `Library.join_pieces`, `Library.not_infix_of_mem_pieces`: the pieces of a text.
* `Library.replaceAll_eq_join`: replacing is joining the pieces with the replacement.
* `Expr.evaluate_split_replace`: the same for the functions in a formula.
-/

namespace FieldFormula

open Decimal (Denotes)

namespace Library

variable (d r s : List Char)

/-! ### Pieces -/

theorem pieces_nil :
  pieces [] s = s.map ([·])
  := rfl

theorem pieces_of_ne_nil {d : List Char} (hd : d ≠ []) :
  pieces d s = Text.splitOn d s
  := if_neg (by simp [hd])

/-- The pieces joined with the delimiter are the text. -/
theorem join_pieces :
  Text.join d (pieces d s) = s
  := by
  by_cases hd : d = []
  · rw [hd, pieces_nil, Text.join_nil_map_singleton]
  · rw [pieces_of_ne_nil s hd, Text.join_splitOn hd]

/-- No piece holds the delimiter. -/
theorem not_infix_of_mem_pieces {d s : List Char} (hd : d ≠ []) :
  ∀ p ∈ pieces d s, ¬ d <:+: p
  := by
  intro p hp
  rw [pieces_of_ne_nil s hd] at hp
  apply Text.not_infix_of_mem_splitOn hd hp

/-- Replacing is joining the pieces with the replacement. -/
theorem replaceAll_eq_join :
  replaceAll d r s = Text.join r (pieces d s)
  := by
  by_cases hd : d = []
  · rw [hd, pieces_nil]
    rfl
  · rw [pieces_of_ne_nil s hd, Text.join_splitOn_eq_substitute r hd, replaceAll,
      if_neg (by simp [hd])]

/-- Position zero stands for the whole list. -/
theorem pick_zero {x : Float} (hx : Denotes x 0) (items : List (List Char)) :
  pick items x = listOf items
  := by
  have hzero : (x == 0.0) = true := (Decimal.beq_iff hx Decimal.denotes_zero).mpr rfl
  rw [pick, hzero, if_pos rfl]

/-! ### Calls -/

theorem replace_eq (d r t : Value) (draw : Float) :
  replace ⟨[d, r, t], draw⟩ = .ofChars (Text.join r.chars (pieces d.chars t.chars))
  := congrArg Value.ofChars (replaceAll_eq_join d.chars r.chars t.chars)

theorem split_zero {i : Value} (hi : Denotes i.toNumber 0) (d t : Value) (draw : Float) :
  split ⟨[d, i, t], draw⟩ = .ofChars (Text.join [';'] (pieces d.chars t.chars))
  := congrArg Value.ofChars (pick_zero hi (pieces d.chars t.chars))

end Library

/-! ### Formulas -/

namespace Expr

/-- The pieces of a text around a delimiter joined with it are the text, and none of them holds it
unless it is empty, when they are the characters.  A text in which the delimiter is replaced is made
of the pieces joined with the replacement.  So the whole list of pieces is the text in which
semicolons replace the delimiter. -/
theorem evaluate_split_replace {ctx : Context} (hregistry : ctx.registry = .builtin)
    (d r t : Expr) :
  let delimiter := (d.evaluate ctx).chars
  let text := (t.evaluate ctx).chars
  let pieces := Library.pieces delimiter text
  Text.join delimiter pieces = text
    ∧ (delimiter ≠ [] → ∀ p ∈ pieces, ¬ delimiter <:+: p)
    ∧ (delimiter = [] → pieces = text.map ([·]))
    ∧ (evaluate ctx (.call "REPLACE" [d, r, t])).chars = Text.join (r.evaluate ctx).chars pieces
    ∧ ∀ i : Expr, Denotes (i.evaluate ctx).toNumber 0 →
      evaluate ctx (.call "SPLIT" [d, i, t])
        = evaluate ctx (.call "REPLACE" [d, .literal (.text ";"), t])
  := by
  intro delimiter text pieces
  have hreplace : ∀ e : Expr, evaluate ctx (.call "REPLACE" [d, e, t])
      = .ofChars (Text.join (e.evaluate ctx).chars pieces) := by
    intro e
    rw [evaluate_call hregistry "REPLACE" Library.replace rfl]
    apply Library.replace_eq
  refine ⟨Library.join_pieces _ _, Library.not_infix_of_mem_pieces, ?_, ?_, ?_⟩
  · intro hnil
    rw [← Library.pieces_nil, ← hnil]
  · rw [hreplace, Value.chars_ofChars]
  · intro i hi
    rw [evaluate_call hregistry "SPLIT" Library.split rfl, hreplace, evaluate]
    apply Library.split_zero hi

/-- The delimiter occurs twice in a run of three characters, and only the first of the two counts. -/
theorem evaluate_split_replace_overlapping :
  let ctx : Context := ⟨.builtin, none, 0.0⟩
  let d : Expr := .literal (.text "aa")
  let t : Expr := .literal (.text "baaac")
  Text.join "aa".toList (Library.pieces "aa".toList "baaac".toList) = "baaac".toList
    ∧ (∀ p ∈ Library.pieces "aa".toList "baaac".toList, ¬ "aa".toList <:+: p)
    ∧ evaluate ctx (.call "SPLIT" [d, .literal (.number 0.0), t])
      = evaluate ctx (.call "REPLACE" [d, .literal (.text ";"), t])
  := by
  intro ctx d t
  have hregistry : ctx.registry = .builtin := rfl
  obtain ⟨hjoin, hpieces, -, -, hsplit⟩ := evaluate_split_replace hregistry d (.literal .empty) t
  exact ⟨hjoin, hpieces (by decide), hsplit _ Decimal.denotes_zero⟩

end Expr

end FieldFormula
