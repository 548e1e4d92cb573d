import FieldFormula.Proofs.Evaluation.Fields

/-!
# Replacement of parts by their values

A part of a formula counts by its value alone: the literal of the value may stand in its
place.  So a field counts by its text, whatever that text would write as a formula.

* `evaluate_fill_congr`: parts of one value may replace each other.
* `evaluate_assign`: a field may be replaced by its text everywhere.
* `evaluate_replace`: both, where the draws of the evaluations may differ.
-/

namespace FieldFormula.Expr

/-! ### Formulas with a gap -/

/-- A formula in which one part is left open, at any depth. -/
inductive Outside where
  /-- Nothing but the gap. -/
  | here
  | call (name : String) (before : List Expr) (inner : Outside) (after : List Expr)
  | concat (before : List Expr) (inner : Outside) (after : List Expr)

/-- The formula with the given part in its gap. -/
def Outside.fill (t : Expr) : Outside → Expr
  | here => t
  | call name before inner after => .call name (before ++ inner.fill t :: after)
  | concat before inner after => .concat (before ++ inner.fill t :: after)

theorem evaluateAll_eq_map (ctx : Context) (es : List Expr) :
  evaluateAll ctx es = es.map (evaluate ctx)
  := by
  induction es with
  | nil => rfl
  | cons e es ih => rw [evaluateAll, ih, List.map_cons]

/-- Parts of one value may replace each other. -/
theorem evaluate_fill_congr {ctx : Context} {t t' : Expr} (h : t.evaluate ctx = t'.evaluate ctx)
    (s : Outside) :
  (s.fill t).evaluate ctx = (s.fill t').evaluate ctx
  := by
  induction s with
  | here => apply h
  | call name before inner after ih | concat before inner after ih =>
    -- the values stand in the same places, and there are as many of them
    simp only [Outside.fill, evaluate, evaluateAll_eq_map, List.map_append, List.map_cons, ih]

theorem callsOfAll_eq_flatMap (es : List Expr) :
  callsOfAll es = es.flatMap calls
  := by
  induction es with
  | nil => rfl
  | cons e es ih => rw [callsOfAll, ih, List.flatMap_cons]

/-- The calls in a part are calls in the formula. -/
theorem calls_subset_calls_fill (t : Expr) (s : Outside) :
  t.calls ⊆ (s.fill t).calls
  := by
  induction s with
  | here => apply List.Subset.refl
  | call name before inner after ih | concat before inner after ih =>
    intro f hf
    have hmem : f ∈ (before ++ inner.fill t :: after).flatMap calls :=
      List.mem_flatMap.mpr ⟨inner.fill t, by simp, ih hf⟩
    simp only [Outside.fill, calls, callsOfAll_eq_flatMap, List.mem_cons, hmem, or_true]

/-! ### Fields replaced by their texts -/

mutual

/-- The formula with a text in place of a field. -/
def assign (name text : String) : Expr → Expr
  | .literal v => .literal v
  | .field other => if other = name then .literal (.text text) else .field other
  | .call f args => .call f (assignAll name text args)
  | .concat parts => .concat (assignAll name text parts)

/-- Several formulas with a text in place of a field. -/
def assignAll (name text : String) : List Expr → List Expr
  | [] => []
  | e :: es => assign name text e :: assignAll name text es

end

mutual

/-- A field may be replaced by its text everywhere. -/
theorem evaluate_assign (ctx : Context) (name : String) (e : Expr) :
  (e.assign name (ctx.fieldText name)).evaluate ctx = e.evaluate ctx
  := by
  match e with
  | .literal v => rfl
  | .field other =>
    rw [assign]
    split
    · next h => rw [h, evaluate, evaluate]
    · rfl
  | .call f args => rw [assign, evaluate, evaluate, evaluateAll_assignAll]
  | .concat parts => rw [assign, evaluate, evaluate, evaluateAll_assignAll]

theorem evaluateAll_assignAll (ctx : Context) (name : String) (es : List Expr) :
  evaluateAll ctx (assignAll name (ctx.fieldText name) es) = evaluateAll ctx es
  := by
  match es with
  | [] => rfl
  | e :: es => rw [assignAll, evaluateAll, evaluateAll, evaluate_assign, evaluateAll_assignAll]

end

/-! ### Replacement at different draws -/

/-- Without random numbers, the draw does not matter. -/
theorem evaluate_draw {r : Registry} (hr : r.HasBuiltinActions) {e : Expr} (he : e.AvoidsRandom r)
    (fields : Option FieldMap) (draw draw' : Float) :
  e.evaluate ⟨r, fields, draw⟩ = e.evaluate ⟨r, fields, draw'⟩
  := evaluate_congr hr e he fun _ _ => rfl

/-- A formula keeps its value when a part is replaced by the literal of the part's value.  In
particular, a field may be replaced by its text, in one place or everywhere. -/
theorem evaluate_replace {r : Registry} (hr : r.HasBuiltinActions) {e : Expr}
    (he : e.AvoidsRandom r) (fields : Option FieldMap) (draw draw' draw'' : Float) :
  (∀ (s : Outside) (t : Expr), s.fill t = e →
      (s.fill (.literal (t.evaluate ⟨r, fields, draw⟩))).evaluate ⟨r, fields, draw'⟩
        = e.evaluate ⟨r, fields, draw''⟩)
    ∧ (∀ (s : Outside) (name : String), s.fill (.field name) = e →
      (s.fill (.literal (.text (Context.fieldText ⟨r, fields, draw⟩ name)))).evaluate
          ⟨r, fields, draw'⟩
        = e.evaluate ⟨r, fields, draw''⟩)
    ∧ ∀ name : String,
      (e.assign name (Context.fieldText ⟨r, fields, draw⟩ name)).evaluate ⟨r, fields, draw'⟩
        = e.evaluate ⟨r, fields, draw''⟩
  := by
  have hpart : ∀ (s : Outside) (t : Expr), s.fill t = e →
      (s.fill (.literal (t.evaluate ⟨r, fields, draw⟩))).evaluate ⟨r, fields, draw'⟩
        = e.evaluate ⟨r, fields, draw''⟩ := by
    rintro s t rfl
    have ht : t.AvoidsRandom r := fun f hf => he f (calls_subset_calls_fill t s hf)
    calc
      _ = (s.fill t).evaluate ⟨r, fields, draw'⟩ := by
        apply evaluate_fill_congr
        apply evaluate_draw hr ht
      _ = (s.fill t).evaluate ⟨r, fields, draw''⟩ := evaluate_draw hr he fields draw' draw''
  refine ⟨hpart, ?_, ?_⟩
  · intro s name hs
    apply hpart s (.field name) hs
  · intro name
    rw [← evaluate_draw hr he fields draw' draw'']
    apply evaluate_assign ⟨r, fields, draw'⟩ name e

/-- The sum stays a number in the JSON text, and the text of the field is not read as a
call. -/
theorem evaluate_replace_json :
  let fields : Option FieldMap := some [("A", "=SUM(1; 2)")]
  let sum : Expr := .call "SUM" [.literal (.number 1), .literal (.number 2)]
  let update (key value : Expr) : Expr := .call "JSONUPDATE" [.literal .empty, key, value]
  (update (.field "A") (.literal (sum.evaluate ⟨.builtin, fields, 0.25⟩))).evaluate
        ⟨.builtin, fields, 0.5⟩
      = (update (.field "A") sum).evaluate ⟨.builtin, fields, 0.75⟩
    ∧ (update (.literal (.text "=SUM(1; 2)")) sum).evaluate ⟨.builtin, fields, 0.5⟩
      = (update (.field "A") sum).evaluate ⟨.builtin, fields, 0.75⟩
  := by
  intro fields sum update
  have he : (update (.field "A") sum).AvoidsRandom .builtin :=
    avoidsRandom_builtin (by decide +kernel)
  have htext : Context.fieldText ⟨.builtin, fields, 0.25⟩ "A" = "=SUM(1; 2)" := by
    decide +kernel
  obtain ⟨hpart, hfield, -⟩ :=
    evaluate_replace Registry.hasBuiltinActions_builtin he fields 0.25 0.5 0.75
  constructor
  · apply hpart (.call "JSONUPDATE" [.literal .empty, .field "A"] .here []) sum rfl
  · rw [← htext]
    apply hfield (.call "JSONUPDATE" [.literal .empty] .here [sum]) "A" rfl

end FieldFormula.Expr
