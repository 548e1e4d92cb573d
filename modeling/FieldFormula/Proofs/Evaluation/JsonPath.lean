import FieldFormula.Proofs.Evaluation.JsonEncode

/-!
# Paths into JSON texts

A query walks along a path, step by step into the items and the members of a value.  Where the first
part of a path leads to an array or to an object, the query of the whole path is a query of the rest
in the text of that array or object, so long as its floats are read back from their texts.

* `Library.isPart_of_walk`: a path leads to a part of the value.
* `Library.walk_pathOf_append`: a path with a full stop in it is walked in two parts.
* `Expr.evaluate_jsonQuery_append`: the query of a path in two parts.
-/

namespace FieldFormula

namespace Json

/-- The value is an array or an object. -/
inductive IsContainer : Json → Prop
  | array (items : List Json) : IsContainer (.array items)
  | object (ms : List (String × Json)) : IsContainer (.object ms)

end Json

namespace Library

open Json (IsContainer IsPart)

theorem itemText_of_isContainer {v : Json} (hv : v.IsContainer) :
  itemText v = v.text
  := by
  cases hv <;> rfl

/-! ### Steps and walks -/

/-- A step leads to a part of the value. -/
theorem isPart_of_follow {part : List Char} {v w : Json} (h : follow part w = some v) :
  IsPart v w
  := by
  cases w with
  | array items =>
    obtain ⟨i, -, hitem⟩ := Option.bind_eq_some_iff.mp h
    apply IsPart.item (List.mem_of_getElem? hitem) .refl
  | object ms =>
    obtain ⟨l, r, hms, -⟩ := List.lookup_eq_some_iff.mp h
    have hmem : (String.ofList part, v) ∈ ms := by
      rw [hms]
      exact List.mem_append_right l List.mem_cons_self
    apply IsPart.member hmem .refl
  | null | bool | number | string => contradiction

/-- A path leads to a part of the value. -/
theorem isPart_of_walk {path : List (List Char)} {v root : Json} (h : walk path root = some v) :
  IsPart v root
  := by
  induction path generalizing root with
  | nil =>
    obtain rfl := Option.some.inj h
    exact .refl
  | cons part path ih =>
    rw [walk, List.foldlM_cons] at h
    obtain ⟨w, hw, hwalk⟩ := Option.bind_eq_some_iff.mp h
    exact (ih hwalk).trans (isPart_of_follow hw)

/-- A path with a full stop in it is walked in two parts. -/
theorem walk_pathOf_append (p q : List Char) (root : Json) :
  walk (pathOf (p ++ '.' :: q)) root = (walk (pathOf p) root).bind (walk (pathOf q))
  := by
  rw [pathOf, Text.splitOn_append_cons, walk, List.foldlM_append]
  rfl

end Library

/-! ### Formulas -/

namespace Expr

open Json (FloatsReadBack)

/-- If a path leads to an array or to an object, the query of the path, a full stop and a second
path is the query of the second path in what the query of the first one yields. -/
theorem evaluate_jsonQuery_append {ctx : Context} {p j : Expr} {root v : Json}
    (hregistry : ctx.registry = .builtin) (hj : Json.ofText (j.evaluate ctx).chars = .ok root)
    (hv : Library.walk (Library.pathOf (p.evaluate ctx).chars) root = some v)
    (hcontainer : v.IsContainer) (hfloats : FloatsReadBack v) (q : Expr) :
  evaluate ctx (.call "JSONQUERY" [.concat [p, .literal (.text "."), q], j])
    = evaluate ctx (.call "JSONQUERY" [q, .call "JSONQUERY" [p, j]])
  := by
  have hquery : ∀ e d : Expr, evaluate ctx (.call "JSONQUERY" [e, d])
      = Library.jsonQuery ⟨[e.evaluate ctx, d.evaluate ctx], ctx.draw⟩ :=
    fun e d => evaluate_call hregistry "JSONQUERY" Library.jsonQuery rfl [e, d]
  have hpath : (evaluate ctx (.concat [p, .literal (.text "."), q])).chars
      = (p.evaluate ctx).chars ++ '.' :: (q.evaluate ctx).chars := by
    have hdot : (evaluate ctx (.literal (.text "."))).chars = ['.'] :=
      (by decide +kernel : (Value.text ".").chars = ['.'])
    apply (chars_evaluate_ofParts ctx [p, .literal (.text "."), q]).trans
    rw [List.flatMap_cons, List.flatMap_cons, hdot, List.flatMap_singleton, List.singleton_append]
  -- the first query writes the value to which its path leads, and the second one reads it
  have hfirst : evaluate ctx (.call "JSONQUERY" [p, j]) = Library.jsonValue v := by
    rw [hquery, Library.jsonQuery_eq_walk _ _ hj, hv]
    exact congrArg Value.ofChars (Library.itemText_of_isContainer hcontainer)
  have hread : Json.ofText (evaluate ctx (.call "JSONQUERY" [p, j])).chars = .ok v := by
    rw [hfirst]
    apply Library.ofText_jsonValue _ hfloats
    exact (Json.wellFormed_of_ofText hj).of_isPart (Library.isPart_of_walk hv)
  rw [hquery q, Library.jsonQuery_eq_walk _ _ hread, hquery, Library.jsonQuery_eq_walk _ _ hj,
    hpath, Library.walk_pathOf_append, hv, Option.bind_some]

/-- A path leads through an array with a float in it to a member of one of its items. -/
theorem evaluate_jsonQuery_array :
  let ctx : Context := ⟨.builtin, none, 0.0⟩
  let text : String → Expr := fun s => .literal (.text s)
  let source : Expr := text "\x7b\"a\":[0.5,\x7b\"b\":\"c\"\x7d]\x7d"
  evaluate ctx (.call "JSONQUERY" [.concat [text "a", text ".", text "1.b"], source])
    = evaluate ctx (.call "JSONQUERY" [text "1.b", .call "JSONQUERY" [text "a", source]])
  := by
  intro ctx text source
  let items : List Json := [.number (.float 0.5), .object [("b", .string "c")]]
  have hregistry : ctx.registry = .builtin := rfl
  have hfloats : FloatsReadBack (.array items) := by
    apply Json.floatsReadBack_array_iff.mpr
    simp only [items, List.forall_mem_cons, Json.floatsReadBack_object_iff]
    refine ⟨?_, ⟨Json.floatsReadBack_string _, List.forall_mem_nil _⟩, List.forall_mem_nil _⟩
    rintro x ⟨⟩
    apply Json.Number.readsBack_iff.mpr (Or.inr ⟨'0', ".5".toList, _⟩)
    decide +kernel
  have hdepth : Json.WellFormed (Json.maxDepth - 1) (.array items) := by
    apply Json.wellFormed_array_iff.mpr
    simp only [items, List.forall_mem_cons, Json.wellFormed_object_iff]
    refine ⟨Json.wellFormed_number _ ?_, ⟨List.nodup_singleton "b", Json.wellFormed_string _ _,
      List.forall_mem_nil _⟩, List.forall_mem_nil _⟩
    rintro k ⟨⟩
  have hsource : Json.ofText (source.evaluate ctx).chars = .ok (.object [("a", .array items)]) := by
    rw [← Json.ofText_text_member hdepth hfloats]
    congr 1
    decide +kernel
  have hwalk : Library.walk (Library.pathOf ((text "a").evaluate ctx).chars)
      (.object [("a", .array items)]) = some (.array items) := by
    have hpath : Library.pathOf ((text "a").evaluate ctx).chars = [['a']] := by decide +kernel
    rw [hpath]
    rfl
  exact evaluate_jsonQuery_append hregistry hsource hwalk (.array items) hfloats (text "1.b")

end Expr

end FieldFormula
