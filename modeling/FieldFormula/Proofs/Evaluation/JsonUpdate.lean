import FieldFormula.Proofs.Json.RoundTrip
import FieldFormula.Proofs.Registry.Lookup
import FieldFormula.Proofs.Text.Search

/-!
# Updates of JSON objects

An update puts a text under a key of a JSON object, and a query takes it out again.  The queries of
other keys are not changed by the update, the last of two updates of a key counts, and the keys keep
their order, with a new key at the end.  The functions work on texts, so all of this holds of
objects whose floats are read back from their texts.

* `Library.jsonUpdate_of_hasMembers`: an update of the text is one of the members.
* `Library.jsonQuery_eq_walk`, `Library.jsonQuery_of_ofText`: a query walks along its path, and it
  looks up a key.
* `Expr.evaluate_jsonUpdate`: the laws of updates and queries.
-/

namespace FieldFormula

namespace Library

open Json (FloatsReadBack WellFormed)

/-- The text of the value is an object with the members, or it is empty, and there are none. -/
def HasMembers (v : Value) (ms : List (String × Json)) : Prop :=
  Json.ofText v.chars = .ok (.object ms) ∨ v.chars = [] ∧ ms = []

theorem HasMembers.wellFormed {v : Value} {ms : List (String × Json)} (h : HasMembers v ms) :
  WellFormed Json.maxDepth (.object ms)
  := by
  obtain h | ⟨-, rfl⟩ := h
  · apply Json.wellFormed_of_ofText h
  · apply Json.wellFormed_object_iff.mpr
    use List.nodup_nil
    apply List.forall_mem_nil

theorem ofText_jsonValue {j : Json} (hj : WellFormed Json.maxDepth j) (hfloats : FloatsReadBack j) :
  Json.ofText (jsonValue j).chars = .ok j
  := by
  rw [jsonValue, Value.chars_ofChars]
  apply Json.ofText_text hj hfloats

section

variable {a : Value} {ms : List (String × Json)} (key : Value) (draw : Float)

/-- An update of the text is one of the members. -/
theorem jsonUpdate_of_hasMembers (ha : HasMembers a ms) (s : String) :
  jsonUpdate ⟨[a, key, .text s], draw⟩
    = jsonValue (.object (Json.insert key.toText (.string s) ms))
  := by
  let c : Call := ⟨[a, key, .text s], draw⟩
  have hkey : String.ofList (c.chars 1) = key.toText := String.ofList_toList
  have hupdated : updated (c.chars 1) (.string s) (.object ms)
      = .object (Json.insert key.toText (.string s) ms) := by
    rw [updated, hkey]
  have hvalue : jsonOfValue (c.value 2) = .string s := rfl
  change jsonUpdate c = _
  rw [jsonUpdate, hvalue]
  obtain hread | ⟨hempty, rfl⟩ := ha
  · have hread : Json.ofText (c.chars 0) = .ok (.object ms) := hread
    rw [Json.isEmpty_of_ofText hread, if_neg Bool.false_ne_true, withJson, hread]
    exact congrArg jsonValue hupdated
  · have hempty : c.chars 0 = [] := hempty
    rw [hempty, List.isEmpty_nil, if_pos rfl]
    exact congrArg jsonValue hupdated

/-- A query walks along its path. -/
theorem jsonQuery_eq_walk {root : Json} (ha : Json.ofText a.chars = .ok root) :
  jsonQuery ⟨[key, a], draw⟩
    = (walk (pathOf key.chars) root).elim .empty fun v => .ofChars (itemText v)
  := by
  have hread : Json.ofText (Call.chars ⟨[key, a], draw⟩ 1) = .ok root := ha
  have hpath : Call.chars ⟨[key, a], draw⟩ 0 = key.chars := rfl
  rw [jsonQuery, withJson, hread, hpath]
  dsimp only
  cases walk (pathOf key.chars) root <;> rfl

/-- A query looks up a key. -/
theorem jsonQuery_of_ofText (hkey : '.' ∉ key.chars) (ha : Json.ofText a.chars = .ok (.object ms)) :
  jsonQuery ⟨[key, a], draw⟩
    = (ms.lookup key.toText).elim .empty fun v => .ofChars (itemText v)
  := by
  have hpath : pathOf key.chars = [key.chars] := Text.splitOn_of_notMem hkey
  have hwalk : walk [key.chars] (.object ms) = ms.lookup key.toText := by
    simp [walk, follow, Value.chars]
  rw [jsonQuery_eq_walk key draw ha, hpath, hwalk]

end

/-- What an update leaves is read as the updated members. -/
theorem ofText_jsonUpdate {a : Value} {ms : List (String × Json)} (ha : HasMembers a ms)
    (hfloats : FloatsReadBack (.object ms)) (key : Value) (s : String) (draw : Float) :
  Json.ofText (jsonUpdate ⟨[a, key, .text s], draw⟩).chars
    = .ok (.object (Json.insert key.toText (.string s) ms))
  := by
  rw [jsonUpdate_of_hasMembers key draw ha]
  apply ofText_jsonValue
  · apply ha.wellFormed.insert _ (Json.wellFormed_string _ _)
  · apply hfloats.insert _ (Json.floatsReadBack_string _)

end Library

/-! ### Formulas -/

namespace Expr

open Json (FloatsReadBack)

/-- A text that is put under a key of an object is what the key leads to, and the other keys lead to
what they led to before.  The last of two texts that are put under a key counts.  The keys keep
their order, with a new key at the end.  The empty text is updated like an object without members,
but no query can be made of it. -/
theorem evaluate_jsonUpdate {ctx : Context} {j p q v w : Expr} {ms : List (String × Json)}
    {s t : String} (hregistry : ctx.registry = .builtin)
    (hj : Library.HasMembers (j.evaluate ctx) ms) (hfloats : FloatsReadBack (.object ms))
    (hp : '.' ∉ (p.evaluate ctx).chars) (hq : '.' ∉ (q.evaluate ctx).chars)
    (hv : v.evaluate ctx = .text s) (hw : w.evaluate ctx = .text t) :
  evaluate ctx (.call "JSONQUERY" [p, .call "JSONUPDATE" [j, p, v]]) = .text s
    ∧ ((j.evaluate ctx).chars ≠ [] → (q.evaluate ctx).toText ≠ (p.evaluate ctx).toText →
      evaluate ctx (.call "JSONQUERY" [q, .call "JSONUPDATE" [j, p, v]])
        = evaluate ctx (.call "JSONQUERY" [q, j]))
    ∧ evaluate ctx (.call "JSONUPDATE" [.call "JSONUPDATE" [j, p, v], p, w])
      = evaluate ctx (.call "JSONUPDATE" [j, p, w])
    ∧ ∃ ns, Json.ofText (evaluate ctx (.call "JSONUPDATE" [j, p, v])).chars = .ok (.object ns)
      ∧ Json.keys ns = if (p.evaluate ctx).toText ∈ Json.keys ms then Json.keys ms
        else Json.keys ms ++ [(p.evaluate ctx).toText]
  := by
  have hquery : ∀ k e, evaluate ctx (.call "JSONQUERY" [k, e])
      = Library.jsonQuery ⟨[k.evaluate ctx, e.evaluate ctx], ctx.draw⟩ :=
    fun k e => evaluate_call hregistry "JSONQUERY" Library.jsonQuery rfl [k, e]
  have hupdate : ∀ e k x, evaluate ctx (.call "JSONUPDATE" [e, k, x])
      = Library.jsonUpdate ⟨[e.evaluate ctx, k.evaluate ctx, x.evaluate ctx], ctx.draw⟩ :=
    fun e k x => evaluate_call hregistry "JSONUPDATE" Library.jsonUpdate rfl [e, k, x]
  let key := p.evaluate ctx
  have hread := Library.ofText_jsonUpdate hj hfloats key s ctx.draw
  simp only [hquery, hupdate, hv, hw]
  refine ⟨?_, ?_, ?_, ?_⟩
  · rw [Library.jsonQuery_of_ofText _ ctx.draw hp hread, Json.lookup_insert_self]
    exact congrArg Value.text String.ofList_toList
  · intro hne hkeys
    have hsource := hj.resolve_right fun h => hne h.1
    rw [Library.jsonQuery_of_ofText _ ctx.draw hq hread, Library.jsonQuery_of_ofText _ ctx.draw hq hsource,
      Json.lookup_insert_of_ne hkeys]
  · rw [Library.jsonUpdate_of_hasMembers _ ctx.draw (Or.inl hread), Json.insert_insert,
      Library.jsonUpdate_of_hasMembers _ ctx.draw hj]
  · use Json.insert key.toText (.string s) ms, hread
    exact Json.keys_insert key.toText (.string s) ms

/-- A key of an object with a float in it is updated, and a new one is put into the empty text. -/
theorem evaluate_jsonUpdate_float :
  let ctx : Context := ⟨.builtin, none, 0.0⟩
  let text : String → Expr := fun s => .literal (.text s)
  let source : Expr := text "\x7b\"a\":[null,0.5],\"b\":\"\"\x7d"
  let update : Expr → String → String → Expr :=
    fun e key value => .call "JSONUPDATE" [e, text key, text value]
  evaluate ctx (.call "JSONQUERY" [text "b", update source "b" "\"\\"]) = .text "\"\\"
    ∧ evaluate ctx (.call "JSONQUERY" [text "a", update source "b" "\"\\"])
      = evaluate ctx (.call "JSONQUERY" [text "a", source])
    ∧ evaluate ctx (update (update (text "") "b" "x") "b" "y")
      = evaluate ctx (update (text "") "b" "y")
  := by
  intro ctx text source update
  let ms : List (String × Json) :=
    [("a", .array [.null, .number (.float 0.5)]), ("b", .string "")]
  have hregistry : ctx.registry = .builtin := rfl
  have hfloat : (Json.Number.float 0.5).ReadsBack := by
    apply Json.Number.readsBack_iff.mpr (Or.inr ⟨'0', ".5".toList, _⟩)
    decide +kernel
  have hfloats : FloatsReadBack (.object ms) := by
    apply Json.floatsReadBack_object_iff.mpr
    simp only [ms, List.forall_mem_cons, Json.floatsReadBack_array_iff]
    refine ⟨⟨?_, ?_, List.forall_mem_nil _⟩, Json.floatsReadBack_string _, List.forall_mem_nil _⟩
    · rintro x ⟨⟩
    · rintro x ⟨⟩
      exact hfloat
  have hdepth : Json.WellFormed Json.maxDepth (.object ms) := by
    apply Json.wellFormed_object_iff.mpr
    use by decide
    simp only [ms, List.forall_mem_cons]
    refine ⟨Json.wellFormed_array_iff.mpr ?_, Json.wellFormed_string _ _, List.forall_mem_nil _⟩
    simp only [List.forall_mem_cons]
    refine ⟨Json.wellFormed_null _, Json.wellFormed_number _ ?_, List.forall_mem_nil _⟩
    rintro k ⟨⟩
  have hsource : Json.ofText (source.evaluate ctx).chars = .ok (.object ms) := by
    have hchars : (source.evaluate ctx).chars = (Json.object ms).text := by decide +kernel
    rw [hchars, Json.ofText_text hdepth hfloats]
  have htext : ∀ s, (text s).evaluate ctx = .text s := fun _ => rfl
  obtain ⟨hself, hother, -, -⟩ := evaluate_jsonUpdate (p := text "b") (q := text "a")
    hregistry (Or.inl hsource) hfloats (by decide) (by decide) (htext "\"\\") (htext "")
  have hnone : FloatsReadBack (.object []) := by
    apply Json.floatsReadBack_object_iff.mpr
    apply List.forall_mem_nil
  obtain ⟨-, -, hlast, -⟩ := evaluate_jsonUpdate (j := text "") (p := text "b") (q := text "b")
    hregistry (Or.inr ⟨rfl, rfl⟩) hnone (by decide) (by decide) (htext "x") (htext "y")
  refine ⟨hself, ?_, hlast⟩
  apply hother <;> decide

end Expr

end FieldFormula
