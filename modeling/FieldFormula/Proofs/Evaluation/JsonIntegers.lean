import FieldFormula.Proofs.Decimal.Integers
import FieldFormula.Proofs.Evaluation.JsonPath

/-!
# Integers in JSON texts

A query that leads to an array or to an object returns a text in which the integers stand with all
of their digits.  A query that leads to an integer itself writes the float of the integer.  So it
returns the digits of the integer if this is the shortest one with its float, as all integers up to
`2 ^ 53` are, and otherwise it returns another integer with the same float.

* `Json.text_array_append`, `Json.text_object_append`: a part between the others in the text of an
  array or of an object.
* `Expr.evaluate_jsonQuery_member`: the query of the only member of an object.
* `Expr.evaluate_jsonQuery_integer`: which integers are returned as they are.
-/

namespace FieldFormula

namespace Json

/-! ### Texts of containers -/

/-- A part between others, where commas separate them. -/
theorem separated_append_cons {α : Type} {f : α → List Char} {separated : List α → List Char}
    (hcons : ∀ x xs, separated (x :: xs) = f x ++ xs.flatMap fun y => ',' :: f y)
    (front : List α) (x : α) (back : List α) :
  separated (front ++ x :: back)
    = front.flatMap (fun y => f y ++ [',']) ++ f x ++ back.flatMap fun y => ',' :: f y
  := by
  induction front with
  | nil => rw [List.nil_append, hcons, List.flatMap_nil, List.nil_append]
  | cons y front ih =>
    have hcomma : ∀ {xs : List α}, xs ≠ [] →
        xs.flatMap (fun z => ',' :: f z) = ',' :: separated xs := by
      intro xs hne
      obtain ⟨z, zs, rfl⟩ := List.exists_cons_of_ne_nil hne
      rw [List.flatMap_cons, hcons, List.cons_append]
    rw [List.cons_append, hcons, hcomma (by simp), ih, List.flatMap_cons]
    simp

/-- The text of an array with an item between others. -/
theorem text_array_append (front : List Json) (v : Json) (back : List Json) :
  text (.array (front ++ v :: back))
    = '[' :: (front.flatMap (fun w => text w ++ [',']) ++ text v
      ++ back.flatMap fun w => ',' :: text w) ++ [']']
  := by
  rw [text, separated_append_cons textOfItems_cons]

/-- The text of an object with a member between others. -/
theorem text_object_append (front : List (String × Json)) (m : String × Json)
    (back : List (String × Json)) :
  text (.object (front ++ m :: back))
    = '\x7b' :: (front.flatMap (fun n => memberText n ++ [',']) ++ memberText m
      ++ back.flatMap fun n => ',' :: memberText n) ++ ['\x7d']
  := by
  rw [text, separated_append_cons textOfMembers_cons]

/-- An integer stands in a text with its digits. -/
theorem text_integer (k : Int) :
  text (.number (.integer k)) = (toString k).toList
  := by
  rw [Decimal.toList_toString, text, Number.text]

end Json

namespace Expr

open Decimal (IsShortestInteger)

section

variable {ctx : Context} {p : Expr} (hregistry : ctx.registry = .builtin)
  (hp : '.' ∉ (p.evaluate ctx).chars)

include hregistry hp

/-- The query of the only member of an object. -/
theorem evaluate_jsonQuery_member {j : Expr} {v : Json}
    (hj : Json.ofText (j.evaluate ctx).chars = .ok (.object [((p.evaluate ctx).toText, v)])) :
  evaluate ctx (.call "JSONQUERY" [p, j]) = .ofChars (Library.itemText v)
  := by
  have hquery : evaluate ctx (.call "JSONQUERY" [p, j])
      = Library.jsonQuery ⟨[p.evaluate ctx, j.evaluate ctx], ctx.draw⟩ :=
    evaluate_call hregistry "JSONQUERY" Library.jsonQuery rfl [p, j]
  rw [hquery, Library.jsonQuery_of_ofText _ _ hp hj, List.lookup_cons_self]
  rfl

/-- The query of a member that is an integer returns the shortest integer with the same float.  So
it returns the integer itself exactly when this is shortest, as it is up to `2 ^ 53`.  In arrays and
objects every integer is returned as it is. -/
theorem evaluate_jsonQuery_integer {j : Expr} {k : Int}
    (hj : Json.ofText (j.evaluate ctx).chars
      = .ok (.object [((p.evaluate ctx).toText, .number (.integer k))])) :
  (∃ m : Int, evaluate ctx (.call "JSONQUERY" [p, j]) = .text (toString m)
    ∧ Float.ofInt m = Float.ofInt k ∧ IsShortestInteger m)
  ∧ (evaluate ctx (.call "JSONQUERY" [p, j]) = .text (toString k) ↔ IsShortestInteger k)
  ∧ (|k| ≤ 2 ^ 53 → evaluate ctx (.call "JSONQUERY" [p, j]) = .text (toString k))
  ∧ (∀ (a : Expr) (front back : List Json),
    Json.ofText (a.evaluate ctx).chars = .ok (.object [((p.evaluate ctx).toText,
      .array (front ++ .number (.integer k) :: back))])
    → evaluate ctx (.call "JSONQUERY" [p, a])
      = .ofChars ('[' :: (front.flatMap (fun v => v.text ++ [',']) ++ (toString k).toList
        ++ back.flatMap fun v => ',' :: v.text) ++ [']']))
  ∧ ∀ (o : Expr) (front back : List (String × Json)) (key : String),
    Json.ofText (o.evaluate ctx).chars = .ok (.object [((p.evaluate ctx).toText,
      .object (front ++ (key, .number (.integer k)) :: back))])
    → evaluate ctx (.call "JSONQUERY" [p, o])
      = .ofChars ('\x7b' :: (front.flatMap (fun m => Json.memberText m ++ [','])
        ++ (Json.quote key ++ ':' :: (toString k).toList)
        ++ back.flatMap fun m => ',' :: Json.memberText m) ++ ['\x7d'])
  := by
  have hquery : evaluate ctx (.call "JSONQUERY" [p, j]) = .text (Value.numberText (.ofInt k)) :=
    evaluate_jsonQuery_member hregistry hp hj
  have hbits : Json.Is64Bit k :=
    (Json.wellFormed_of_ofText hj).is64Bit k (.member List.mem_cons_self .refl)
  have hlt : k.natAbs < 10 ^ 21 - 65536 := by
    obtain ⟨hlow, hhigh⟩ := hbits
    omega
  have hiff := Decimal.numberText_ofInt_eq_iff hlt
  refine ⟨?_, ?_, ?_, ?_, ?_⟩
  · obtain ⟨m, htext, hfloat, hshortest⟩ := Decimal.exists_numberText_ofInt hlt
    use m
    rw [hquery, htext]
    use rfl
  · rw [hquery, Value.text.injEq, hiff]
  · intro hk
    rw [hquery, hiff.mpr (Decimal.isShortestInteger_of_abs_le hk)]
  · intro a front back ha
    rw [evaluate_jsonQuery_member hregistry hp ha, ← Json.text_integer]
    exact congrArg Value.ofChars (Json.text_array_append front _ back)
  · intro o front back key ho
    rw [evaluate_jsonQuery_member hregistry hp ho, ← Json.text_integer]
    exact congrArg Value.ofChars (Json.text_object_append front _ back)

end

/-- The greatest integer of 64 bits, by itself and in an array. -/
theorem evaluate_jsonQuery_integer_greatest :
  let ctx : Context := ⟨.builtin, none, 0.0⟩
  let query : String → Value := fun s =>
    evaluate ctx (.call "JSONQUERY" [.literal (.text "a"), .literal (.text s)])
  (query "\x7b\"a\":18446744073709551615\x7d" = .text (toString 18446744073709551615)
    ↔ IsShortestInteger 18446744073709551615)
  ∧ query "\x7b\"a\":[true,18446744073709551615]\x7d" = .text "[true,18446744073709551615]"
  := by
  intro ctx query
  have hregistry : ctx.registry = .builtin := rfl
  have hpath : '.' ∉ ((Expr.literal (.text "a")).evaluate ctx).chars := by decide
  have hbits : Json.Is64Bit 18446744073709551615 := ⟨by decide, by decide⟩
  have hinteger := fun d => Json.wellFormed_integer d hbits
  have hfloats := Json.floatsReadBack_integer 18446744073709551615
  have hread : Json.ofText
      (evaluate ctx (.literal (.text "\x7b\"a\":18446744073709551615\x7d"))).chars
      = .ok (.object [("a", .number (.integer 18446744073709551615))]) := by
    rw [← Json.ofText_text_member (hinteger _) hfloats]
    congr 1
    decide
  have hread' : Json.ofText
      (evaluate ctx (.literal (.text "\x7b\"a\":[true,18446744073709551615]\x7d"))).chars
      = .ok (.object [("a",
        .array ([.bool true] ++ .number (.integer 18446744073709551615) :: []))]) := by
    rw [← Json.ofText_text_member]
    · congr 1
      decide
    · apply Json.wellFormed_array_iff.mpr
      simp only [List.singleton_append, List.forall_mem_cons]
      exact ⟨Json.wellFormed_bool _ _, hinteger _, List.forall_mem_nil _⟩
    · apply Json.floatsReadBack_array_iff.mpr
      simp only [List.singleton_append, List.forall_mem_cons]
      exact ⟨Json.floatsReadBack_bool true, hfloats, List.forall_mem_nil _⟩
  obtain ⟨-, hiff, -, harray, -⟩ := evaluate_jsonQuery_integer hregistry hpath hread
  use hiff
  apply (harray _ _ _ hread').trans
  exact congrArg Value.text (by decide)

/-- The least positive integer that is not returned as it is. -/
theorem evaluate_jsonQuery_integer_rounded :
  let ctx : Context := ⟨.builtin, none, 0.0⟩
  let query : String → Value := fun s =>
    evaluate ctx (.call "JSONQUERY" [.literal (.text "a"), .literal (.text s)])
  query "\x7b\"a\":9007199254740993\x7d" = .text "9007199254740992"
  ∧ query "\x7b\"a\":9007199254740993\x7d" ≠ .text (toString 9007199254740993)
  ∧ query "\x7b\"a\":[9007199254740993]\x7d" = .text "[9007199254740993]"
  := by
  intro ctx query
  have hregistry : ctx.registry = .builtin := rfl
  have hpath : '.' ∉ ((Expr.literal (.text "a")).evaluate ctx).chars := by decide
  have hbits : Json.Is64Bit 9007199254740993 := ⟨by decide, by decide⟩
  have hinteger := fun d => Json.wellFormed_integer d hbits
  have hfloats := Json.floatsReadBack_integer 9007199254740993
  have hread : Json.ofText
      (evaluate ctx (.literal (.text "\x7b\"a\":9007199254740993\x7d"))).chars
      = .ok (.object [("a", .number (.integer 9007199254740993))]) := by
    rw [← Json.ofText_text_member (hinteger _) hfloats]
    congr 1
    decide
  have hread' : Json.ofText
      (evaluate ctx (.literal (.text "\x7b\"a\":[9007199254740993]\x7d"))).chars
      = .ok (.object [("a", .array [.number (.integer 9007199254740993)])]) := by
    rw [← Json.ofText_text_member]
    · congr 1
      decide
    · exact Json.wellFormed_array_iff.mpr (List.forall_mem_singleton.mpr (hinteger _))
    · exact Json.floatsReadBack_array_iff.mpr (List.forall_mem_singleton.mpr hfloats)
  have hquery : query "\x7b\"a\":9007199254740993\x7d" = .text "9007199254740992" := by
    apply (evaluate_jsonQuery_member hregistry hpath hread).trans
    exact congrArg Value.text (by decide)
  refine ⟨hquery, ?_, ?_⟩
  · rw [hquery]
    intro h
    exact absurd (Value.text.inj h) (by decide)
  · apply (evaluate_jsonQuery_member hregistry hpath hread').trans
    exact congrArg Value.text (by decide)

end Expr

end FieldFormula
