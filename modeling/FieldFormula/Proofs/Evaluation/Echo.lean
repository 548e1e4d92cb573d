import FieldFormula.Compile
import FieldFormula.Proofs.Expr.Machine
import FieldFormula.Proofs.Token.Writing

/-!
# Formulas that are one field

A name in double brackets is a formula by itself.  Its text is the value of the field, or else
the source, whatever brackets, quotation marks and slashes the name holds, as long as the
closing pair of brackets is the first one.

* `Token.ofSource_echo`: the name in double brackets is one token.
* `compile_echo`: its text is the value of the field, or else the source.
-/

namespace FieldFormula

namespace Token

/-- Where no bracket ends the name, the name of a field ends at the first closing pair. -/
theorem splitField_close {name : List Char} (h : ¬ [']', ']'] <:+: name)
    (hlast : name.getLast? ≠ some ']') (rest : List Char) :
  splitField (name ++ ']' :: ']' :: rest) = (name, rest)
  := by
  induction name with
  | nil => rfl
  | cons c name ih =>
    rw [List.infix_cons_iff, not_or] at h
    -- a bracket at the front has no other behind it, neither in the name nor after it
    have hopen : ∀ r, c = ']' → name ++ ']' :: ']' :: rest = ']' :: r → False := by
      rintro r rfl hr
      cases name with
      | nil => simp at hlast
      | cons d name =>
        obtain rfl : d = ']' := (List.cons.inj hr).1
        simp at h
    have hrest : name.getLast? ≠ some ']' := by
      intro hbracket
      apply hlast
      rw [List.getLast?_cons, hbracket]
      rfl
    rw [List.cons_append, splitField.eq_3 _ _ hopen, ih h.2 hrest]

/-- A name in double brackets is one token. -/
theorem ofSource_echo {name : String} (htrim : Text.trim name.toList = name.toList)
    (h : ¬ [']', ']'] <:+: name.toList) (hlast : name.toList.getLast? ≠ some ']') :
  ofSource (Context.echo name) = [.field name]
  := by
  have hsplit := splitField_close h hlast []
  have hnext : next '[' ('[' :: (name.toList ++ [']', ']'])) = (.field name, []) := by
    simp only [next, hsplit, htrim, String.ofList_toList]
  have hchars : (Context.echo name).toList = '[' :: '[' :: (name.toList ++ [']', ']']) := by
    simp [Context.echo]
  rw [ofSource, hchars, ofChars_cons rfl (by simp) hnext, ofChars_nil]

end Token

/-- The text of a field is its value, and that of a field without a value is the source. -/
theorem compile_echo {name : String} (htrim : Text.trim name.toList = name.toList)
    (h : ¬ [']', ']'] <:+: name.toList) (hlast : name.toList.getLast? ≠ some ']')
    (draw : Float) (m : FieldMap) :
  (∀ v, m.get? name = some v → compile draw m ("[[" ++ name ++ "]]") = .ok v)
    ∧ (m.get? name = none →
      compile draw m ("[[" ++ name ++ "]]") = .ok ("[[" ++ name ++ "]]"))
  := by
  have hsource : Expr.ofSource ("[[" ++ name ++ "]]") = .ok (.field name) := by
    rw [Expr.ofSource]
    have htokens := Token.ofSource_echo htrim h hlast
    rw [Context.echo] at htokens
    rw [htokens]
    apply Expr.ofTokens_singleton (by simp)
  rw [compile_eq_ok hsource]
  constructor
  · intro v hv
    simp [Expr.evaluate, Context.fieldText, hv, Value.toText]
  · intro hnone
    simp [Expr.evaluate, Context.fieldText, hnone, Value.toText, Context.echo]

/-- A name with brackets, a quotation mark, two slashes and an equals sign. -/
theorem compile_echo_brackets :
  let name := "a]b [c \"d // =e"
  compile 0.5 [(name, "]]")] ("[[" ++ name ++ "]]") = .ok "]]"
    ∧ compile 0.5 [] ("[[" ++ name ++ "]]") = .ok ("[[" ++ name ++ "]]")
  := by
  intro name
  have htrim : Text.trim name.toList = name.toList := by decide +kernel
  have hclose : ¬ [']', ']'] <:+: name.toList := by decide +kernel
  have hlast : name.toList.getLast? ≠ some ']' := by decide +kernel
  constructor
  · apply (compile_echo htrim hclose hlast 0.5 [(name, "]]")]).1
    decide +kernel
  · apply (compile_echo htrim hclose hlast 0.5 []).2
    rfl

end FieldFormula
