import FieldFormula.Proofs.Evaluation.Draws
import FieldFormula.Proofs.Expr.Fields

/-!
# The fields that a value depends on

The value of a formula is the same in two contexts in which its own fields have the same
texts.  What other fields there are does not matter, nor whether there are any, nor, as long
as the formula calls no random numbers, the draw.

* `evaluate_congr`: the value depends on the texts of the formula's fields alone.
* `fieldText_insert_echo`: a field without a value has the text of its name in brackets.
* `evaluate_eq_of_fieldText`: so contexts give one value when they agree on those texts, whatever
  the fields of other names and the fields without a value.
-/

namespace FieldFormula

/-! ### Field maps -/

namespace FieldMap

theorem get?_insert_self (m : FieldMap) (name value : String) :
  (m.insert name value).get? name = some value
  := by
  simp [insert, get?]

theorem lookup_filter_bne (m : FieldMap) {name other : String} (h : other ≠ name) :
  (m.filter (·.1 != name)).lookup other = m.lookup other
  := by
  induction m with
  | nil => rfl
  | cons pair m ih =>
    obtain ⟨a, b⟩ := pair
    by_cases ha : a = name
    · have hne : (other == a) = false := by simpa [ha] using h
      rw [List.filter_cons_of_neg (by simpa using ha), ih, List.lookup_cons, hne]
    · rw [List.filter_cons_of_pos (by simpa using ha), List.lookup_cons, List.lookup_cons, ih]

theorem get?_insert_of_ne (m : FieldMap) {name other : String} (h : other ≠ name)
    (value : String) :
  (m.insert name value).get? other = m.get? other
  := by
  have hne : (other == name) = false := by simpa using h
  rw [get?, insert, List.lookup_cons, hne, get?, ← lookup_filter_bne m h]

end FieldMap

namespace Context

/-- A field without a value shows the text that it has when it is set to its name in
brackets, and no other field changes. -/
theorem fieldText_insert_echo (r : Registry) {fields : Option FieldMap} {name : String}
    (h : fields.bind (·.get? name) = none) (draw draw' : Float) (other : String) :
  fieldText ⟨r, some ((fields.getD .empty).insert name (echo name)), draw⟩ other
    = fieldText ⟨r, fields, draw'⟩ other
  := by
  by_cases hother : other = name
  · subst hother
    simp [fieldText, h, FieldMap.get?_insert_self]
  · simp only [fieldText, Option.bind_some, FieldMap.get?_insert_of_ne _ hother]
    cases fields <;> rfl

end Context

namespace Expr

/-! ### Calls in a formula -/

mutual

/-- The names of the functions that a formula calls, from left to right. -/
def calls : Expr → List String
  | .literal _ => []
  | .field _ => []
  | .call name args => name :: callsOfAll args
  | .concat parts => callsOfAll parts

/-- The names of the functions that several formulas call, from left to right. -/
def callsOfAll : List Expr → List String
  | [] => []
  | e :: es => calls e ++ callsOfAll es

end

/-- No call in a formula finds the function of random numbers, under whatever name the registry
holds it. -/
def AvoidsRandom (r : Registry) (e : Expr) : Prop :=
  ∀ name ∈ e.calls, ¬ r.FindsRandom name

/-- With the built-in functions, a formula that does not name the function of random numbers
does not find it. -/
theorem avoidsRandom_builtin {e : Expr} (h : ∀ name ∈ e.calls, Registry.key name ≠ "RANDOMNUM") :
  e.AvoidsRandom .builtin
  := by
  intro name hname hrandom
  apply h name hname (Registry.key_of_findsRandom_builtin hrandom)

/-! ### The value depends on the fields of the formula -/

section

variable {r : Registry} {fields fields' : Option FieldMap} {draw draw' : Float}

mutual

theorem evaluate_congr (hr : r.HasBuiltinActions) (e : Expr) (he : e.AvoidsRandom r)
    (h : ∀ name ∈ e.fields,
      Context.fieldText ⟨r, fields, draw⟩ name = Context.fieldText ⟨r, fields', draw'⟩ name) :
  e.evaluate ⟨r, fields, draw⟩ = e.evaluate ⟨r, fields', draw'⟩
  := by
  match e with
  | .literal v => rfl
  | .field name => rw [evaluate, evaluate, h name (List.mem_singleton.mpr rfl)]
  | .call name args =>
    have ⟨hname, hargs⟩ := List.forall_mem_cons.mp he
    rw [evaluate, evaluate, evaluateAll_congr hr args hargs h]
    apply Context.apply_congr hr hname
  | .concat parts => rw [evaluate, evaluate, evaluateAll_congr hr parts he h]

theorem evaluateAll_congr (hr : r.HasBuiltinActions) (es : List Expr)
    (he : ∀ name ∈ callsOfAll es, ¬ r.FindsRandom name)
    (h : ∀ name ∈ fieldsOfAll es,
      Context.fieldText ⟨r, fields, draw⟩ name = Context.fieldText ⟨r, fields', draw'⟩ name) :
  evaluateAll ⟨r, fields, draw⟩ es = evaluateAll ⟨r, fields', draw'⟩ es
  := by
  match es with
  | [] => rfl
  | e :: es =>
    rw [callsOfAll, List.forall_mem_append] at he
    rw [fieldsOfAll, List.forall_mem_append] at h
    rw [evaluateAll, evaluateAll, evaluate_congr hr e he.1 h.1, evaluateAll_congr hr es he.2 h.2]

end

end

/-- The value of a formula depends on the texts of its fields alone.  So fields of other
names do not change it, nor does setting a field without a value to its name in brackets. -/
theorem evaluate_eq_of_fieldText {r : Registry} (hr : r.HasBuiltinActions) {e : Expr}
    (he : e.AvoidsRandom r) :
  (∀ ctx ctx' : Context, ctx.registry = r → ctx'.registry = r →
      (∀ name ∈ e.fields, ctx.fieldText name = ctx'.fieldText name) →
      e.evaluate ctx = e.evaluate ctx')
    ∧ (∀ (m m' : FieldMap) (draw draw' : Float),
      (∀ name ∈ e.fieldNames, m.get? name = m'.get? name) →
      e.evaluate ⟨r, some m, draw⟩ = e.evaluate ⟨r, some m', draw'⟩)
    ∧ ∀ (fields : Option FieldMap) (name : String) (draw draw' : Float),
      fields.bind (·.get? name) = none →
      e.evaluate ⟨r, some ((fields.getD .empty).insert name (Context.echo name)), draw⟩
        = e.evaluate ⟨r, fields, draw'⟩
  := by
  refine ⟨?_, ?_, ?_⟩
  · rintro ⟨_, fields, draw⟩ ⟨_, fields', draw'⟩ rfl rfl h
    apply evaluate_congr hr e he h
  · intro m m' draw draw' h
    apply evaluate_congr hr e he
    intro name hname
    have hvalue := h name (mem_sortedNames.mpr hname)
    simp only [Context.fieldText, Option.bind_some, hvalue]
  · intro fields name draw draw' h
    apply evaluate_congr hr e he
    intro other _
    apply Context.fieldText_insert_echo r h

/-- A choice between two fields has the same value with and without a third field, and with
and without a value of the field that is not chosen. -/
theorem evaluate_eq_of_fieldText_choice :
  let e : Expr := .call "IF" [.field "A", .field "B", .call "UPPERCASE" [.field "C"]]
  e.evaluate ⟨.builtin, some [("A", "1"), ("B", "yes"), ("C", "[[C]]")], 0.25⟩
      = e.evaluate ⟨.builtin, some [("D", "no"), ("B", "yes"), ("A", "1")], 0.75⟩
    ∧ e.evaluate ⟨.builtin, some [("A", "0"), ("D", "no")], 0.25⟩
      = e.evaluate ⟨.builtin, some [("A", "0")], 0.75⟩
    ∧ e.evaluate ⟨.builtin, some [("C", "[[C]]")], 0.25⟩ = e.evaluate ⟨.builtin, none, 0.75⟩
  := by
  intro e
  have he : e.AvoidsRandom .builtin := avoidsRandom_builtin (by decide +kernel)
  obtain ⟨hcontexts, hmaps, hecho⟩ :=
    evaluate_eq_of_fieldText Registry.hasBuiltinActions_builtin he
  refine ⟨?_, ?_, ?_⟩
  · apply hcontexts ⟨_, _, _⟩ ⟨_, _, _⟩ rfl rfl
    decide +kernel
  · apply hmaps
    have hnames : ∀ name ∈ e.fields, FieldMap.get? [("A", "0"), ("D", "no")] name
      = FieldMap.get? [("A", "0")] name := by decide +kernel
    intro name hname
    apply hnames name (mem_sortedNames.mp hname)
  · have hset : FieldMap.insert .empty "C" (Context.echo "C") = [("C", "[[C]]")] := by
      decide +kernel
    rw [← hset]
    apply hecho none "C" 0.25 0.75 rfl

end Expr

end FieldFormula
