import FieldFormula.Evaluation
import FieldFormula.Registry.Builtin
import Mathlib.Tactic.Use

/-!
# Draws

The function of random numbers is the only built-in one whose result depends on the draw of
a call.  Where a formula does not call it, its value depends on the fields alone.

* `Registry.ignoresDraw_or_isRandom`: all other built-in functions ignore the draw.
* `Context.apply_congr`: they give the same result in all contexts of one registry.
-/

namespace FieldFormula

/-- The result of an action is the same for every draw. -/
def Action.IgnoresDraw (act : Action) : Prop :=
  ∀ args draw draw', act ⟨args, draw⟩ = act ⟨args, draw'⟩

/-- What a function does, if anything, ignores the draw. -/
def Definition.IgnoresDraw (d : Definition) : Prop :=
  ∀ act, d.action = some act → act.IgnoresDraw

/-- The function of random numbers under its name. -/
def Definition.IsRandom (d : Definition) : Prop :=
  d.name = "RANDOMNUM" ∧ d.action = some Library.randomNum

theorem not_ignoresDraw_randomNum : ¬ Action.IgnoresDraw Library.randomNum := by
  intro h
  have hdraws : Library.randomNum ⟨[], 0.0⟩ ≠ Library.randomNum ⟨[], 1.0⟩ := by
    rw [Library.randomNum, Library.randomNum, Ne, Value.number.injEq]
    decide +kernel
  apply hdraws (h [] 0.0 1.0)

section

variable {name description sample : String} {params : List String} {availability : Availability}
  {ds : List Definition}

/-- A function whose action ignores the draw, before others. -/
theorem forall_ignoresDraw_some {act : Action} (h : act.IgnoresDraw)
    (hds : ∀ d ∈ ds, d.IgnoresDraw ∨ d.IsRandom) :
  ∀ d ∈ (⟨name, params, description, sample, availability, some act⟩ : Definition) :: ds,
    d.IgnoresDraw ∨ d.IsRandom
  := by
  rw [List.forall_mem_cons]
  use .inl ?_, hds
  rintro _ ⟨⟩
  apply h

/-- A function without an action, before others. -/
theorem forall_ignoresDraw_none (hds : ∀ d ∈ ds, d.IgnoresDraw ∨ d.IsRandom) :
  ∀ d ∈ (⟨name, params, description, sample, availability, none⟩ : Definition) :: ds,
    d.IgnoresDraw ∨ d.IsRandom
  := by
  rw [List.forall_mem_cons]
  use .inl ?_, hds
  rintro _ ⟨⟩

end

namespace Registry

theorem mem_of_mem_foldl_register {d : Definition} {ds : List Definition} {r : Registry}
    (h : d ∈ (ds.foldl register r).definitions) :
  d ∈ r.definitions ∨ d ∈ ds
  := by
  induction ds generalizing r with
  | nil => exact .inl h
  | cons e ds ih =>
    obtain hr | hds := ih h
    · obtain rfl | hr := eq_or_mem_of_mem_insertSorted hr
      · exact .inr List.mem_cons_self
      · exact .inl hr
    · exact .inr (List.mem_cons_of_mem e hds)

theorem mem_of_mem_ofList {d : Definition} {ds : List Definition}
    (h : d ∈ (ofList ds).definitions) :
  d ∈ ds
  := by
  obtain h | h := mem_of_mem_foldl_register h
  · contradiction
  · apply h

section

-- two calls are compared without reading their arguments as dates
attribute [local irreducible] Calendar.DateTime.ofText?

/-- A built-in function is that of random numbers, or it ignores the draw. -/
theorem ignoresDraw_or_isRandom {d : Definition} (hd : d ∈ builtin.definitions) :
  d.IgnoresDraw ∨ d.IsRandom
  := by
  have h := mem_of_mem_ofList hd
  clear hd
  revert d
  simp only [List.forall_mem_append, and_assoc]
  refine ⟨?text, ?arithmetic, ?number, ?truth, ?list, ?date, ?json, ?pattern, ?server⟩
  case number =>
    repeat apply forall_ignoresDraw_some fun _ _ _ => rfl
    rw [List.forall_mem_cons]
    use .inr ⟨rfl, rfl⟩
    repeat apply forall_ignoresDraw_some fun _ _ _ => rfl
    simp
  case server =>
    repeat apply forall_ignoresDraw_none
    simp
  all_goals
    repeat apply forall_ignoresDraw_some fun _ _ _ => rfl
    simp

end

theorem mem_of_get? {r : Registry} {name : String} {d : Definition} (h : r.get? name = some d) :
  d ∈ r.definitions
  := List.mem_of_find?_eq_some h

theorem name_of_get? {r : Registry} {name : String} {d : Definition} (h : r.get? name = some d) :
  d.name = key name
  := by
  have hfound := List.find?_some h
  simpa using hfound

/-- Whatever functions of the registry do, built-in ones do, under the same or another name. -/
def HasBuiltinActions (r : Registry) : Prop :=
  ∀ d ∈ r.definitions, ∀ act, d.action = some act →
    ∃ b ∈ builtin.definitions, b.action = some act

theorem hasBuiltinActions_builtin : builtin.HasBuiltinActions :=
  fun d hd _ hact => ⟨d, hd, hact⟩

/-- The name finds a function that does what that of random numbers does. -/
def FindsRandom (r : Registry) (name : String) : Prop :=
  ∃ d, r.get? name = some d ∧ d.action = some Library.randomNum

/-- Among the built-in functions, only one name finds that of random numbers. -/
theorem key_of_findsRandom_builtin {name : String} (h : builtin.FindsRandom name) :
  key name = "RANDOMNUM"
  := by
  obtain ⟨d, hget, hact⟩ := h
  obtain hdraw | hrandom := ignoresDraw_or_isRandom (mem_of_get? hget)
  · apply (not_ignoresDraw_randomNum (hdraw _ hact)).elim
  · rw [← name_of_get? hget, hrandom.1]

theorem ignoresDraw_of_get? {r : Registry} (hr : r.HasBuiltinActions) {name : String}
    (hname : ¬ r.FindsRandom name) {d : Definition} (hget : r.get? name = some d) :
  d.IgnoresDraw
  := by
  intro act hact
  obtain ⟨b, hb, hbact⟩ := hr d (mem_of_get? hget) act hact
  obtain hdraw | hrandom := ignoresDraw_or_isRandom hb
  · apply hdraw act hbact
  · rw [hrandom.2] at hbact
    apply (hname ⟨d, hget, hact.trans hbact.symm⟩).elim

end Registry

/-- A call that finds no random numbers gives the same result in all contexts of a registry. -/
theorem Context.apply_congr {r : Registry} (hr : r.HasBuiltinActions) {name : String}
    (hname : ¬ r.FindsRandom name) (args : List Value) (fields fields' : Option FieldMap)
    (draw draw' : Float) :
  apply ⟨r, fields, draw⟩ name args = apply ⟨r, fields', draw'⟩ name args
  := by
  rw [apply, apply]
  cases hget : r.get? name with
  | none => rfl
  | some d =>
    have hdraw := Registry.ignoresDraw_of_get? hr hname hget
    cases hact : d.action with
    | none => simp only [hact]
    | some act => simp only [hact, hdraw act hact args draw draw']

end FieldFormula
