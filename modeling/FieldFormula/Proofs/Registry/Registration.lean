import FieldFormula.Proofs.Registry.Lookup

/-!
# Registered functions

A registry lists the names of all definitions that were added to it, and holds the last definition
of each.  It looks a name up in upper case.  So of the names that it lists, it finds those that are
in upper case, each with its last definition.

* `mem_names_foldl_register`: the names that are listed after definitions were added.
* `get?_eq_latest?_iff`: the listed names that are found.
-/

namespace FieldFormula.Registry

/-! ### Listed names -/

theorem mem_names_register {r : Registry} {d : Definition} {name : String} :
  name ∈ (r.register d).names ↔ name = d.name ∨ name ∈ r.names
  := by
  rw [names, names, register]
  dsimp only
  fun_induction insertSorted d r.definitions <;> grind

theorem mem_names_foldl_register {r : Registry} {ds : List Definition} {name : String} :
  name ∈ (ds.foldl register r).names ↔ name ∈ ds.map (·.name) ∨ name ∈ r.names
  := by
  induction ds generalizing r with
  | nil => simp
  | cons d ds ih =>
    rw [List.foldl_cons, ih, mem_names_register, List.map_cons, List.mem_cons, or_left_comm,
      or_assoc]

/-- A name has a last definition if and only if it is listed, where the built-in functions come
before those that are added. -/
theorem isSome_or_latest?_iff (ds : List Definition) (name : String) :
  ((latest? ds name).or (latest? builtinDefinitions name)).isSome
    ↔ name ∈ (ds.foldl register builtin).names
  := by
  have hempty : name ∉ empty.names := List.not_mem_nil
  rw [mem_names_foldl_register, builtin, ofList, mem_names_foldl_register, or_iff_left hempty,
    Option.isSome_or, Bool.or_eq_true, isSome_latest?_iff, isSome_latest?_iff]
  rfl

/-! ### Names that are found -/

/-- A name finds the last definition of its form in upper case. -/
theorem get?_foldl_register_builtin (ds : List Definition) (name : String) :
  (ds.foldl register builtin).get? name
    = (latest? ds (key name)).or (latest? builtinDefinitions (key name))
  := by
  rw [get?_foldl_register, builtin, ofList, get?_foldl_register]
  exact congrArg _ Option.or_none

/-- Of the names that a registry lists, those in upper case are found, and no other one is found
with its own definition: whatever is added to the built-in functions, a listed name finds the last
definition that was added under it, or else the built-in one, and has the model of a call, if and
only if it is its own form in upper case. -/
theorem get?_eq_latest?_iff (ds : List Definition) {name : String}
    (h : name ∈ (ds.foldl register builtin).names) :
  (ds.foldl register builtin).contains name = true
      ∧ (ds.foldl register builtin).get? name
        = (latest? ds name).or (latest? builtinDefinitions name)
      ∧ ((ds.foldl register builtin).usage? name).isSome
    ↔ key name = name
  := by
  have hsome := (isSome_or_latest?_iff ds name).mpr h
  constructor
  · rintro ⟨-, hget, -⟩
    obtain ⟨d, hd⟩ := Option.isSome_iff_exists.mp hsome
    have hname : d.name = name := by
      obtain hlast | ⟨-, hlast⟩ := Option.or_eq_some_iff.mp hd
      · apply name_of_latest? hlast
      · apply name_of_latest? hlast
    rw [hd] at hget
    rw [← name_of_get? hget, hname]
  · intro hkey
    have hget := get?_foldl_register_builtin ds name
    rw [hkey] at hget
    rw [contains, usage?, Option.isSome_map, hget]
    exact ⟨hsome, rfl, hsome⟩

/-- A function that replaces a built-in one is found, also after others whose names are not in upper
case. -/
theorem get?_eq_latest?_iff_replaced :
  let d : Definition := ⟨"LEFT", ["Value"], "Returns its value.", "", .complete, none⟩
  let r := [d, ⟨"left", [], "", "", .absent, none⟩, ⟨"ÄHNLICH", [], "", "", .absent, none⟩].foldl
    register builtin
  r.contains "LEFT" = true ∧ (r.get? "LEFT").map (·.description) = some "Returns its value."
    ∧ (r.usage? "LEFT").isSome
  := by
  intro d r
  have hlisted : "LEFT" ∈ r.names := mem_names_foldl_register.mpr (Or.inl (by decide +kernel))
  obtain ⟨hcontains, hget, husage⟩ :=
    (get?_eq_latest?_iff _ hlisted).mpr (by decide +kernel)
  refine ⟨hcontains, ?_, husage⟩
  rw [hget]
  rfl

/-- A function whose name is not in upper case is listed, but not found. -/
theorem contains_lowerCase :
  let r := [(⟨"double", ["X"], "", "", .complete, none⟩ : Definition)].foldl register builtin
  "double" ∈ r.names ∧ r.contains "double" = false ∧ (r.get? "double").isNone
    ∧ r.usage? "double" = none
  := by
  intro r
  have hget : r.get? "double" = none := by
    rw [get?_foldl_register_builtin, Option.or_eq_none_iff, ← Option.not_isSome_iff_eq_none,
      isSome_latest?_iff, ← Option.not_isSome_iff_eq_none, isSome_latest?_iff]
    decide +kernel
  refine ⟨mem_names_foldl_register.mpr (Or.inl (List.mem_singleton.mpr rfl)), ?_, ?_, ?_⟩
  · rw [contains, hget]
    rfl
  · rw [hget]
    rfl
  · rw [usage?, hget]
    rfl

end FieldFormula.Registry
