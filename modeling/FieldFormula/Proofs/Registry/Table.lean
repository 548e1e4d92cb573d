import FieldFormula.Proofs.Registry.Registration
import Mathlib.Data.List.Count
import Mathlib.Data.String.Basic

/-!
# Registries as tables

Whatever definitions are added to a registry one after the other, it stays a table of them: there
is one definition for each name, and this is the last one that was added under the name.  One more definition changes one row of the table, so its history alone says what
the table holds, how many definitions there are, and of which availability.

* `IsTableOf`: a registry is the table of a history of definitions.
* `IsTableOf.register`: one more definition is added to the history.
* `isTableOf_foldl_register`: any number of them.
* `foldl_register_builtin`: what the table holds when definitions are added to the built-in ones.
-/

namespace FieldFormula.Registry

/-! ### Tables -/

/-- Each name has the definition that comes last in the history among those of that name. -/
def IsTableOf (r : Registry) (history : List Definition) : Prop :=
  ∀ name, r.definitions.find? (·.name == name) = latest? history name

theorem isTableOf_empty : empty.IsTableOf [] :=
  fun _ => rfl

namespace IsTableOf

variable {r : Registry} {history : List Definition} (h : r.IsTableOf history)

include h

/-- One more definition is added to the history. -/
theorem register (d : Definition) :
  (r.register d).IsTableOf (history ++ [d])
  := by
  intro name
  rw [latest?_concat, ← h name]
  apply find?_insertSorted

/-- The names are those of the definitions in the history. -/
theorem mem_names_iff {name : String} :
  name ∈ r.names ↔ name ∈ history.map (·.name)
  := by
  rw [← isSome_latest?_iff, ← h name]
  simp [names, List.find?_isSome]

/-- A definition of the table is the last one of its name. -/
theorem latest?_of_mem {d : Definition} (hd : d ∈ r.definitions) :
  latest? history d.name = some d
  := by
  have hnodup : (r.definitions.map (·.name)).Nodup := r.pairwise_names.imp ne_of_lt
  obtain ⟨e, he⟩ := Option.isSome_iff_exists.mp
    ((isSome_latest?_iff history d.name).mpr (h.mem_names_iff.mp (List.mem_map_of_mem hd)))
  have hmem : e ∈ r.definitions := by
    rw [← h d.name] at he
    exact List.mem_of_find?_eq_some he
  rw [he, List.inj_on_of_nodup_map hnodup hmem hd (name_of_latest? he)]

/-- Each name has one definition, the last one of that name. -/
theorem map_some_definitions :
  r.definitions.map some = r.names.map (latest? history)
  := by
  rw [names, List.map_map]
  apply List.map_congr_left
  intro d hd
  exact (h.latest?_of_mem hd).symm

/-- The definitions of an availability are as many as the names whose last definition has it. -/
theorem count_eq (a : Availability) :
  r.count a = r.names.countP fun name => (latest? history name).any (·.availability == a)
  := by
  rw [count, names, List.countP_map]
  apply List.countP_congr
  intro d hd
  rw [Function.comp, h.latest?_of_mem hd, Option.any_some]

/-- A name finds the definition of its form in upper case, if this is listed. -/
theorem exists_get?_eq_some {name : String} (hlisted : key name ∈ r.names) :
  ∃ d ∈ r.definitions, d.name = key name ∧ r.get? name = some d
  := by
  obtain ⟨d, hd, hname⟩ := List.mem_map.mp hlisted
  use d, hd, hname
  rw [get?, h (key name), ← hname, h.latest?_of_mem hd]

/-- A name finds nothing if its form in upper case is not listed. -/
theorem get?_eq_none {name : String} (hlisted : key name ∉ r.names) :
  r.get? name = none
  := by
  rw [get?, h (key name), ← Option.not_isSome_iff_eq_none, isSome_latest?_iff, ← h.mem_names_iff]
  exact hlisted

end IsTableOf

theorem isTableOf_foldl_register {r : Registry} {history : List Definition}
    (h : r.IsTableOf history) (ds : List Definition) :
  (ds.foldl register r).IsTableOf (history ++ ds)
  := by
  induction ds using List.reverseRecOn with
  | nil => rwa [List.foldl_nil, List.append_nil]
  | append_singleton ds d ih =>
    rw [List.foldl_concat, ← List.append_assoc]
    apply ih.register

/-! ### Numbers of definitions -/

/-- Each definition has one of the availabilities. -/
theorem total_summary (r : Registry) :
  r.summary.total = r.size
  := by
  rw [summary, Summary.total, size]
  simp only [count]
  induction r.definitions with
  | nil => rfl
  | cons d ds ih =>
    simp only [List.countP_cons, List.length_cons, ← ih]
    cases d.availability <;> simp <;> omega

/-- When definitions are added to the built-in ones, in any number and under any names, the registry
lists the names of all of them, each one once and in increasing order.  It holds one definition for
each name, the last one that was added under it, and counts them by the availability of these.  A
text finds the definition whose name is its form in upper case, and nothing if there is none. -/
theorem foldl_register_builtin (ds : List Definition) :
  let history := builtinDefinitions ++ ds
  let r := ds.foldl register builtin
  let number := fun a =>
    r.names.countP fun name => (latest? history name).any (·.availability == a)
  r.names.Pairwise (· < ·)
    ∧ (∀ name, name ∈ r.names ↔ name ∈ history.map (·.name))
    ∧ r.definitions.map (·.name) = r.names
    ∧ r.definitions.map some = r.names.map (latest? history)
    ∧ r.size = r.names.length
    ∧ r.summary = ⟨number .complete, number .limited, number .absent⟩
    ∧ r.summary.total = r.size
    ∧ ∀ name,
      (key name ∈ r.names →
          ∃ d ∈ r.definitions, d.name = key name ∧ r.get? name = some d)
        ∧ (key name ∉ r.names → r.get? name = none)
  := by
  intro history r number
  have hbuiltin : builtin.IsTableOf builtinDefinitions :=
    isTableOf_foldl_register isTableOf_empty builtinDefinitions
  have h : r.IsTableOf history := isTableOf_foldl_register hbuiltin ds
  refine ⟨r.pairwise_names, ?listed, rfl, h.map_some_definitions, ?size, ?counts, total_summary r,
    ?found⟩
  case listed => exact fun name => h.mem_names_iff
  case size => rw [size, names, List.length_map]
  case counts => simp only [summary, h.count_eq, number]
  case found => exact fun name => ⟨h.exists_get?_eq_some, h.get?_eq_none⟩

end FieldFormula.Registry
