import FieldFormula.Call
import FieldFormula.Text.Search
import FieldFormula.Unicode.Case

/-!
# The registry of functions

A registry holds definitions of functions in the order of their names, at most one for
each name.  A name is looked up in upper case, so names are found in any case as long as
they are registered in upper case.
-/

namespace FieldFormula

/-- How far a function is available without a server behind it. -/
inductive Availability where
  | complete
  | limited
  | absent
  deriving DecidableEq, Repr

namespace Availability

/-- The word for an availability. -/
def word : Availability → String
  | .complete => "implemented"
  | .limited => "partial"
  | .absent => "not-implemented"

/-- The availability that a word names, in any case, or else the word in lower case. -/
def ofWord (s : String) : Except String Availability :=
  let lower := String.ofList (s.toList.map Char.toLower)
  match lower with
  | "implemented" => .ok .complete
  | "partial" => .ok .limited
  | "not-implemented" | "not_implemented" | "notimplemented" => .ok .absent
  | _ => .error lower

/-- The message for a word that names no availability. -/
def unknownMessage (lower : String) : String :=
  "unknown implementation status: " ++ lower

end Availability

/-- A function: its name, the names of its parameters, texts that describe it, how far it
is available, and what it does if anything. -/
structure Definition where
  name : String
  params : List String
  description : String
  sample : String
  availability : Availability
  action : Option Action

/-- A model of a call, such as `=LEFT(Count; Value)`. -/
def Definition.usage (d : Definition) : String :=
  String.ofList (['='] ++ d.name.toList ++ ['('] ++
    Text.join [';', ' '] (d.params.map String.toList) ++ [')'])

/-- The definitions of functions, in the order of their names, at most one for each name. -/
structure Registry where
  definitions : List Definition
  increasing : definitions.Pairwise (·.name < ·.name)

/-- The numbers of functions of each availability. -/
structure Summary where
  complete : Nat
  limited : Nat
  absent : Nat
  deriving DecidableEq, Repr

/-- The number of all functions. -/
def Summary.total (s : Summary) : Nat :=
  s.complete + s.limited + s.absent

namespace Registry

/-- The registry without functions. -/
def empty : Registry := ⟨[], .nil⟩

/-- Puts a definition among others in the order of names, in place of one of its name. -/
def insertSorted (d : Definition) : List Definition → List Definition
  | [] => [d]
  | e :: es =>
    if e.name < d.name then e :: insertSorted d es
    else if e.name = d.name then d :: es
    else d :: e :: es

theorem eq_or_mem_of_mem_insertSorted {d e : Definition} {ds : List Definition}
    (h : e ∈ insertSorted d ds) :
  e = d ∨ e ∈ ds
  := by
  fun_induction insertSorted d ds <;> grind

/-- Between names that increase, a definition is put where the names still increase. -/
theorem pairwise_insertSorted (d : Definition) {ds : List Definition}
    (h : ds.Pairwise (·.name < ·.name)) :
  (insertSorted d ds).Pairwise (·.name < ·.name)
  := by
  fun_induction insertSorted d ds with
  | case1 => apply List.pairwise_singleton
  | case2 e es hlt ih =>
    rw [List.pairwise_cons] at h ⊢
    refine ⟨?_, ih h.2⟩
    intro f hf
    obtain rfl | hf := eq_or_mem_of_mem_insertSorted hf
    · exact hlt
    · exact h.1 f hf
  | case3 e es _ heq =>
    rw [List.pairwise_cons] at h ⊢
    rwa [← heq]
  | case4 e es hnlt hne =>
    have hlt : d.name < e.name := by
      apply Decidable.byContradiction
      intro hnlt'
      apply hne
      apply String.le_antisymm (String.not_lt.mp hnlt') (String.not_lt.mp hnlt)
    rw [List.pairwise_cons]
    refine ⟨?_, h⟩
    intro f hf
    obtain rfl | hf := List.mem_cons.mp hf
    · exact hlt
    · exact String.lt_trans hlt ((List.pairwise_cons.mp h).1 f hf)

/-- The registry with a definition added, which replaces one of the same name. -/
def register (r : Registry) (d : Definition) : Registry :=
  ⟨insertSorted d r.definitions, pairwise_insertSorted d r.increasing⟩

/-- The registry of the given definitions, added one after the other. -/
def ofList (ds : List Definition) : Registry :=
  ds.foldl register empty

/-- The names of all functions, in order. -/
def names (r : Registry) : List String :=
  r.definitions.map (·.name)

theorem pairwise_names (r : Registry) :
  r.names.Pairwise (· < ·)
  := List.pairwise_map.mpr r.increasing

/-- The number of functions. -/
def size (r : Registry) : Nat :=
  r.definitions.length

/-- A name as it is looked up. -/
def key (name : String) : String :=
  String.ofList (Unicode.toUpper name.toList)

/-- The definition that a name finds. -/
def get? (r : Registry) (name : String) : Option Definition :=
  let k := key name
  r.definitions.find? (·.name == k)

/-- Whether a name finds a definition. -/
def contains (r : Registry) (name : String) : Bool :=
  (r.get? name).isSome

/-- The model of a call of the function that a name finds. -/
def usage? (r : Registry) (name : String) : Option String :=
  (r.get? name).map Definition.usage

/-- The number of functions of an availability. -/
def count (r : Registry) (a : Availability) : Nat :=
  r.definitions.countP (·.availability == a)

/-- The numbers of functions of each availability. -/
def summary (r : Registry) : Summary :=
  ⟨r.count .complete, r.count .limited, r.count .absent⟩

end Registry

end FieldFormula
