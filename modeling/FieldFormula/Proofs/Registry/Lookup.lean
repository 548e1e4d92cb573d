import FieldFormula.Proofs.Evaluation.Draws
import Mathlib.Data.List.Induction
import Mathlib.Data.List.Nodup

/-!
# Functions that names find

A definition that is added to a registry is found under its name, and hides none of another
name.  So a registry made of definitions of different names finds them all, as long as the
names are in upper case, and this is the case for the built-in functions.

* `get?_register`: what a name finds after a definition is added.
* `get?_foldl_register`: what it finds after several are added.
* `get?_ofList`: definitions of different names are all found.
* `get?_builtin`: every built-in function is found under its name.
* `Expr.evaluate_call_of_offers`: the value of a call of a function that the name finds.
* `Expr.evaluate_call`: the value of a call of a built-in function.
-/

namespace FieldFormula

namespace Registry

/-! ### Adding definitions -/

theorem find?_insertSorted (d : Definition) (ds : List Definition) (k : String) :
  (insertSorted d ds).find? (·.name == k)
    = if d.name = k then some d else ds.find? (·.name == k)
  := by
  by_cases hk : d.name = k
  · rw [if_pos hk]
    fun_induction insertSorted d ds with
    | case2 e es hlt ih =>
      have hne : e.name ≠ k := by
        rintro rfl
        rw [hk] at hlt
        apply String.lt_irrefl _ hlt
      rw [List.find?_cons_of_neg (by simpa using hne), ih]
    | _ => rw [List.find?_cons_of_pos (by simpa using hk)]
  · have hskip : ∀ es, (d :: es).find? (·.name == k) = es.find? (·.name == k) := by
      intro es
      apply List.find?_cons_of_neg
      simpa using hk
    rw [if_neg hk]
    fun_induction insertSorted d ds with
    | case1 => apply hskip
    | case2 e es _ ih => rw [List.find?_cons, ih, List.find?_cons]
    | case3 e es _ heq =>
      rw [hskip, List.find?_cons_of_neg]
      simpa [heq] using hk
    | case4 e es => apply hskip

/-- A name finds the definition that was added if it is its name, and else what it found
before. -/
theorem get?_register (r : Registry) (d : Definition) (name : String) :
  (r.register d).get? name = if d.name = key name then some d else r.get? name
  := find?_insertSorted d r.definitions (key name)

/-! ### Adding definitions one after the other -/

/-- The definition of a name that stands last in a list. -/
def latest? (ds : List Definition) (name : String) : Option Definition :=
  ds.reverse.find? (·.name == name)

theorem latest?_concat (ds : List Definition) (d : Definition) (name : String) :
  latest? (ds ++ [d]) name = if d.name = name then some d else latest? ds name
  := by
  rw [latest?, List.reverse_append, List.reverse_singleton, List.singleton_append]
  split
  · next h => rw [List.find?_cons_of_pos (by simpa using h)]
  · next h => rw [List.find?_cons_of_neg (by simpa using h), latest?]

theorem name_of_latest? {ds : List Definition} {name : String} {d : Definition}
    (h : latest? ds name = some d) :
  d.name = name
  := by
  have hfound := List.find?_some h
  simpa using hfound

theorem isSome_latest?_iff (ds : List Definition) (name : String) :
  (latest? ds name).isSome ↔ name ∈ ds.map (·.name)
  := by
  simp [latest?, List.find?_isSome]

/-- A definition whose name no other one has is the last one of its name. -/
theorem latest?_of_mem {ds : List Definition} (hnodup : (ds.map (·.name)).Nodup) {d : Definition}
    (hd : d ∈ ds) :
  latest? ds d.name = some d
  := by
  obtain ⟨e, he⟩ := Option.isSome_iff_exists.mp
    ((isSome_latest?_iff ds d.name).mpr (List.mem_map_of_mem hd))
  have hmem : e ∈ ds := List.mem_reverse.mp (List.mem_of_find?_eq_some he)
  rw [he, List.inj_on_of_nodup_map hnodup hmem hd (name_of_latest? he)]

/-- A name finds the last one of the definitions that were added under its form in upper case, and
if there is none, what it found before. -/
theorem get?_foldl_register (r : Registry) (ds : List Definition) (name : String) :
  (ds.foldl register r).get? name = (latest? ds (key name)).or (r.get? name)
  := by
  induction ds using List.reverseRecOn with
  | nil => rfl
  | append_singleton ds d ih =>
    rw [List.foldl_concat, get?_register, latest?_concat, ih]
    split <;> rfl

/-- Definitions of different names are all found, as long as their names are in upper case. -/
theorem get?_ofList {ds : List Definition} (hnodup : (ds.map (·.name)).Nodup)
    {d : Definition} (hd : d ∈ ds) (hkey : key d.name = d.name) :
  (ofList ds).get? d.name = some d
  := by
  rw [ofList, get?_foldl_register, hkey, latest?_of_mem hnodup hd, Option.some_or]

/-! ### Names in upper case -/

theorem forall_le_first_upperRuns : ∀ r ∈ Unicode.upperRuns.toList, 97 ≤ r.first := by
  decide +kernel

theorem forall_le_upperExpansions : ∀ p ∈ Unicode.upperExpansions.toList, 97 ≤ p.1 := by
  decide +kernel

/-- No character before the small letters has another upper-case form. -/
theorem upperForm_of_lt {c : Char} (hc : c.toNat < 97) :
  Unicode.upperForm c = [c]
  := by
  have hruns : Unicode.applyRuns? Unicode.upperRuns c.toNat = none := by
    rw [Unicode.applyRuns?, Array.findSome?_eq_none_iff]
    intro r hr
    have hfirst := forall_le_first_upperRuns r (Array.mem_toList_iff.mpr hr)
    apply if_neg
    omega
  have hexpansions : Unicode.upperExpansions.find? (·.1 == c.toNat) = none := by
    rw [Array.find?_eq_none]
    intro p hp
    have hfirst := forall_le_upperExpansions p (Array.mem_toList_iff.mpr hp)
    simp only [beq_iff_eq]
    omega
  unfold Unicode.upperForm
  split
  · next heq => cases hruns.symm.trans heq
  · split
    · next heq => cases hexpansions.symm.trans heq
    · rfl

theorem toUpper_eq_self {s : List Char} (h : ∀ c ∈ s, c.toNat < 97) :
  Unicode.toUpper s = s
  := by
  induction s with
  | nil => rfl
  | cons c s ih =>
    rw [List.forall_mem_cons] at h
    rw [Unicode.toUpper, List.flatMap_cons, upperForm_of_lt h.1, ← Unicode.toUpper, ih h.2]
    rfl

/-- A name of capitals, digits and the like is looked up as it stands. -/
theorem key_eq_self {name : String} (h : ∀ c ∈ name.toList, c.toNat < 97) :
  key name = name
  := by
  rw [key, toUpper_eq_self h, String.ofList_toList]

/-! ### The built-in functions -/

/-- The definitions that the registry of built-in functions is made of. -/
def builtinDefinitions : List Definition :=
  textFunctions ++ arithmeticFunctions ++ numberFunctions ++ truthFunctions ++
    listFunctions ++ dateFunctions ++ jsonFunctions ++ patternFunctions ++ serverFunctions

theorem nodup_names_builtin : (builtinDefinitions.map (·.name)).Nodup := by
  decide +kernel

theorem all_lt_names_builtin :
  builtinDefinitions.all (·.name.toList.all (·.toNat < 97)) = true
  := by
  decide +kernel

/-- Every built-in function is found under its name. -/
theorem get?_builtin {d : Definition} (hd : d ∈ builtinDefinitions) :
  builtin.get? d.name = some d
  := by
  have hkey : key d.name = d.name := by
    apply key_eq_self
    intro c hc
    have hname := List.all_eq_true.mp all_lt_names_builtin d hd
    apply of_decide_eq_true (List.all_eq_true.mp hname c hc)
  apply get?_ofList nodup_names_builtin hd hkey

/-- What the built-in function of a name does, if it is available. -/
def builtinAction? (name : String) : Option Action :=
  (builtinDefinitions.find? fun d => d.name == name && d.availability != .absent).bind (·.action)

end Registry

namespace Context

/-- A call of a function that is available does what the function does. -/
theorem apply_of_get? {r : Registry} {name : String} {d : Definition} {act : Action}
    (hget : r.get? name = some d) (hact : d.action = some act)
    (havailable : d.availability ≠ .absent) (fields : Option FieldMap) (draw : Float)
    (args : List Value) :
  apply ⟨r, fields, draw⟩ name args = act ⟨args, draw⟩
  := by
  rw [apply, hget]
  simp only [hact, if_neg havailable]

end Context

/-- The name finds a function that is available and does what the action says. -/
def Registry.Offers (r : Registry) (name : String) (act : Action) : Prop :=
  ∃ d, r.get? name = some d ∧ d.action = some act ∧ d.availability ≠ .absent

theorem Registry.offers_builtin {name : String} {act : Action}
    (hact : builtinAction? name = some act) :
  builtin.Offers name act
  := by
  obtain ⟨d, hfind, haction⟩ := Option.bind_eq_some_iff.mp hact
  obtain ⟨rfl, havailable⟩ : d.name = name ∧ d.availability ≠ .absent := by
    have hfound := List.find?_some hfind
    simpa using hfound
  use d, get?_builtin (List.mem_of_find?_eq_some hfind), haction, havailable

/-- The value of a call, by what the function does that the name finds. -/
theorem Expr.evaluate_call_of_offers {ctx : Context} {name : String} {act : Action}
    (h : ctx.registry.Offers name act) (args : List Expr) :
  evaluate ctx (.call name args) = act ⟨evaluateAll ctx args, ctx.draw⟩
  := by
  obtain ⟨d, hget, hact, havailable⟩ := h
  rw [evaluate]
  apply Context.apply_of_get? hget hact havailable

/-- The value of a call of a built-in function, by what the function does. -/
theorem Expr.evaluate_call {ctx : Context} (hregistry : ctx.registry = .builtin) (name : String)
    (act : Action) (hact : Registry.builtinAction? name = some act) (args : List Expr) :
  evaluate ctx (.call name args) = act ⟨evaluateAll ctx args, ctx.draw⟩
  := by
  apply evaluate_call_of_offers
  rw [hregistry]
  apply Registry.offers_builtin hact

end FieldFormula
