import FieldFormula.Proofs.Evaluation.Items
import FieldFormula.Proofs.Registry.Lookup

/-!
# Item by item

The functions that take a list item by item do to each item what their namesakes do to a text.  A
part of an item holds no semicolon since the item holds none, and so the results are the items of
the list that they are put together to.

* `Library.itemsOf_mapItems`: the results are found again as items.
* `Expr.itemsOf_evaluate_call`: a function on texts and its namesake on lists.
* `Expr.evaluate_itemwise`: all of the functions in a formula.
-/

namespace FieldFormula

namespace Library

variable {f : List Char → List Char} {l : List Char}

/-! ### Results as items -/

/-- Results without semicolons are found again as items, one for each item. -/
theorem itemsOf_mapItems (hf : ∀ i ∈ itemsOf l, ';' ∉ f i) :
  itemsOf (mapItems f l).chars = (itemsOf l).map f
  := by
  rw [mapItems, Value.chars_ofChars, itemsOf_listOf]
  · simpa using itemsOf_ne_nil l
  · simpa using hf

/-- Results that are made of the characters of the items have no semicolons. -/
theorem itemsOf_mapItems_of_subset (hf : ∀ i, f i ⊆ i) (l : List Char) :
  itemsOf (mapItems f l).chars = (itemsOf l).map f
  := by
  apply itemsOf_mapItems
  intro i hi hmem
  apply semicolon_notMem_of_mem_itemsOf hi (hf i hmem)

/-! ### Parts of texts -/

theorem takeLeft_subset (count : Float) (s : List Char) : takeLeft count s ⊆ s :=
  List.take_subset _ s

theorem takeRight_subset (count : Float) (s : List Char) : takeRight count s ⊆ s :=
  List.drop_subset _ s

theorem beforeFirst_subset (marker s : List Char) :
  beforeFirst marker s ⊆ s
  := by
  rw [beforeFirst]
  split
  · next before after hcut =>
    rw [Text.eq_append_of_cut? hcut, List.append_assoc]
    apply List.subset_append_left
  · apply List.Subset.refl

theorem afterFirst_subset (marker s : List Char) :
  afterFirst marker s ⊆ s
  := by
  rw [afterFirst]
  split
  · next before after hcut =>
    rw [Text.eq_append_of_cut? hcut]
    apply List.subset_append_right
  · apply List.nil_subset

end Library

theorem Value.toNumber_ofBool_beq_one (b : Bool) :
  ((Value.ofBool b).toNumber == 1.0) = b
  := by
  cases b <;> decide

/-! ### Formulas -/

namespace Expr

variable {ctx : Context}

/-- A function of lists does to each item what its namesake does to a text, if what is done leaves
only characters of the text. -/
theorem itemsOf_evaluate_call (hregistry : ctx.registry = .builtin) (x l : Expr) (name : String)
    (act itemAct : Action) (f : List Char → List Char)
    (hact : Registry.builtinAction? name = some act)
    (hitemAct : Registry.builtinAction? ("LISTITEM" ++ name) = some itemAct)
    (hf : ∀ v : Value, act ⟨[x.evaluate ctx, v], ctx.draw⟩ = .ofChars (f v.chars))
    (hmap : itemAct ⟨[x.evaluate ctx, l.evaluate ctx], ctx.draw⟩
      = Library.mapItems f (l.evaluate ctx).chars)
    (hsubset : ∀ i, f i ⊆ i) :
  Library.itemsOf (evaluate ctx (.call ("LISTITEM" ++ name) [x, l])).chars
    = (Library.itemsOf (l.evaluate ctx).chars).map fun i =>
      (evaluate ctx (.call name [x, .literal (.ofChars i)])).chars
  := by
  have hitem : ∀ i, evaluate ctx (.call name [x, .literal (.ofChars i)]) = .ofChars (f i) := by
    intro i
    rw [evaluate_call hregistry name act hact]
    have happly := hf (.ofChars i)
    rwa [Value.chars_ofChars] at happly
  have hlist : evaluate ctx (.call ("LISTITEM" ++ name) [x, l])
      = Library.mapItems f (l.evaluate ctx).chars := by
    rw [evaluate_call hregistry _ itemAct hitemAct]
    exact hmap
  simp only [hitem, hlist, Value.chars_ofChars]
  apply Library.itemsOf_mapItems_of_subset hsubset

/-- The items of a list from which parts are taken out are the parts of its items, one for each in
their order.  So are those of a list to whose items a text is added, if that text has no semicolon.
The items that contain a text are those for which the function on texts says so. -/
theorem evaluate_itemwise (hregistry : ctx.registry = .builtin) (x l : Expr) :
  let text := (x.evaluate ctx).chars
  let items (e : Expr) := Library.itemsOf (e.evaluate ctx).chars
  let applied (name : String) (i : List Char) :=
    evaluate ctx (.call name [x, .literal (.ofChars i)])
  (∀ name ∈ ["LEFT", "RIGHT", "LEFTOF", "RIGHTOF"],
      items (.call ("LISTITEM" ++ name) [x, l]) = (items l).map fun i => (applied name i).chars)
    ∧ (';' ∉ text →
      items (.call "LISTITEMAPPEND" [x, l]) = (items l).map (· ++ text)
      ∧ items (.call "LISTITEMPREPEND" [x, l]) = (items l).map (text ++ ·))
    ∧ evaluate ctx (.call "LISTITEMCONTAINS" [x, l])
      = .ofChars (Text.join [';']
        ((items l).filter fun i => (applied "CONTAINS" i).toNumber == 1.0))
  := by
  intro text items applied
  refine ⟨?_, ?_, ?_⟩
  · intro name hname
    simp only [List.mem_cons, List.not_mem_nil, or_false] at hname
    obtain rfl | rfl | rfl | rfl := hname
    · apply itemsOf_evaluate_call hregistry x l "LEFT" Library.left Library.itemLeft
        (Library.takeLeft (x.evaluate ctx).toNumber) rfl rfl (fun _ => rfl) rfl
      apply Library.takeLeft_subset
    · apply itemsOf_evaluate_call hregistry x l "RIGHT" Library.right Library.itemRight
        (Library.takeRight (x.evaluate ctx).toNumber) rfl rfl (fun _ => rfl) rfl
      apply Library.takeRight_subset
    · apply itemsOf_evaluate_call hregistry x l "LEFTOF" Library.leftOf Library.itemLeftOf
        (Library.beforeFirst text) rfl rfl (fun _ => rfl) rfl
      apply Library.beforeFirst_subset
    · apply itemsOf_evaluate_call hregistry x l "RIGHTOF" Library.rightOf Library.itemRightOf
        (Library.afterFirst text) rfl rfl (fun _ => rfl) rfl
      apply Library.afterFirst_subset
  · intro htext
    have happend : evaluate ctx (.call "LISTITEMAPPEND" [x, l])
        = Library.mapItems (· ++ text) (l.evaluate ctx).chars :=
      evaluate_call hregistry "LISTITEMAPPEND" Library.itemAppend rfl [x, l]
    have hprepend : evaluate ctx (.call "LISTITEMPREPEND" [x, l])
        = Library.mapItems (text ++ ·) (l.evaluate ctx).chars :=
      evaluate_call hregistry "LISTITEMPREPEND" Library.itemPrepend rfl [x, l]
    simp only [items, happend, hprepend]
    constructor
    · apply Library.itemsOf_mapItems
      intro i hi
      rw [List.mem_append, not_or]
      use Library.semicolon_notMem_of_mem_itemsOf hi
    · apply Library.itemsOf_mapItems
      intro i hi
      rw [List.mem_append, not_or]
      use htext, Library.semicolon_notMem_of_mem_itemsOf hi
  · have hcontains : ∀ i, ((applied "CONTAINS" i).toNumber == 1.0)
        = Library.occursAnyCase text i := by
      intro i
      have hcall : applied "CONTAINS" i
          = .ofBool (Library.occursAnyCase text (Value.ofChars i).chars) :=
        evaluate_call hregistry "CONTAINS" Library.contains rfl [x, .literal (.ofChars i)]
      rw [hcall, Value.toNumber_ofBool_beq_one, Value.chars_ofChars]
    have hlist : evaluate ctx (.call "LISTITEMCONTAINS" [x, l])
        = Library.filterItems (Library.occursAnyCase text) (l.evaluate ctx).chars :=
      evaluate_call hregistry "LISTITEMCONTAINS" Library.itemContains rfl [x, l]
    simp only [hlist, hcontains]
    rfl

/-- A list with an empty item, and a digit as the count, the marker and the text that is added. -/
theorem evaluate_itemwise_digit :
  let ctx : Context := ⟨.builtin, none, 0.0⟩
  let x : Expr := .literal (.text "1")
  let l : Expr := .literal (.text "a1b;;1")
  let items (e : Expr) := Library.itemsOf (e.evaluate ctx).chars
  let applied (name : String) (i : List Char) :=
    evaluate ctx (.call name [x, .literal (.ofChars i)])
  items (.call "LISTITEMRIGHTOF" [x, l]) = (items l).map (fun i => (applied "RIGHTOF" i).chars)
    ∧ items (.call "LISTITEMAPPEND" [x, l]) = (items l).map (· ++ "1".toList)
    ∧ evaluate ctx (.call "LISTITEMCONTAINS" [x, l])
      = .ofChars (Text.join [';']
        ((items l).filter fun i => (applied "CONTAINS" i).toNumber == 1.0))
    ∧ (evaluate ctx (.call "LISTITEMCONTAINS" [x, l])).chars = "a1b;1".toList
  := by
  intro ctx x l items applied
  have hregistry : ctx.registry = .builtin := rfl
  obtain ⟨hparts, hadded, hcontains⟩ := evaluate_itemwise hregistry x l
  refine ⟨hparts "RIGHTOF" (by simp), (hadded (by decide)).1, hcontains, ?_⟩
  rw [evaluate_call hregistry "LISTITEMCONTAINS" Library.itemContains rfl]
  decide +kernel

end Expr

end FieldFormula
