import FieldFormula.Proofs.Decimal.Counts
import FieldFormula.Proofs.Evaluation.JsonUpdate

/-!
# Logs in JSON arrays

A log is a text with a JSON array, or the empty text.  Each entry is put in front, and entries
beyond a limit are dropped at the end.  However many entries are put into a log, one after the
other, the log holds the last of them and what was in the log before, cut to the limit once.

* `Library.keepFirst_eq`: the limit is the number of entries that are kept.
* `Library.ofText_jsonFifo`: one entry is put into a log.
* `Library.ofText_foldl_jsonFifo`: entries are put into a log one after the other.
* `Expr.evaluate_jsonFifo`: the log that a formula builds.
-/

namespace FieldFormula

open Decimal (Denotes)

namespace Library

open Json (FloatsReadBack WellFormed)

/-! ### Limits -/

theorem toNat_of_denotes {x : Float} {n : Nat} (hx : Denotes x n) :
  Decimal.toNat x = n
  := by
  obtain ⟨b, hform, hvalue⟩ := Decimal.denotes_iff.mp hx
  have htruncate : b.truncate = (n : Int) := Decimal.Binary.truncate_eq (by exact_mod_cast hvalue)
  simp only [Decimal.toNat, hform, htruncate, Int.toNat_natCast]

/-- The limit is the number of items that are kept, where a float counts them. -/
theorem keepFirst_eq {limit : Float} {n : Nat} (hlimit : Denotes limit n) (hn : 1 ≤ n)
    {items : List Json} (hsize : n < 2 ^ 53 ∨ items.length ≤ 2 ^ 53) :
  keepFirst limit items = items.take n
  := by
  have hpos : 0.0 < limit := by
    rw [Decimal.lt_iff Decimal.denotes_zero hlimit]
    exact_mod_cast hn
  have hlt : limit < Float.ofNat items.length ↔ n < items.length := by
    rw [Decimal.lt_ofNat_iff (k := n) (by exact_mod_cast hlimit) (by exact_mod_cast hsize)]
    exact_mod_cast Iff.rfl
  rw [keepFirst, toNat_of_denotes hlimit]
  by_cases h : n < items.length
  · rw [if_pos ⟨hpos, hlt.mpr h⟩]
  · rw [if_neg fun hboth => h (hlt.mp hboth.2), List.take_of_length_le (Nat.not_lt.mp h)]

/-! ### Entries -/

/-- The text of the value is an array of the items, or it is empty, and there are none. -/
def HasItems (v : Value) (items : List Json) : Prop :=
  Json.ofText v.chars = .ok (.array items) ∨ v.chars = [] ∧ items = []

/-- A value that is read from its text as an item of an array. -/
structure IsStorable (j : Json) : Prop where
  wellFormed : WellFormed 126 j
  floats : FloatsReadBack j

theorem ofText_jsonValue_array {items : List Json} (h : ∀ j ∈ items, IsStorable j) :
  Json.ofText (jsonValue (.array items)).chars = .ok (.array items)
  := by
  apply ofText_jsonValue
  · apply Json.wellFormed_array_iff.mpr
    intro j hj
    apply (h j hj).wellFormed
  · apply Json.floatsReadBack_array_iff.mpr
    intro j hj
    apply (h j hj).floats

theorem HasItems.isStorable {v : Value} {items : List Json} (h : HasItems v items)
    (hfloats : FloatsReadBack (.array items)) :
  ∀ j ∈ items, IsStorable j
  := by
  obtain hread | ⟨-, rfl⟩ := h
  · intro j hj
    use Json.wellFormed_array_iff.mp (Json.wellFormed_of_ofText hread) j hj
    apply Json.floatsReadBack_array_iff.mp hfloats j hj
  · apply List.forall_mem_nil

/-- The value is a text that is read as an entry: a JSON value that nests one level less deep than
values may, and that has only floats that are read back. -/
structure IsEntry (x : Value) (j : Json) : Prop where
  text : ∃ s, x = .text s ∧ Json.ofText s.toList = .ok j
  depth_lt : j.depth < Json.maxDepth
  floats : FloatsReadBack j

theorem IsEntry.isStorable {x : Value} {j : Json} (h : IsEntry x j) :
  IsStorable j
  := by
  obtain ⟨s, -, hread⟩ := h.text
  use (Json.wellFormed_of_ofText hread).mono (Nat.le_of_lt_succ h.depth_lt), h.floats

/-- What is kept of the entry and of the log before is storable. -/
theorem IsEntry.isStorable_take {x : Value} {j : Json} (hx : IsEntry x j) {items : List Json}
    (hitems : ∀ i ∈ items, IsStorable i) (n : Nat) :
  ∀ i ∈ (j :: items).take n, IsStorable i
  := by
  intro i hi
  obtain rfl | hi := List.mem_cons.mp (List.mem_of_mem_take hi)
  · apply hx.isStorable
  · apply hitems i hi

/-! ### Runs -/

/-- What is cut off the end does not count for a later cut. -/
theorem take_append_take {α : Type} (xs ys : List α) (n : Nat) :
  (xs ++ ys.take n).take n = (xs ++ ys).take n
  := by
  rw [List.take_append, List.take_append, List.take_take, Nat.min_eq_left (Nat.sub_le _ _)]

section

variable {m : Value} {n : Nat} (hm : Denotes m.toNumber n) (hn : 1 ≤ n) (draw : Float)

include hm hn

/-- One entry is put into a log. -/
theorem ofText_jsonFifo {log x : Value} {items : List Json} {j : Json} (hlog : HasItems log items)
    (hitems : ∀ i ∈ items, IsStorable i) (hx : IsEntry x j)
    (hsize : n < 2 ^ 53 ∨ items.length + 1 ≤ 2 ^ 53) :
  Json.ofText (jsonFifo ⟨[log, x, m], draw⟩).chars = .ok (.array ((j :: items).take n))
  := by
  obtain ⟨s, rfl, hread⟩ := hx.text
  let c : Call := ⟨[log, .text s, m], draw⟩
  have hbefore : logItems (c.chars 0) = .ok items := by
    change logItems log.chars = .ok items
    obtain hlog | ⟨hempty, rfl⟩ := hlog
    · rw [logItems, Json.isEmpty_of_ofText hlog, if_neg Bool.false_ne_true, hlog]
    · rw [hempty]
      rfl
  have hitem : logItem (c.value 1) = .ok j := hread
  have hkeep : keepFirst (c.number 2) (j :: items) = (j :: items).take n := keepFirst_eq hm hn hsize
  have hresult : jsonFifo c = jsonValue (.array ((j :: items).take n)) := by
    simp only [jsonFifo, hbefore, hitem, hkeep]
  rw [hresult]
  apply ofText_jsonValue_array (hx.isStorable_take hitems n)

/-- Entries are put into a log one after the other. -/
theorem ofText_foldl_jsonFifo {xs : List Value} {js : List Json} (hxs : List.Forall₂ IsEntry xs js)
    (hne : xs ≠ []) {log : Value} {items : List Json} (hlog : HasItems log items)
    (hitems : ∀ i ∈ items, IsStorable i)
    (hsize : n < 2 ^ 53 ∨ items.length + xs.length ≤ 2 ^ 53) :
  Json.ofText (xs.foldl (fun log x => jsonFifo ⟨[log, x, m], draw⟩) log).chars
    = .ok (.array ((js.reverse ++ items).take n))
  := by
  induction hxs generalizing log items with
  | nil => contradiction
  | @cons x j xs js hx hxs ih =>
    rw [List.length_cons] at hsize
    have hstep := ofText_jsonFifo hm hn draw hlog hitems hx (hsize.imp_right (by omega))
    rw [List.foldl_cons]
    obtain rfl | hne := eq_or_ne xs []
    · obtain rfl := List.forall₂_nil_left_iff.mp hxs
      exact hstep
    · -- the log after an entry is no longer than the log before and the entry
      have hcut := List.length_take_le' n (j :: items)
      rw [List.length_cons] at hcut
      rw [ih hne (Or.inl hstep) (hx.isStorable_take hitems n) (hsize.imp_right (by omega)),
        List.reverse_cons, List.append_assoc, List.singleton_append, take_append_take]

end

end Library

/-! ### Formulas -/

namespace Expr

open Json (FloatsReadBack)

/-- The formula that puts entries into a log one after the other. -/
def logAll (log m : Expr) (xs : List Expr) : Expr :=
  xs.foldl (fun log x => .call "JSONFIFO" [log, x, m]) log

theorem evaluate_logAll {ctx : Context} (hregistry : ctx.registry = .builtin) (log m : Expr)
    (xs : List Expr) :
  evaluate ctx (logAll log m xs)
    = (xs.map (evaluate ctx)).foldl
      (fun log x => Library.jsonFifo ⟨[log, x, m.evaluate ctx], ctx.draw⟩) (log.evaluate ctx)
  := by
  induction xs generalizing log with
  | nil => rfl
  | cons x xs ih =>
    rw [logAll, List.foldl_cons, ← logAll, ih, List.map_cons, List.foldl_cons,
      evaluate_call hregistry "JSONFIFO" Library.jsonFifo rfl]
    rfl

/-- A log that starts as an array or as the empty text, and into which entries are put one after the
other, holds the entries, the last one first, and what was in the log before, cut to the limit.  An
entry is a text with a JSON value that an array can hold.  A limit from `2 ^ 53` on is compared with
a length that a float counts exactly. -/
theorem evaluate_jsonFifo {ctx : Context} {log m : Expr} {xs : List Expr} {n : Nat}
    {items js : List Json} (hregistry : ctx.registry = .builtin)
    (hlog : Library.HasItems (log.evaluate ctx) items) (hitems : FloatsReadBack (.array items))
    (hm : Denotes (m.evaluate ctx).toNumber n) (hn : 1 ≤ n)
    (hxs : List.Forall₂ Library.IsEntry (xs.map (evaluate ctx)) js) (hne : xs ≠ [])
    (hsize : n < 2 ^ 53 ∨ items.length + xs.length ≤ 2 ^ 53) :
  ∃ kept, Json.ofText (evaluate ctx (logAll log m xs)).chars = .ok (.array kept)
    ∧ kept = (js.reverse ++ items).take n ∧ kept.length ≤ n
  := by
  use (js.reverse ++ items).take n
  refine ⟨?_, rfl, List.length_take_le n _⟩
  rw [evaluate_logAll hregistry]
  apply Library.ofText_foldl_jsonFifo hm hn ctx.draw hxs (mt List.map_eq_nil_iff.mp hne) hlog
    (hlog.isStorable hitems)
  rwa [List.length_map]

/-- Two entries are put into an array, and its last item is dropped. -/
theorem evaluate_jsonFifo_two :
  let ctx : Context := ⟨.builtin, none, 0.0⟩
  let text : String → Expr := fun s => .literal (.text s)
  ∃ kept, Json.ofText (evaluate ctx
      (logAll (text "[null,\"y\"]") (text "3") [text "\"x\"", text "true"])).chars
      = .ok (.array kept)
    ∧ kept = [.bool true, .string "x", .null] ∧ kept.length ≤ 3
  := by
  intro ctx text
  have hregistry : ctx.registry = .builtin := rfl
  have hlimit : Denotes ((text "3").evaluate ctx).toNumber (3 : Nat) :=
    Decimal.denotes_of_any (k := 3) (by decide +kernel)
  let items : List Json := [.null, .string "y"]
  have hitems : FloatsReadBack (.array items) := by
    apply Json.floatsReadBack_array_iff.mpr
    simp only [items, List.forall_mem_cons]
    use by rintro x ⟨⟩, Json.floatsReadBack_string _, List.forall_mem_nil _
  have hdepth : Json.WellFormed Json.maxDepth (.array items) := by
    apply Json.wellFormed_array_iff.mpr
    simp only [items, List.forall_mem_cons]
    use Json.wellFormed_null _, Json.wellFormed_string _ _, List.forall_mem_nil _
  have hlog : Library.HasItems ((text "[null,\"y\"]").evaluate ctx) items := by
    have hchars : ((text "[null,\"y\"]").evaluate ctx).chars = (Json.array items).text := by
      decide
    exact Or.inl (hchars ▸ Json.ofText_text hdepth hitems)
  have hstring : Library.IsEntry ((text "\"x\"").evaluate ctx) (.string "x") :=
    ⟨⟨_, rfl, rfl⟩, by decide, Json.floatsReadBack_string _⟩
  have htrue : Library.IsEntry ((text "true").evaluate ctx) (.bool true) :=
    ⟨⟨_, rfl, rfl⟩, by decide, by rintro x ⟨⟩⟩
  have hentries : List.Forall₂ Library.IsEntry ([text "\"x\"", text "true"].map (evaluate ctx))
      [.string "x", .bool true] := .cons hstring (.cons htrue .nil)
  exact evaluate_jsonFifo hregistry hlog hitems hlimit (by decide) hentries (by simp)
    (Or.inl (by decide))

end Expr

end FieldFormula
