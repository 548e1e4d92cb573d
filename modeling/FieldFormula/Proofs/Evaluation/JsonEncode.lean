import FieldFormula.Proofs.Evaluation.Concatenation
import FieldFormula.Proofs.Evaluation.JsonLog

/-!
# Encoded strings in JSON texts

A text that is encoded as a JSON string is read back where the string stands in a larger JSON text:
as the item of an array and as the value of a key.

* `Library.jsonIndex_of_ofText`: an item is found at its position.
* `Library.ofText_array_string`, `Library.ofText_object_string`: the texts around a string.
* `Expr.evaluate_jsonEncode`: the same for the functions in a formula.
-/

namespace FieldFormula

open Decimal (Denotes)

namespace Library

/-! ### Items by position -/

theorem isInteger_of_denotes {x : Float} {k : Int} (hx : Denotes x k) :
  isInteger x = true
  := by
  obtain ⟨b, hform, hvalue⟩ := Decimal.denotes_iff.mp hx
  simp only [isInteger, hform, Decimal.Binary.isInteger_eq hvalue]

/-- A position counts from the front if it is not negative. -/
theorem resolveIndex?_of_denotes {x : Float} {n len : Nat} (hx : Denotes x n)
    (hsize : n < 2 ^ 53 ∨ len ≤ 2 ^ 53) :
  resolveIndex? x len = if n < len then some n else none
  := by
  have hnonneg : 0.0 ≤ x := by
    rw [Decimal.le_iff Decimal.denotes_zero hx]
    exact_mod_cast Nat.zero_le n
  have hnegative : ¬ x < 0.0 := by
    rw [Decimal.lt_iff hx Decimal.denotes_zero]
    exact_mod_cast Nat.not_lt_zero n
  have hlt : x < Float.ofNat len ↔ n < len := by
    rw [Decimal.lt_ofNat_iff (k := n) (by exact_mod_cast hx) (by exact_mod_cast hsize)]
    exact_mod_cast Iff.rfl
  have hinteger : isInteger x = true := isInteger_of_denotes (k := n) (by exact_mod_cast hx)
  rw [resolveIndex?, if_neg hnegative]
  simp only [hinteger, hnonneg, hlt, toNat_of_denotes hx, decide_true, Bool.true_and,
    decide_eq_true_eq]

/-- The item at a position of an array, and nothing where there is none. -/
theorem jsonIndex_of_ofText {i a : Value} {n : Nat} {items : List Json} (hi : Denotes i.toNumber n)
    (ha : Json.ofText a.chars = .ok (.array items)) (hsize : n < 2 ^ 53 ∨ items.length ≤ 2 ^ 53)
    (draw : Float) :
  jsonIndex ⟨[i, a], draw⟩ = (items[n]?).elim .empty fun v => .ofChars (itemText v)
  := by
  have hread : Json.ofText (Call.chars ⟨[i, a], draw⟩ 1) = .ok (.array items) := ha
  have hnumber : Call.number ⟨[i, a], draw⟩ 0 = i.toNumber := rfl
  have hitem : (resolveIndex? i.toNumber items.length).bind (items[·]?) = items[n]? := by
    rw [resolveIndex?_of_denotes hi hsize]
    split
    · rfl
    · next hle => rw [List.getElem?_eq_none (Nat.not_lt.mp hle), Option.bind_none]
  rw [jsonIndex, withJson, hread]
  simp only [hnumber, hitem]
  cases items[n]? <;> rfl

/-! ### Texts around a string -/

/-- A string in brackets is an array of one item. -/
theorem ofText_array_string (s : String) :
  Json.ofText ('[' :: Json.quote s ++ [']']) = .ok (.array [.string s])
  := by
  have htext : '[' :: Json.quote s ++ [']'] = (Json.array [.string s]).text := by
    rw [Json.text, Json.textOfItems, Json.text]
  rw [htext, Json.ofText_text]
  · apply Json.wellFormed_array_iff.mpr
    rw [List.forall_mem_singleton]
    apply Json.wellFormed_string
  · rw [Json.floatsReadBack_array_iff, List.forall_mem_singleton]
    apply Json.floatsReadBack_string

/-- A string behind a key and a colon, in braces, is an object of one member. -/
theorem ofText_object_string (k s : String) :
  Json.ofText ('\x7b' :: Json.quote k ++ ':' :: Json.quote s ++ ['\x7d'])
    = .ok (.object [(k, .string s)])
  := by
  have htext : '\x7b' :: Json.quote k ++ ':' :: Json.quote s ++ ['\x7d']
      = (Json.object [(k, .string s)]).text := by
    rw [Json.text, Json.textOfMembers, Json.text]
    rfl
  rw [htext, Json.ofText_text]
  · apply Json.wellFormed_object_iff.mpr
    use List.nodup_singleton k
    rw [List.forall_mem_singleton]
    apply Json.wellFormed_string
  · rw [Json.floatsReadBack_object_iff, List.forall_mem_singleton]
    apply Json.floatsReadBack_string

end Library

/-! ### Formulas -/

namespace Expr

variable {ctx : Context} {i k : Expr}

/-- A text that is encoded as a string is the item of the array that the string in brackets is, and
it is what a key without full stops leads to in the object that the encoded key, a colon and the
string in braces are. -/
theorem evaluate_jsonEncode (hregistry : ctx.registry = .builtin)
    (hi : Denotes (i.evaluate ctx).toNumber 0) (hk : '.' ∉ (k.evaluate ctx).chars) (s : Expr) :
  let text (t : String) : Expr := .literal (.text t)
  let encoded (e : Expr) : Expr := .call "JSONENCODE" [e]
  let array : Expr := .concat [text "[", encoded s, text "]"]
  let object : Expr := .concat [text "\x7b", encoded k, text ":", encoded s, text "\x7d"]
  evaluate ctx (.call "JSONINDEX" [i, array]) = .text (s.evaluate ctx).toText
    ∧ evaluate ctx (.call "JSONQUERY" [k, object]) = .text (s.evaluate ctx).toText
  := by
  intro text encoded array object
  have hencoded : ∀ e : Expr, evaluate ctx (encoded e)
      = .ofChars (Json.quote (e.evaluate ctx).toText) :=
    fun e => evaluate_call hregistry "JSONENCODE" Library.jsonEncode rfl [e]
  have htext : ∀ t : String, ((text t).evaluate ctx).chars = t.toList := fun _ => rfl
  have hchars := chars_evaluate_ofParts ctx
  have harray : Json.ofText (array.evaluate ctx).chars
      = .ok (.array [.string (s.evaluate ctx).toText]) := by
    rw [← Library.ofText_array_string]
    apply congrArg Json.ofText
    apply (hchars [text "[", encoded s, text "]"]).trans
    simp [htext, hencoded, Value.chars_ofChars]
  have hobject : Json.ofText (object.evaluate ctx).chars
      = .ok (.object [((k.evaluate ctx).toText, .string (s.evaluate ctx).toText)]) := by
    rw [← Library.ofText_object_string]
    apply congrArg Json.ofText
    apply (hchars [text "\x7b", encoded k, text ":", encoded s, text "\x7d"]).trans
    simp [htext, hencoded, Value.chars_ofChars]
  have hindex : ∀ e : Expr, evaluate ctx (.call "JSONINDEX" [i, e])
      = Library.jsonIndex ⟨[i.evaluate ctx, e.evaluate ctx], ctx.draw⟩ :=
    fun e => evaluate_call hregistry "JSONINDEX" Library.jsonIndex rfl [i, e]
  have hquery : ∀ e : Expr, evaluate ctx (.call "JSONQUERY" [k, e])
      = Library.jsonQuery ⟨[k.evaluate ctx, e.evaluate ctx], ctx.draw⟩ :=
    fun e => evaluate_call hregistry "JSONQUERY" Library.jsonQuery rfl [k, e]
  constructor
  · rw [hindex, Library.jsonIndex_of_ofText (n := 0) (by exact_mod_cast hi) harray
      (Or.inl (by decide))]
    exact congrArg Value.text String.ofList_toList
  · rw [hquery, Library.jsonQuery_of_ofText _ _ hk hobject, List.lookup_cons_self]
    exact congrArg Value.text String.ofList_toList

/-- A text of a quote, a backslash, two control characters and a character of two code units, under
a key that is a quote. -/
theorem evaluate_jsonEncode_escapes :
  let ctx : Context := ⟨.builtin, none, 0.0⟩
  let text (t : String) : Expr := .literal (.text t)
  let encoded (e : Expr) : Expr := .call "JSONENCODE" [e]
  let s := "\"\\\n\x01😀"
  (evaluate ctx (encoded (text s))).chars = "\"\\\"\\\\\\n\\u0001😀\"".toList
    ∧ evaluate ctx (.call "JSONINDEX" [text "0",
        .concat [text "[", encoded (text s), text "]"]]) = .text s
    ∧ evaluate ctx (.call "JSONQUERY" [text "\"",
        .concat [text "\x7b", encoded (text "\""), text ":", encoded (text s), text "\x7d"]])
      = .text s
  := by
  intro ctx text encoded s
  have hregistry : ctx.registry = .builtin := rfl
  have hi : Denotes ((text "0").evaluate ctx).toNumber 0 := by
    have hzero : ((text "0").evaluate ctx).toNumber = 0.0 := by decide +kernel
    rw [hzero]
    exact Decimal.denotes_zero
  have hk : '.' ∉ ((text "\"").evaluate ctx).chars := by decide
  refine ⟨?_, evaluate_jsonEncode hregistry hi hk (text s)⟩
  rw [evaluate_call hregistry "JSONENCODE" Library.jsonEncode rfl]
  decide +kernel

end Expr

end FieldFormula
