import FieldFormula.Proofs.Registry.Lookup
import FieldFormula.Proofs.Text.Utf8

/-!
# Percent-encoded texts

A percent-encoded text is made of plain characters and of escapes, which are a percent sign and two
digits each.  A plain character is no percent sign, so the escapes are found again, and the bytes
that they stand for are those of the characters that were escaped.  So the text is read back from
the bytes, and texts that differ are encoded differently.

* `Library.isPercentEncoded_flatMap`: what an encoded text is made of.
* `Library.percentDecode_flatMap`: the bytes of the text are read back.
* `Expr.evaluate_urlEncode`: the same for the function in a formula.
-/

namespace FieldFormula

namespace Library

/-! ### The form of encoded texts -/

/-- The characters that stand for themselves in an encoded text. -/
def IsPlain (c : Char) : Prop :=
  c.isAlphanum ∨ c ∈ "-_.!~*'()".toList

instance : DecidablePred IsPlain :=
  fun c => inferInstanceAs (Decidable (c.isAlphanum ∨ c ∈ _))

/-- The digits of escapes. -/
def escapeDigits : List Char := "0123456789ABCDEF".toList

/-- A text of plain characters and escapes. -/
inductive IsPercentEncoded : List Char → Prop
  | nil : IsPercentEncoded []
  | plain {c : Char} {s : List Char} (hc : IsPlain c) (hs : IsPercentEncoded s) :
      IsPercentEncoded (c :: s)
  | escape {a b : Char} {s : List Char} (ha : a ∈ escapeDigits) (hb : b ∈ escapeDigits)
      (hs : IsPercentEncoded s) : IsPercentEncoded ('%' :: a :: b :: s)

theorem isUnreserved_iff {c : Char} :
  isUnreserved c = true ↔ IsPlain c
  := by
  rw [isUnreserved, Bool.or_eq_true, List.contains_iff_mem]
  exact Iff.rfl

theorem IsPlain.ne_percent {c : Char} (hc : IsPlain c) :
  c ≠ '%'
  := by
  rintro rfl
  exact absurd hc (by decide)

/-! ### Reading -/

/-- The bytes that a percent-encoded text stands for.  An escape is a byte, and any other character
stands for its bytes in UTF-8. -/
def percentDecode : List Char → List UInt8
  | [] => []
  | '%' :: a :: b :: s =>
    match Unicode.hexDigit? a, Unicode.hexDigit? b with
    | some high, some low => UInt8.ofNat (16 * high + low) :: percentDecode s
    | _, _ => String.utf8EncodeChar '%' ++ percentDecode (a :: b :: s)
  | c :: s => String.utf8EncodeChar c ++ percentDecode s

theorem percentDecode_escape {a b : Char} {high low : Nat} (ha : Unicode.hexDigit? a = some high)
    (hb : Unicode.hexDigit? b = some low) (s : List Char) :
  percentDecode ('%' :: a :: b :: s) = UInt8.ofNat (16 * high + low) :: percentDecode s
  := by
  rw [percentDecode, ha, hb]

theorem percentDecode_cons {c : Char} (hc : c ≠ '%') (s : List Char) :
  percentDecode (c :: s) = String.utf8EncodeChar c ++ percentDecode s
  := by
  rw [percentDecode]
  rintro a b t rfl
  contradiction

/-! ### Bytes -/

theorem hexDigit_mem : ∀ n < 16, hexDigit n ∈ escapeDigits := by
  decide

theorem hexDigit?_hexDigit : ∀ n < 16, Unicode.hexDigit? (hexDigit n) = some n := by
  decide

theorem isPercentEncoded_escapes (bytes : List UInt8) {s : List Char} (hs : IsPercentEncoded s) :
  IsPercentEncoded (bytes.flatMap percentEscape ++ s)
  := by
  induction bytes with
  | nil => apply hs
  | cons b bytes ih =>
    have hb := b.toNat_lt
    apply IsPercentEncoded.escape _ _ ih
    · apply hexDigit_mem
      omega
    · apply hexDigit_mem
      omega

/-- The bytes are read back from their escapes. -/
theorem percentDecode_escapes (bytes : List UInt8) (s : List Char) :
  percentDecode (bytes.flatMap percentEscape ++ s) = bytes ++ percentDecode s
  := by
  induction bytes with
  | nil => rfl
  | cons b bytes ih =>
    have hb := b.toNat_lt
    have hhigh : Unicode.hexDigit? (hexDigit (b.toNat / 16)) = some (b.toNat / 16) := by
      apply hexDigit?_hexDigit
      omega
    have hlow : Unicode.hexDigit? (hexDigit (b.toNat % 16)) = some (b.toNat % 16) := by
      apply hexDigit?_hexDigit
      omega
    rw [List.flatMap_cons, percentEscape, List.append_assoc, List.cons_append, List.cons_append,
      List.cons_append, List.nil_append, percentDecode_escape hhigh hlow, Nat.div_add_mod, ih,
      UInt8.ofNat_toNat, List.cons_append]

/-! ### Characters and texts -/

theorem encodeChar_of_isPlain {c : Char} (hc : IsPlain c) : encodeChar c = [c] :=
  if_pos (isUnreserved_iff.mpr hc)

theorem encodeChar_of_not_isPlain {c : Char} (hc : ¬ IsPlain c) :
  encodeChar c = (String.utf8EncodeChar c).flatMap percentEscape
  := if_neg (mt isUnreserved_iff.mp hc)

/-- An encoded text is made of plain characters and escapes. -/
theorem isPercentEncoded_flatMap (s : List Char) :
  IsPercentEncoded (s.flatMap encodeChar)
  := by
  induction s with
  | nil => exact .nil
  | cons c s ih =>
    rw [List.flatMap_cons]
    by_cases hc : IsPlain c
    · rw [encodeChar_of_isPlain hc]
      apply IsPercentEncoded.plain hc ih
    · rw [encodeChar_of_not_isPlain hc]
      apply isPercentEncoded_escapes _ ih

/-- The bytes of a text are read back from the encoded text. -/
theorem percentDecode_flatMap (s : List Char) :
  percentDecode (s.flatMap encodeChar) = Text.encode s
  := by
  induction s with
  | nil => rfl
  | cons c s ih =>
    rw [List.flatMap_cons, Text.encode_cons, ← ih]
    by_cases hc : IsPlain c
    · rw [encodeChar_of_isPlain hc, List.singleton_append, percentDecode_cons hc.ne_percent]
    · rw [encodeChar_of_not_isPlain hc, percentDecode_escapes]

/-- Plain characters are not escaped. -/
theorem flatMap_encodeChar_eq_self {s : List Char} (hs : ∀ c ∈ s, IsPlain c) :
  s.flatMap encodeChar = s
  := by
  induction s with
  | nil => rfl
  | cons c s ih =>
    obtain ⟨hc, hs⟩ := List.forall_mem_cons.mp hs
    rw [List.flatMap_cons, encodeChar_of_isPlain hc, ih hs, List.singleton_append]

end Library

/-! ### Formulas -/

namespace Expr

/-- An encoded text is made of plain characters and of escapes with two digits in upper case.  The
bytes that it stands for are read as the text, so texts that differ are encoded differently.  A text
of plain characters is left as it is. -/
theorem evaluate_urlEncode {ctx : Context} (hregistry : ctx.registry = .builtin) (e f : Expr) :
  let text (e : Expr) := (e.evaluate ctx).chars
  let encoded (e : Expr) := (evaluate ctx (.call "URLENCODE" [e])).chars
  Library.IsPercentEncoded (encoded e)
    ∧ Text.decode (Library.percentDecode (encoded e)) = .ok (text e)
    ∧ (text e ≠ text f → encoded e ≠ encoded f)
    ∧ ((∀ c ∈ text e, Library.IsPlain c) → encoded e = text e)
  := by
  intro text encoded
  have hencoded : ∀ e : Expr, encoded e = (text e).flatMap Library.encodeChar := by
    intro e
    simp only [encoded]
    rw [evaluate_call hregistry "URLENCODE" Library.urlEncode rfl, Library.urlEncode,
      Value.chars_ofChars]
    rfl
  have hdecode : ∀ e : Expr, Text.decode (Library.percentDecode (encoded e)) = .ok (text e) := by
    intro e
    rw [hencoded, Library.percentDecode_flatMap, Text.decode_encode]
  refine ⟨?_, hdecode e, ?_, ?_⟩
  · rw [hencoded]
    apply Library.isPercentEncoded_flatMap
  · intro hne heq
    apply hne
    have hsame := hdecode e
    rw [heq, hdecode f] at hsame
    exact (Except.ok.inj hsame).symm
  · intro hplain
    rw [hencoded, Library.flatMap_encodeChar_eq_self hplain]

/-- A percent sign, its own escape, and characters of two, three and four bytes. -/
theorem evaluate_urlEncode_percent :
  let ctx : Context := ⟨.builtin, none, 0.0⟩
  let encoded (s : String) := (evaluate ctx (.call "URLENCODE" [.literal (.text s)])).chars
  encoded "%" = "%25".toList
    ∧ encoded "%" ≠ encoded "%25"
    ∧ encoded "~é€😀" = "~%C3%A9%E2%82%AC%F0%9F%98%80".toList
    ∧ Library.IsPercentEncoded (encoded "~é€😀")
    ∧ Text.decode (Library.percentDecode (encoded "~é€😀")) = .ok "~é€😀".toList
    ∧ encoded "a_(0)!" = "a_(0)!".toList
  := by
  intro ctx encoded
  have hregistry : ctx.registry = .builtin := rfl
  have hcall : ∀ s, encoded s = (Library.urlEncode ⟨[.text s], 0.0⟩).chars := by
    intro s
    simp only [encoded]
    rw [evaluate_call hregistry "URLENCODE" Library.urlEncode rfl]
    rfl
  obtain ⟨-, -, hdiffers, -⟩ :=
    evaluate_urlEncode hregistry (.literal (.text "%")) (.literal (.text "%25"))
  obtain ⟨hform, hdecode, -, -⟩ :=
    evaluate_urlEncode hregistry (.literal (.text "~é€😀")) (.literal (.text ""))
  obtain ⟨-, -, -, hplain⟩ :=
    evaluate_urlEncode hregistry (.literal (.text "a_(0)!")) (.literal (.text ""))
  have hall : "a_(0)!".toList.all (fun c => decide (Library.IsPlain c)) = true := by decide
  refine ⟨?_, hdiffers (by decide), ?_, hform, hdecode, hplain ?_⟩
  · rw [hcall]
    decide +kernel
  · rw [hcall]
    decide +kernel
  · intro c hc
    apply of_decide_eq_true (List.all_eq_true.mp hall c hc)

end Expr

end FieldFormula
