import FieldFormula.Proofs.Csv.Writing
import FieldFormula.Proofs.Text.Utf8
import Mathlib.Tactic.SplitIfs

/-!
# Records of a text

The fields of the records of a text are texts.  All bytes with a meaning of their own are
characters, so a text is cut between its characters, and what is taken away in front of it, a mark
or empty lines, are characters as well.

* `Progress.HoldsTexts`: what has been read of a record are texts.
* `readFields_encode`: reading on keeps it so.
* `isText_of_mem_records_encode`: the fields of all records.
-/

namespace FieldFormula.Csv

/-! ### Texts -/

/-- Bytes that encode a text. -/
def IsText (s : List UInt8) : Prop :=
  ∃ t, s = Text.encode t

namespace IsText

theorem nil : IsText [] := ⟨[], rfl⟩

theorem encode (t : List Char) : IsText (Text.encode t) := ⟨t, rfl⟩

/-- A text with one more character. -/
theorem concat {s : List UInt8} (hs : IsText s) (c : Char) :
  IsText (s ++ String.utf8EncodeChar c)
  := by
  obtain ⟨t, rfl⟩ := hs
  use t ++ [c]
  rw [Text.encode_append, Text.encode_cons]
  simp [Text.encode]

end IsText

/-- The bytes of a character of several bytes have no meaning of their own. -/
theorem isSpecial_eq_false_of_le {b : UInt8} (hb : 128 ≤ b.toNat) :
  isSpecial b = false
  := by
  rw [← Bool.not_eq_true]
  intro h
  simp only [isSpecial, endsRecord, Bool.or_eq_true, beq_iff_eq] at h
  obtain (rfl | rfl) | rfl | rfl := h <;> contradiction

/-! ### One record -/

namespace Progress

/-- What has been read of a record are texts. -/
structure HoldsTexts (p : Progress) : Prop where
  field : IsText p.field.reverse
  fields : ∀ f ∈ p.fields, IsText f

namespace HoldsTexts

variable {p : Progress}

theorem start : Progress.start.HoldsTexts where
  field := .nil
  fields := by simp [Progress.start]

theorem result (hp : p.HoldsTexts) :
  ∀ f ∈ p.result, IsText f
  := by
  intro f hf
  rw [Progress.result, List.mem_reverse] at hf
  exact List.forall_mem_cons.mpr ⟨hp.field, hp.fields⟩ f hf

/-- A character of one byte keeps what has been read texts. -/
theorem next (hp : p.HoldsTexts) {c : Char} {b : UInt8} (hc : String.utf8EncodeChar c = [b]) :
  (p.next b).HoldsTexts
  := by
  have hadd (phase : Phase) : (p.add phase b).HoldsTexts := by
    use ?_, hp.fields
    have hfield := hp.field.concat c
    rwa [hc, ← List.reverse_cons] at hfield
  have hturn (phase : Phase) : (p.turn phase b).HoldsTexts := ⟨hp.field, hp.fields⟩
  rw [Progress.next]
  split_ifs
  · apply hturn
  · apply hadd
  · apply hturn
  · apply hadd
  · exact ⟨.nil, List.forall_mem_cons.mpr ⟨hp.field, hp.fields⟩⟩
  · apply hadd

end HoldsTexts

end Progress

/-- A text is cut into fields that are texts, and a text is left. -/
theorem readFields_encode {p : Progress} (hp : p.HoldsTexts) (s : List Char) :
  (∀ f ∈ (readFields p (Text.encode s)).fields, IsText f)
    ∧ IsText (readFields p (Text.encode s)).rest
  := by
  induction s generalizing p with
  | nil => exact ⟨hp.result, .nil⟩
  | cons c s ih =>
    rw [Text.encode_cons]
    obtain ⟨b, -, hc⟩ | ⟨-, hc⟩ := Text.utf8EncodeChar_cases c
    · rw [hc, List.singleton_append, readFields]
      split
      · exact ⟨hp.result, .encode s⟩
      · exact ih (hp.next hc)
    · have hplain : ∀ b ∈ String.utf8EncodeChar c, isSpecial b = false :=
        fun b hb => isSpecial_eq_false_of_le (hc b hb)
      obtain ⟨q, hq, -, hfield, hfields⟩ := exists_readFields_append p hplain (Text.encode s)
      rw [hq]
      apply ih
      constructor
      · rw [hfield, List.reverse_append, List.reverse_reverse]
        exact hp.field.concat c
      · rw [hfields]
        exact hp.fields

/-- Behind the ends of lines at its front, a text is still one. -/
theorem isText_dropWhile_encode (s : List Char) :
  IsText ((Text.encode s).dropWhile endsRecord)
  := by
  induction s with
  | nil => exact .nil
  | cons c s ih =>
    have hall := IsText.encode (c :: s)
    rw [Text.encode_cons] at hall ⊢
    obtain ⟨b, -, hc⟩ | ⟨hne, hc⟩ := Text.utf8EncodeChar_cases c
    · rw [hc, List.singleton_append] at hall ⊢
      rw [List.dropWhile_cons]
      split
      · exact ih
      · exact hall
    · obtain ⟨b, bs, hbytes⟩ := List.exists_cons_of_ne_nil hne
      have hb : isSpecial b = false := by
        apply isSpecial_eq_false_of_le (hc b _)
        rw [hbytes]
        exact List.mem_cons_self
      rw [hbytes, List.cons_append] at hall ⊢
      rw [List.dropWhile_cons_of_neg (by simp [(isSpecial_eq_false_iff.mp hb).2.2])]
      exact hall

theorem isText_of_readRecord? {s : List UInt8} (hs : IsText s) {c : Cut}
    (h : readRecord? s = some c) :
  (∀ f ∈ c.fields, IsText f) ∧ IsText c.rest
  := by
  obtain ⟨t, rfl⟩ := hs
  obtain ⟨t', ht'⟩ := isText_dropWhile_encode t
  rw [readRecord?, ht'] at h
  split at h
  · contradiction
  · rw [← Option.some.inj h]
    exact readFields_encode .start t'

/-! ### All records -/

theorem isText_of_mem_recordsAt {s : List UInt8} (hs : IsText s) (p : Position) :
  ∀ r ∈ recordsAt p s, ∀ f ∈ r.fields, IsText f
  := by
  fun_induction recordsAt p s with
  | case1 => simp
  | case2 p s c h ih =>
    obtain ⟨hfields, hrest⟩ := isText_of_readRecord? hs h
    exact List.forall_mem_cons.mpr ⟨hfields, ih hrest⟩

/-- Behind a byte order mark, a text is still one. -/
theorem isText_drop_byteOrderMark {s : List Char}
    (h : byteOrderMark.isPrefixOf (Text.encode s)) :
  IsText ((Text.encode s).drop 3)
  := by
  obtain ⟨r, hr⟩ := List.isPrefixOf_iff_prefix.mp h
  cases s with
  | nil => contradiction
  | cons c s =>
    have hbytes : String.utf8EncodeChar '\uFEFF' = byteOrderMark := by decide
    have hmark := Text.decodeFirst?_append '\uFEFF' r
    rw [hbytes, hr, Text.encode_cons, Text.decodeFirst?_append, Option.some.injEq,
      Prod.mk.injEq] at hmark
    use s
    rw [← hr, hmark.2]
    rfl

/-- The fields of the records of a text are texts. -/
theorem isText_of_mem_records_encode (s : List Char) :
  ∀ r ∈ records (Text.encode s), ∀ f ∈ r.fields, IsText f
  := by
  rw [records]
  split
  · next hmark =>
    have hfields := isText_of_mem_recordsAt (isText_drop_byteOrderMark hmark) ⟨0, 1, 3⟩
    split
    · simp
    · next hrecords =>
      rw [hrecords, List.forall_mem_cons] at hfields
      exact List.forall_mem_cons.mpr hfields
  · exact isText_of_mem_recordsAt (.encode s) ⟨0, 1, 0⟩

end FieldFormula.Csv
