import FieldFormula.Text.Utf8
import Mathlib.Tactic.Use

/-!
# Reading encoded texts

The bytes of a text are read back as the text.  A character of one byte is that byte, and all bytes
of the other characters lie above those.

* `utf8EncodeChar_cases`: the bytes of a character.
* `decode_encode`: the bytes of a text are read back.
-/

namespace FieldFormula.Text

theorem toNat_ofNat_of_lt {n : Nat} (h : n < 256) :
  (UInt8.ofNat n).toNat = n
  := by
  rw [UInt8.toNat_ofNat', Nat.mod_eq_of_lt h]

/-- The code points end below `0x110000`. -/
theorem codePoint_lt (c : Char) :
  c.toNat < 0x110000
  := by
  have hvalid : c.toNat.isValidChar := c.valid
  obtain h | h := hvalid <;> omega

/-! ### The first character -/

/-- A continuation byte adds its six bits. -/
theorem continueCode?_cons (n high k : Nat) (s : List UInt8) :
  continueCode? (n + 1) high (UInt8.ofNat (k % 64 + 128) :: s)
    = continueCode? n (high * 64 + k % 64) s
  := by
  have hbyte : (UInt8.ofNat (k % 64 + 128)).toNat = k % 64 + 128 := toNat_ofNat_of_lt (by omega)
  rw [continueCode?, hbyte, if_pos (by omega), Nat.add_sub_cancel]

theorem continueCode?_zero (high : Nat) (s : List UInt8) :
  continueCode? 0 high s = some (high, s)
  := rfl

/-- The first character of the bytes of a text is read, and the bytes of the others are left. -/
theorem decodeFirst?_append (c : Char) (s : List UInt8) :
  decodeFirst? (String.utf8EncodeChar c ++ s) = some (c, s)
  := by
  have hvalid : c.toNat.isValidChar := c.valid
  have hlt := codePoint_lt c
  have hchar : Char.ofNat c.toNat = c := c.ofNat_toNat
  have hval : c.val.toNat = c.toNat := rfl
  rw [String.utf8EncodeChar, hval]
  split
  · have hlead : (UInt8.ofNat c.toNat).toNat = c.toNat := toNat_ofNat_of_lt (by omega)
    simp only [List.cons_append, List.nil_append, decodeFirst?, hlead]
    rw [if_pos (by omega), hchar]
  split
  · have hlead : (UInt8.ofNat (c.toNat / 64 % 32 + 192)).toNat = c.toNat / 64 + 192 := by
      rw [toNat_ofNat_of_lt] <;> omega
    have hcode : (c.toNat / 64 + 192 - 192) * 64 + c.toNat % 64 = c.toNat := by omega
    simp only [List.cons_append, List.nil_append, decodeFirst?, hlead, continueCode?_cons,
      continueCode?_zero, hcode, hchar]
    rw [if_neg (by omega), if_neg (by omega), if_pos (by omega), if_pos ⟨by omega, hvalid⟩]
  split
  · have hlead : (UInt8.ofNat (c.toNat / 4096 % 16 + 224)).toNat = c.toNat / 4096 + 224 := by
      rw [toNat_ofNat_of_lt] <;> omega
    have hcode : ((c.toNat / 4096 + 224 - 224) * 64 + c.toNat / 64 % 64) * 64 + c.toNat % 64
        = c.toNat := by omega
    simp only [List.cons_append, List.nil_append, decodeFirst?, hlead, continueCode?_cons,
      continueCode?_zero, hcode, hchar]
    rw [if_neg (by omega), if_neg (by omega), if_neg (by omega), if_pos (by omega),
      if_pos ⟨by omega, hvalid⟩]
  · have hlead : (UInt8.ofNat (c.toNat / 262144 % 8 + 240)).toNat = c.toNat / 262144 + 240 := by
      rw [toNat_ofNat_of_lt] <;> omega
    have hcode : (((c.toNat / 262144 + 240 - 240) * 64 + c.toNat / 4096 % 64) * 64
        + c.toNat / 64 % 64) * 64 + c.toNat % 64 = c.toNat := by omega
    simp only [List.cons_append, List.nil_append, decodeFirst?, hlead, continueCode?_cons,
      continueCode?_zero, hcode, hchar]
    rw [if_neg (by omega), if_neg (by omega), if_neg (by omega), if_neg (by omega),
      if_pos (by omega), if_pos ⟨by omega, hvalid⟩]

/-! ### All characters -/

theorem encode_cons (c : Char) (s : List Char) :
  encode (c :: s) = String.utf8EncodeChar c ++ encode s
  := List.flatMap_cons

theorem encode_append (s t : List Char) :
  encode (s ++ t) = encode s ++ encode t
  := List.flatMap_append

theorem decodeBehind_encode (before : List Char) (place : Nat) (s : List Char) :
  decodeBehind before place (encode s) = .ok (before.reverse ++ s)
  := by
  induction s generalizing before place with
  | nil =>
    rw [decodeBehind]
    simp [encode]
  | cons c s ih =>
    have hfirst := decodeFirst?_append c (encode s)
    rw [encode_cons, decodeBehind]
    split
    · next h =>
      rw [List.isEmpty_iff.mp h] at hfirst
      contradiction
    · split
      · next h =>
        obtain ⟨rfl, rfl⟩ := Prod.mk.inj (Option.some.inj (hfirst.symm.trans h))
        rw [ih, List.reverse_cons, List.append_assoc, List.singleton_append]
      · next h => cases hfirst.symm.trans h

/-- The bytes of a text are read back. -/
theorem decode_encode (s : List Char) :
  decode (encode s) = .ok s
  := decodeBehind_encode [] 0 s

/-! ### Bytes of one character -/

/-- A character is one byte, or its bytes all lie above those characters. -/
theorem utf8EncodeChar_cases (c : Char) :
  (∃ b : UInt8, b.toNat < 128 ∧ String.utf8EncodeChar c = [b])
    ∨ String.utf8EncodeChar c ≠ [] ∧ ∀ b ∈ String.utf8EncodeChar c, 128 ≤ b.toNat
  := by
  rw [String.utf8EncodeChar]
  split
  · left
    use UInt8.ofNat c.val.toNat
    rw [toNat_ofNat_of_lt (by omega)]
    exact ⟨by omega, rfl⟩
  · right
    split
    · use List.cons_ne_nil _ _
      simp only [List.forall_mem_cons, UInt8.toNat_ofNat', List.not_mem_nil, false_imp_iff,
        implies_true, and_true]
      omega
    split
    · use List.cons_ne_nil _ _
      simp only [List.forall_mem_cons, UInt8.toNat_ofNat', List.not_mem_nil, false_imp_iff,
        implies_true, and_true]
      omega
    · use List.cons_ne_nil _ _
      simp only [List.forall_mem_cons, UInt8.toNat_ofNat', List.not_mem_nil, false_imp_iff,
        implies_true, and_true]
      omega

end FieldFormula.Text
