import FieldFormula.Proofs.Json.Steps

/-!
# Strings of JSON

A character stands for itself in a string, or it is written as an escape, and each is read as the
character.  So a string in quotes is read as the string, whatever follows it.

* `escape_cases`: a character stands for itself, or its escape is read as the character.
* `readString_quote`: a string in quotes is read up to its closing quote.
-/

namespace FieldFormula.Json

/-! ### Escapes by code units -/

theorem four_le_byteCount (a b c d : Char) (r : List Char) :
  4 ≤ byteCount (a :: b :: c :: d :: r)
  := by
  have ha := a.utf8Size_pos
  have hb := b.utf8Size_pos
  have hc := c.utf8Size_pos
  have hd := d.utf8Size_pos
  simp only [byteCount, List.foldr_cons]
  omega

/-- Four digits of a number that is no surrogate are read as the character of the number. -/
theorem readUnits_of_lt {a b c d : Char} {n : Nat}
    (hdigits : ([a, b, c, d].mapM Unicode.hexDigit?).isSome)
    (hvalue : Unicode.hexValue [a, b, c, d] = n) (hn : n < 0xD800) (r : List Char) :
  readUnits (a :: b :: c :: d :: r) = .ok (Char.ofNat n, r)
  := by
  obtain ⟨ds, hds⟩ := Option.isSome_iff_exists.mp hdigits
  have hhex : readHex (a :: b :: c :: d :: r) = .ok (n, r) := by
    rw [readHex, if_neg (Nat.not_lt.mpr (four_le_byteCount a b c d r))]
    simp only [hds, hvalue]
  have hlow : ¬ (0xDC00 ≤ n ∧ n ≤ 0xDFFF) := by omega
  simp only [readUnits, hhex, hlow, hn, bind, Except.bind, if_false, true_or, if_true]

/-- The escape of a control character is read as the character. -/
theorem readUnits_control {c : Char} (hc : c.toNat < 0x20) (r : List Char) :
  readUnits
      ('0' :: '0' :: Nat.digitChar (c.toNat / 16) :: Nat.digitChar (c.toNat % 16) :: r)
    = .ok (c, r)
  := by
  have hdigits : ∀ n < 0x20, ([('0'), '0', Nat.digitChar (n / 16),
      Nat.digitChar (n % 16)].mapM Unicode.hexDigit?).isSome := by decide
  have hvalue : ∀ n < 0x20,
      Unicode.hexValue ['0', '0', Nat.digitChar (n / 16), Nat.digitChar (n % 16)] = n := by
    decide
  rw [readUnits_of_lt (hdigits _ hc) (hvalue _ hc) (by omega), Char.ofNat_toNat]

/-! ### Characters -/

/-- A character stands for itself, or its escape is read as the character. -/
theorem escape_cases (c : Char) :
  (escape c = [c] ∧ c ≠ '"' ∧ c ≠ '\\' ∧ 0x20 ≤ c.toNat)
    ∨ ∃ s, escape c = '\\' :: s ∧ ∀ r, readEscape (s ++ r) = .ok (c, r)
  := by
  unfold escape
  split
  all_goals try exact Or.inr ⟨[_], rfl, fun r => rfl⟩
  next hquote hslash _ _ _ _ _ =>
  split
  · next hc => exact Or.inr ⟨_, rfl, readUnits_control hc⟩
  · next hc => exact Or.inl ⟨rfl, hquote, hslash, Nat.not_lt.mp hc⟩

theorem length_le_length_flatMap_escape (s : List Char) :
  s.length ≤ (s.flatMap escape).length
  := by
  induction s with
  | nil => apply Nat.le_refl
  | cons c s ih =>
    have hc : 1 ≤ (escape c).length := by
      obtain ⟨hc, -⟩ | ⟨t, hc, -⟩ := escape_cases c <;> simp [hc]
    rw [List.flatMap_cons, List.length_append, List.length_cons]
    omega

/-! ### Strings -/

section

variable (fuel : Nat)

theorem readString_escape {c : Char} {s r : List Char} (h : readEscape s = .ok (c, r)) :
  readString (fuel + 1) ('\\' :: s) = readString fuel r >>= fun x => .ok (c :: x.1, x.2)
  := by
  rw [readString, h]
  rfl

theorem readString_cons {c : Char} (hquote : c ≠ '"') (hslash : c ≠ '\\') (hc : 0x20 ≤ c.toNat)
    (s : List Char) :
  readString (fuel + 1) (c :: s) = readString fuel s >>= fun x => .ok (c :: x.1, x.2)
  := by
  rw [readString, if_neg (Nat.not_lt.mpr hc)]
  · rfl
  · apply hquote
  · apply hslash

end

/-- A string is read up to its closing quote. -/
theorem readString_of_lt {s : List Char} {fuel : Nat} (hfuel : s.length < fuel)
    (r : List Char) :
  readString fuel (s.flatMap escape ++ '"' :: r) = .ok (s, r)
  := by
  induction s generalizing fuel with
  | nil =>
    obtain ⟨fuel, rfl⟩ := Nat.exists_eq_add_one_of_ne_zero (Nat.ne_zero_of_lt hfuel)
    rfl
  | cons c s ih =>
    obtain ⟨fuel, rfl⟩ := Nat.exists_eq_add_one_of_ne_zero (Nat.ne_zero_of_lt hfuel)
    have hread := ih (Nat.lt_of_succ_lt_succ hfuel)
    rw [List.flatMap_cons, List.append_assoc]
    obtain ⟨hc, hquote, hslash, hlow⟩ | ⟨t, hc, hescape⟩ := escape_cases c
    · rw [hc, List.singleton_append, readString_cons fuel hquote hslash hlow, hread]
      rfl
    · rw [hc, List.cons_append, readString_escape fuel (hescape _), hread]
      rfl

/-- A string in quotes is read as the string. -/
theorem readString_quote {s : List Char} (r : List Char) :
  readString (s.flatMap escape ++ '"' :: r).length (s.flatMap escape ++ '"' :: r) = .ok (s, r)
  := by
  apply readString_of_lt
  have hlength := length_le_length_flatMap_escape s
  rw [List.length_append, List.length_cons]
  omega

end FieldFormula.Json
