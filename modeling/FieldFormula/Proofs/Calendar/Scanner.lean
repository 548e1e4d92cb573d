import FieldFormula.Calendar.Format
import FieldFormula.Calendar.Scanner
import FieldFormula.Proofs.Decimal.Positional

/-!
# Fixed fields at the front of a text

A number written with leading zeros up to a width is taken off the front of a text by a scanner
of as many digits, and a scanner of at least one digit also takes one without leading zeros when
no digit follows it.

* `digitsValue_padded`: leading zeros do not change the number.
* `length_padded_le`: a number below a power of ten stays within as many digits.
* `Scanner.number_padded_full`, `Scanner.number_padded`: a padded number is taken off the text
  behind it.
-/

namespace FieldFormula.Calendar

open Decimal

/-! ### Padded numbers -/

theorem isDigit_of_mem_padded {width n : Nat} {c : Char} (hc : c ∈ padded width n) :
  c.isDigit
  := by
  rw [padded, List.mem_append] at hc
  obtain hzero | hdigit := hc
  · rw [List.eq_of_mem_replicate hzero]
    rfl
  · apply isDigit_of_mem_toDigits hdigit

/-- Leading zeros do not change the number. -/
theorem digitsValue_padded (width n : Nat) :
  digitsValue (padded width n) = n
  := by
  rw [padded, digitsValue_append, digitsValue_replicate_zero, zero_mul, zero_add,
    digitsValue_toDigits]

theorem length_padded (width n : Nat) :
  (padded width n).length = max width (Nat.toDigits 10 n).length
  := by
  rw [padded, List.length_append, List.length_replicate]
  omega

theorem length_padded_le {width n k : Nat} (hk : 0 < k) (hwidth : width ≤ k) (hn : n < 10 ^ k) :
  (padded width n).length ≤ k
  := by
  rw [length_padded]
  apply max_le hwidth
  apply (Nat.length_toDigits_le_iff (by decide) hk).mpr hn

theorem padded_ne_nil (width n : Nat) :
  padded width n ≠ []
  := by
  rw [padded]
  apply List.append_ne_nil_of_right_ne_nil _ (toDigits_ne_nil n)

theorem exists_padded_eq_cons (width n : Nat) :
  ∃ d ds, padded width n = d :: ds ∧ d.isDigit
  := by
  obtain ⟨d, ds, hds⟩ := List.exists_cons_of_ne_nil (padded_ne_nil width n)
  have hd : d ∈ padded width n := by
    rw [hds]
    apply List.mem_cons_self
  use d, ds, hds, isDigit_of_mem_padded hd

namespace Scanner

/-! ### Steps of a scanner -/

section

variable {α β : Type}

theorem pure_apply (a : α) (s : List Char) :
  (pure a : Scanner α) s = some (a, s)
  := rfl

theorem bind_apply (p : Scanner α) (f : α → Scanner β) (s : List Char) :
  (p >>= f) s = (p s).bind fun x => f x.1 x.2
  := rfl

theorem bind_of_eq_some {p : Scanner α} {a : α} {s r : List Char} (h : p s = some (a, r))
    (f : α → Scanner β) :
  (p >>= f) s = f a r
  := by
  rw [bind_apply, h, Option.bind_some]

theorem bind_of_eq_none {p : Scanner α} {s : List Char} (h : p s = none) (f : α → Scanner β) :
  (p >>= f) s = none
  := by
  rw [bind_apply, h, Option.bind_none]

theorem map_apply (f : α → β) (p : Scanner α) (s : List Char) :
  (f <$> p) s = (p s).map fun x => (f x.1, x.2)
  := by
  rw [Option.map_eq_bind]
  rfl

theorem guard_apply {P : Prop} [Decidable P] (s : List Char) :
  (guard P : Scanner Unit) s = if P then some ((), s) else none
  := by
  split
  · next h => rw [guard, if_pos h, pure_apply]
  · next h => rw [guard, if_neg h]; rfl

theorem any_cons (c : Char) (s : List Char) :
  any (c :: s) = some (c, s)
  := rfl

theorem char_cons (c d : Char) (s : List Char) :
  char c (d :: s) = if d = c then some ((), s) else none
  := by
  rw [char, bind_apply, any_cons]
  simp [guard_apply]

theorem char_self (c : Char) (s : List Char) :
  char c (c :: s) = some ((), s)
  := by
  rw [char_cons, if_pos rfl]

theorem optional_self (c : Char) (s : List Char) :
  optional c (c :: s) = some (true, s)
  := if_pos rfl

theorem optional_of_head? {c : Char} {s : List Char} (h : ∀ d ∈ s.head?, d ≠ c) :
  optional c s = some (false, s)
  := by
  cases s with
  | nil => rfl
  | cons d s => exact if_neg (h d rfl)

theorem all?_eq_some {p : Scanner α} {s : List Char} {a : α} (h : p s = some (a, [])) :
  all? p s = some a
  := by
  rw [all?, h]

theorem all?_eq_none {p : Scanner α} {s : List Char} (h : p s = none) :
  all? p s = none
  := by
  rw [all?, h]

/-- No name is taken off a text whose first letter begins none of the names. -/
theorem oneOf_eq_none {names : List String} {c : Char} {s : List Char}
    (h : ∀ name ∈ names, ∃ d r, name.toList = d :: r ∧ c.toLower ≠ d) :
  oneOf names (c :: s) = none
  := by
  rw [oneOf, List.findSome?_eq_none_iff]
  rintro ⟨name, i⟩ hname
  obtain ⟨d, r, hd, hne⟩ := h name (List.fst_mem_of_mem_zipIdx hname)
  have hword : word name (c :: s) = none := by
    simp [word, hd, hne]
  simp only [hword]

end

/-! ### Digits -/

theorem digits_append {least most : Nat} {ds rest : List Char} (hdigits : ∀ c ∈ ds, c.isDigit)
    (hleast : least ≤ ds.length) (hmost : ds.length ≤ most)
    (hends : ds.length = most ∨ ∀ c ∈ rest.head?, ¬ c.isDigit) :
  digits least most (ds ++ rest) = some (ds, rest)
  := by
  have htake : ((ds ++ rest).takeWhile Char.isDigit).take most = ds := by
    obtain hfull | hends := hends
    · rw [List.takeWhile_append_of_pos hdigits, ← hfull, List.take_left]
    · rw [takeWhile_digits hends hdigits, List.take_of_length_le hmost]
  rw [digits, htake, if_neg (by omega), List.drop_left]

/-- A number that is taken leaves the text without its digits. -/
theorem exists_drop_eq_of_number {least most n : Nat} {s r : List Char}
    (h : number least most s = some (n, r)) :
  ∃ k ≤ most, r = s.drop k
  := by
  rw [number, map_apply, Option.map_eq_some_iff] at h
  obtain ⟨⟨ds, r'⟩, hdigits, heq⟩ := h
  obtain ⟨-, rfl⟩ := Prod.mk.inj heq
  rw [digits] at hdigits
  split at hdigits
  · contradiction
  · obtain ⟨-, rfl⟩ := Prod.mk.inj (Option.some.inj hdigits)
    exact ⟨_, List.length_take_le _ _, rfl⟩

theorem number_append {least most : Nat} {ds rest : List Char} (hdigits : ∀ c ∈ ds, c.isDigit)
    (hleast : least ≤ ds.length) (hmost : ds.length ≤ most)
    (hends : ds.length = most ∨ ∀ c ∈ rest.head?, ¬ c.isDigit) :
  number least most (ds ++ rest) = some (digitsValue ds, rest)
  := by
  rw [number, map_apply, digits_append hdigits hleast hmost hends, Option.map_some]

/-- A number that fills its width is taken off the front of a text. -/
theorem number_padded_full {least width n : Nat} (hleast : least ≤ width) (hwidth : 0 < width)
    (hn : n < 10 ^ width) (rest : List Char) :
  number least width (padded width n ++ rest) = some (n, rest)
  := by
  have hlength := length_padded width n
  have hle := length_padded_le hwidth le_rfl hn
  rw [number_append (fun c hc => isDigit_of_mem_padded hc) (by omega) hle (Or.inl (by omega)),
    digitsValue_padded]

/-- A number is taken off the front of a text if no digit follows it. -/
theorem number_padded {most width n : Nat} {rest : List Char} (hmost : 0 < most)
    (hwidth : width ≤ most) (hn : n < 10 ^ most) (hends : ∀ c ∈ rest.head?, ¬ c.isDigit) :
  number 1 most (padded width n ++ rest) = some (n, rest)
  := by
  have hpos := List.length_pos_iff.mpr (padded_ne_nil width n)
  have hle := length_padded_le hmost hwidth hn
  rw [number_append (fun c hc => isDigit_of_mem_padded hc) hpos hle (Or.inr hends),
    digitsValue_padded]

/-- A number with too few digits is not taken. -/
theorem number_padded_eq_none {least most width n k : Nat} {rest : List Char} (hk : 0 < k)
    (hwidth : width ≤ k) (hn : n < 10 ^ k) (hleast : k < least)
    (hends : ∀ c ∈ rest.head?, ¬ c.isDigit) :
  number least most (padded width n ++ rest) = none
  := by
  have hlength := length_padded_le hk hwidth hn
  have hdigits : digits least most (padded width n ++ rest) = none := by
    rw [digits, takeWhile_digits hends (fun c hc => isDigit_of_mem_padded hc)]
    apply if_pos
    rw [List.length_take]
    omega
  rw [number, map_apply, hdigits, Option.map_none]

end Scanner

end FieldFormula.Calendar
