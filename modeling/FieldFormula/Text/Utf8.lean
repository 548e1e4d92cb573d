/-!
# Texts as bytes

The encoding UTF-8.  `encode` writes a text as bytes, and `decode` reads bytes as a text.
Bytes that encode no text are refused, with the number of bytes in front of the first one
that begins no character.
-/

namespace FieldFormula.Text

/-- The bytes of a text. -/
def encode (s : List Char) : List UInt8 :=
  s.flatMap String.utf8EncodeChar

/-- The value of the bits that some continuation bytes add to `high`, and the bytes behind
them. -/
def continueCode? : Nat → Nat → List UInt8 → Option (Nat × List UInt8)
  | 0, high, s => some (high, s)
  | _ + 1, _, [] => none
  | n + 1, high, b :: s =>
    if 0x80 ≤ b.toNat ∧ b.toNat < 0xC0 then continueCode? n (high * 64 + (b.toNat - 0x80)) s
    else none

/-- The first character of some bytes, and the bytes behind it.  The code point of a
character of several bytes must need all of them. -/
def decodeFirst? : List UInt8 → Option (Char × List UInt8)
  | [] => none
  | b :: s =>
    let n := b.toNat
    let long (count least high : Nat) : Option (Char × List UInt8) :=
      match continueCode? count high s with
      | some (code, r) =>
        if least ≤ code ∧ code.isValidChar then some (Char.ofNat code, r) else none
      | none => none
    if n < 0x80 then some (Char.ofNat n, s)
    else if n < 0xC0 then none
    else if n < 0xE0 then long 1 0x80 (n - 0xC0)
    else if n < 0xF0 then long 2 0x800 (n - 0xE0)
    else if n < 0xF8 then long 3 0x10000 (n - 0xF0)
    else none

theorem length_of_continueCode? {n high code : Nat} {s r : List UInt8}
    (h : continueCode? n high s = some (code, r)) :
  r.length ≤ s.length
  := by
  induction n generalizing high s with
  | zero =>
    simp only [continueCode?, Option.some.injEq, Prod.mk.injEq] at h
    exact h.2 ▸ Nat.le_refl _
  | succ n ih =>
    cases s with
    | nil => simp [continueCode?] at h
    | cons b s =>
      simp only [continueCode?] at h
      split at h
      · exact Nat.le_succ_of_le (ih h)
      · contradiction

theorem length_of_decodeFirst? {c : Char} {s r : List UInt8}
    (h : decodeFirst? s = some (c, r)) :
  r.length < s.length
  := by
  cases s with
  | nil => simp [decodeFirst?] at h
  | cons b s =>
    have short {count least high : Nat}
        (h : (match continueCode? count high s with
          | some (code, r) =>
            if least ≤ code ∧ code.isValidChar then some (Char.ofNat code, r) else none
          | none => none) = some (c, r)) :
        r.length < (b :: s).length := by
      split at h
      · rename_i code r' hr
        split at h
        · simp only [Option.some.injEq, Prod.mk.injEq] at h
          rw [← h.2]
          exact Nat.lt_succ_of_le (length_of_continueCode? hr)
        · contradiction
      · contradiction
    simp only [decodeFirst?] at h
    split at h
    · simp only [Option.some.injEq, Prod.mk.injEq] at h
      rw [← h.2]
      exact Nat.lt_succ_self _
    · split at h
      · contradiction
      · split at h
        · exact short h
        · split at h
          · exact short h
          · split at h
            · exact short h
            · contradiction

/-- The text of some bytes behind the text read so far, which stands last first, at a
number of bytes from the front. -/
def decodeBehind (before : List Char) (place : Nat) (s : List UInt8) :
    Except Nat (List Char) :=
  if s.isEmpty then .ok before.reverse
  else
    match _h : decodeFirst? s with
    | some (c, r) => decodeBehind (c :: before) (place + c.utf8Size) r
    | none => .error place
termination_by s.length
decreasing_by exact length_of_decodeFirst? _h

/-- The text that bytes encode, or the number of bytes in front of the first fault. -/
def decode (s : List UInt8) : Except Nat (List Char) :=
  decodeBehind [] 0 s

end FieldFormula.Text
