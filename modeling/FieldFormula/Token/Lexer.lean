import FieldFormula.Token

/-!
# Reading tokens

`Token.ofSource` reads a source from left to right and never fails.  Blanks and comments
are skipped, and then the next characters decide which rule reads a token.  Each rule
takes at least one character, so the rest is shorter than what was read.
-/

namespace FieldFormula.Token

/-! ### Blanks and comments -/

/-- A text without the blanks and the comments at its front.  A comment begins with two
slashes and ends before a line feed. -/
def skip (s : List Char) : List Char :=
  match s with
  | [] => []
  | '/' :: '/' :: r => skip (r.dropWhile (· != '\n'))
  | c :: r => if Text.isBlank c then skip r else c :: r
termination_by s.length
decreasing_by
  · have := (List.dropWhile_sublist (l := r) (· != '\n')).length_le
    simp only [List.length_cons]
    omega
  · simp

theorem length_skip_le (s : List Char) :
  (skip s).length ≤ s.length
  := by
  fun_induction skip s with
  | case1 => simp
  | case2 r ih =>
    have := (List.dropWhile_sublist (l := r) (· != '\n')).length_le
    simp only [List.length_cons] at *
    omega
  | case3 c r _ _ ih =>
    simp only [List.length_cons]
    omega
  | case4 => simp

/-! ### The rules -/

/-- The characters before the first closing pair of brackets, and those after it. -/
def splitField : List Char → List Char × List Char
  | [] => ([], [])
  | ']' :: ']' :: r => ([], r)
  | c :: r =>
    let (name, rest) := splitField r
    (c :: name, rest)

/-- The characters before the closing double quote, and those after it.  A backslash
stands for the character after it. -/
def splitEscaped : List Char → List Char × List Char
  | [] => ([], [])
  | '"' :: r => ([], r)
  | '\\' :: c :: r =>
    let (inner, rest) := splitEscaped r
    (c :: inner, rest)
  | c :: r =>
    let (inner, rest) := splitEscaped r
    (c :: inner, rest)

/-- The characters that may follow the first digit of a number. -/
def isNumberChar (c : Char) : Bool :=
  c.isDigit || c == '.'

/-- The characters of a function name. -/
def isNameChar (c : Char) : Bool :=
  c.isAlphanum || c == '_'

/-- The characters that end a run. -/
def endsRun (c : Char) : Bool :=
  Text.isBlank c || ['[', ']', '(', ')', ';', ',', '='].contains c

/-- The number written by a numeral of digits and points, which may not be one number. -/
def numberOfChars (s : List Char) : Token :=
  .number ((Decimal.readFront? s).getD (0.0 / 0.0))

/-- The number at the front of a text after its `lead`, and the rest of the text. -/
def takeNumber (lead s : List Char) : Token × List Char :=
  (numberOfChars (lead ++ s.takeWhile isNumberChar), s.dropWhile isNumberChar)

/-- The function name at the front of a text, in capitals, and the rest of the text. -/
def takeFunction (lead s : List Char) : Token × List Char :=
  (.function (String.ofList (lead ++ (s.takeWhile isNameChar).map Char.toUpper)),
    s.dropWhile isNameChar)

/-- The token at the front of a text that begins with the character `c`, and the rest of
the text. -/
def next (c : Char) (r : List Char) : Token × List Char :=
  match c, r with
  | '[', '[' :: r =>
    let (name, rest) := splitField r
    (.field (String.ofList (Text.trim name)), rest)
  | '"', r =>
    let (inner, rest) := splitEscaped r
    (.quoted (String.ofList inner), rest)
  | '\'', r =>
    (.quoted (String.ofList (r.takeWhile (· != '\''))), (r.dropWhile (· != '\'')).drop 1)
  | '=', '!' :: r => takeFunction ['!'] r
  | '=', r => takeFunction [] r
  | '(', r => (.leftParen, r)
  | ')', r => (.rightParen, r)
  | ';', r => (.semicolon, r)
  | ',', r => (.comma, r)
  | c, r =>
    if c.isDigit then takeNumber [c] r
    else if c = '-' ∧ (r.head?.any Char.isDigit) then takeNumber ['-'] r
    else if ['+', '-', '*', '/', '%'].contains c then (.operator c, r)
    else if c = '[' ∨ c = ']' then (.text (String.ofList [c]), r)
    else (ofRun (c :: r.takeWhile (!endsRun ·)), r.dropWhile (!endsRun ·))

/-! ### No rule gives characters back -/

theorem length_splitField_le (s : List Char) :
  (splitField s).2.length ≤ s.length
  := by
  fun_induction splitField s <;> simp_all <;> omega

theorem length_splitEscaped_le (s : List Char) :
  (splitEscaped s).2.length ≤ s.length
  := by
  fun_induction splitEscaped s <;> simp_all <;> omega

theorem length_dropWhile_le {p : Char → Bool} (s : List Char) :
  (s.dropWhile p).length ≤ s.length
  := (List.dropWhile_sublist p).length_le

theorem length_next_le (c : Char) (r : List Char) :
  (next c r).2.length ≤ r.length
  := by
  unfold next
  split
  · next r =>
    have := length_splitField_le r
    simp only [List.length_cons]
    omega
  · exact length_splitEscaped_le r
  · have := length_dropWhile_le (p := (· != '\'')) r
    simp only [List.length_drop]
    omega
  · next r =>
    have := length_dropWhile_le (p := isNameChar) r
    simp only [takeFunction, List.length_cons]
    omega
  · exact length_dropWhile_le r
  · simp
  · simp
  · simp
  · simp
  · split
    · exact length_dropWhile_le r
    · split
      · exact length_dropWhile_le r
      · split
        · simp
        · split
          · simp
          · exact length_dropWhile_le r

/-! ### All tokens -/

/-- The tokens of a source. -/
def ofChars (s : List Char) : List Token :=
  match _h : skip s with
  | [] => []
  | c :: r => (next c r).1 :: ofChars (next c r).2
termination_by s.length
decreasing_by
  have h₁ := length_skip_le s
  have h₂ := length_next_le c r
  rw [_h] at h₁
  simp only [List.length_cons] at h₁
  omega

/-- The tokens of a source. -/
def ofSource (source : String) : List Token :=
  ofChars source.toList

end FieldFormula.Token
