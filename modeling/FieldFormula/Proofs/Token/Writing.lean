import FieldFormula.Proofs.Decimal.Longest
import FieldFormula.Text.Search
import FieldFormula.Token.Lexer
import Mathlib.Tactic.Use

/-!
# Writing tokens

A `Lexeme` is a token together with what its spelling needs to be read back: no closing
pair of brackets in a field name, no blank in a run, and so on.  `Lexeme.write` is the
spelling, and `writeAll` puts a space between the spellings of neighbours.

* `splitField_append`: the name of a field ends at the first closing pair of brackets.
* `splitEscaped_escape`: reading a quoted text undoes its escapes.
* `Lexeme.ofChars_append`: the reading of a lexeme stops at the space after it.
* `ofSource_writeAll`: reading undoes writing.
-/

namespace FieldFormula.Token

/-! ### Spellings -/

/-- The symbols of the operators. -/
def operators : List Char := ['+', '-', '*', '/', '%']

/-- The spelling of a character of a text in double quotes. -/
def escape (c : Char) : List Char :=
  if c = '"' ∨ c = '\\' then ['\\', c] else [c]

/-- Capitals, digits and underscores, after an optional exclamation mark. -/
def IsFunctionName (s : List Char) : Prop :=
  ∃ lead name, s = lead ++ name ∧ (lead = [] ∨ lead = ['!']) ∧
    ∀ c ∈ name, c.isUpper ∨ c.isDigit ∨ c = '_'

/-- A digit after an optional minus sign, and then digits and points in any order. -/
def IsNumeral (s : List Char) : Prop :=
  ∃ sign c r, s = sign ++ c :: r ∧ (sign = [] ∨ sign = ['-']) ∧ c.isDigit ∧
    ∀ d ∈ r, d.isDigit ∨ d = '.'

/-- A text that is read back as a run of its own. -/
structure IsRun (s : List Char) : Prop where
  head : ∃ c r, s = c :: r ∧ c ∉ '"' :: '\'' :: operators ∧ ¬ c.isDigit
  inside : ∀ c ∈ s, ¬ Text.isBlank c ∧ c ∉ ['[', ']', '(', ')', ';', ',', '=']
  /-- The text is no point before digits alone, which would be a number. -/
  fraction : ∀ r, s = '.' :: r → r ≠ [] → ∃ c ∈ r, ¬ c.isDigit

/-- Every numeral begins with a number. -/
theorem isSome_readFront? {s : List Char} (hs : IsNumeral s) :
  (Decimal.readFront? s).isSome
  := by
  obtain ⟨sign, c, r, rfl, hsign, hc, -⟩ := hs
  have hdigit : Decimal.IsMantissa [c] [c] [] := .whole ⟨List.cons_ne_nil c [], by simpa using hc⟩
  have hwrites : ∃ x, Decimal.Writes (sign ++ [c]) x := by
    rcases hsign with rfl | rfl
    · exact ⟨_, hdigit.writes false⟩
    · exact ⟨_, hdigit.writes true⟩
  obtain ⟨x, h⟩ := hwrites
  have hfront := h.isSome_readFront?_append r
  rwa [List.append_assoc, List.singleton_append] at hfront

/-- A token together with a spelling of it. -/
inductive Lexeme where
  | field (name : String) (trimmed : Text.trim name.toList = name.toList)
    (unclosed : ¬ [']', ']'] <:+: name.toList)
  | quoted (s : String)
  | number (numeral : List Char) (h : IsNumeral numeral)
  | function (name : String) (h : IsFunctionName name.toList)
  | leftParen
  | rightParen
  | semicolon
  | comma
  | operator (symbol : Char) (h : symbol ∈ operators)
  | bracket (symbol : Char) (h : symbol = '[' ∨ symbol = ']')
  | run (s : String) (h : IsRun s.toList)

namespace Lexeme

/-- The token of a lexeme. -/
def token : Lexeme → Token
  | field name _ _ => .field name
  | quoted s => .quoted s
  | number numeral h => .number ((Decimal.readFront? numeral).get (isSome_readFront? h))
  | function name _ => .function name
  | leftParen => .leftParen
  | rightParen => .rightParen
  | semicolon => .semicolon
  | comma => .comma
  | operator symbol _ => .operator symbol
  | bracket symbol _ => .text (String.ofList [symbol])
  | run s _ => .text s

/-- The spelling of a lexeme. -/
def write : Lexeme → List Char
  | field name _ _ => '[' :: '[' :: ' ' :: (name.toList ++ [' ', ']', ']'])
  | quoted s => '"' :: (s.toList.flatMap escape ++ ['"'])
  | number numeral _ => numeral
  | function name _ => '=' :: name.toList
  | leftParen => ['(']
  | rightParen => [')']
  | semicolon => [';']
  | comma => [',']
  | operator symbol _ => [symbol]
  | bracket symbol _ => [symbol]
  | run s _ => s.toList

end Lexeme

/-- The spellings of lexemes, with a space between neighbours. -/
def writeAll (ls : List Lexeme) : String :=
  String.ofList (Text.join [' '] (ls.map Lexeme.write))

/-! ### What follows a lexeme -/

/-- A text that is empty or begins with a space. -/
def IsSeparated (s : List Char) : Prop :=
  ∀ c ∈ s.head?, c = ' '

theorem isSeparated_nil : IsSeparated [] := by
  simp [IsSeparated]

theorem isSeparated_space (s : List Char) :
  IsSeparated (' ' :: s)
  := by
  simp [IsSeparated]

theorem IsSeparated.eq_nil_or {s : List Char} (h : IsSeparated s) :
  s = [] ∨ ∃ r, s = ' ' :: r
  := by
  cases s with
  | nil => exact .inl rfl
  | cons c r =>
    obtain rfl : c = ' ' := h c rfl
    exact .inr ⟨r, rfl⟩

theorem takeWhile_append_eq
    {p : Char → Bool} {s rest : List Char} (hs : ∀ c ∈ s, p c = true) (hp : p ' ' = false)
    (hrest : IsSeparated rest) :
  (s ++ rest).takeWhile p = s
  := by
  rw [List.takeWhile_append_of_pos hs]
  obtain rfl | ⟨r, rfl⟩ := hrest.eq_nil_or
  · simp
  · simp [hp]

theorem dropWhile_append_eq
    {p : Char → Bool} {s rest : List Char} (hs : ∀ c ∈ s, p c = true) (hp : p ' ' = false)
    (hrest : IsSeparated rest) :
  (s ++ rest).dropWhile p = rest
  := by
  rw [List.dropWhile_append_of_pos hs]
  obtain rfl | ⟨r, rfl⟩ := hrest.eq_nil_or
  · rfl
  · simp [hp]

theorem skip_cons {c : Char} {s : List Char}
    (hblank : Text.isBlank c = false) (hcomment : c = '/' → s.head? ≠ some '/') :
  skip (c :: s) = c :: s
  := by
  unfold skip
  split
  · contradiction
  · next r heq =>
    simp only [List.cons.injEq] at heq
    simp [heq] at hcomment
  · next d r _ heq =>
    simp only [List.cons.injEq] at heq
    simp [← heq.1, ← heq.2, hblank]

theorem skip_space (s : List Char) :
  skip (' ' :: s) = skip s
  := by
  rw [skip.eq_def]
  rfl

theorem ofChars_cons {c : Char} {s rest : List Char} {t : Token}
    (hblank : Text.isBlank c = false) (hcomment : c = '/' → s.head? ≠ some '/')
    (hnext : next c s = (t, rest)) :
  ofChars (c :: s) = t :: ofChars rest
  := by
  rw [ofChars]
  split
  · next h => simp [skip_cons hblank hcomment] at h
  · next d r h =>
    rw [skip_cons hblank hcomment] at h
    obtain ⟨rfl, rfl⟩ := List.cons.inj h
    rw [hnext]

theorem ofChars_nil :
  ofChars [] = []
  := by
  rw [ofChars]
  split
  · rfl
  · next h =>
    rw [skip.eq_def] at h
    contradiction

theorem ofChars_space (s : List Char) :
  ofChars (' ' :: s) = ofChars s
  := by
  rw [ofChars, ofChars, skip_space]

/-! ### One lemma for each rule -/

/-- The name of a field ends at the first closing pair of brackets. -/
theorem splitField_append {name : List Char} (h : ¬ [']', ']'] <:+: name) (rest : List Char) :
  splitField (name ++ ' ' :: ']' :: ']' :: rest) = (name ++ [' '], rest)
  := by
  induction name with
  | nil => simp [splitField]
  | cons c name ih =>
    rw [List.infix_cons_iff, not_or] at h
    have hopen : ∀ r, c = ']' → name ++ ' ' :: ']' :: ']' :: rest = ']' :: r → False := by
      rintro r rfl hr
      cases name with
      | nil => simp at hr
      | cons d name =>
        obtain rfl : d = ']' := (List.cons.inj hr).1
        simp at h
    rw [List.cons_append, splitField.eq_3 _ _ hopen, ih h.2]
    rfl

/-- Blanks around a text are trimmed. -/
theorem trim_spaces (s : List Char) :
  Text.trim (' ' :: (s ++ [' '])) = Text.trim s
  := by
  have hspace : Text.isBlank ' ' = true := rfl
  simp only [Text.trim, Text.trimStart, List.dropWhile_cons_of_pos hspace, List.dropWhile_append]
  split
  · next h => simp [List.isEmpty_iff.1 h, Text.trimEnd]
  · simp [Text.trimEnd, hspace]

theorem next_field {name : List Char}
    (htrim : Text.trim name = name) (h : ¬ [']', ']'] <:+: name) (rest : List Char) :
  next '[' ('[' :: ' ' :: (name ++ ' ' :: ']' :: ']' :: rest))
    = (.field (String.ofList name), rest)
  := by
  have hspace : ¬ [']', ']'] <:+: ' ' :: name := by
    simp [List.infix_cons_iff, h]
  have hsplit := splitField_append hspace rest
  rw [List.cons_append] at hsplit
  simp only [next, hsplit, List.cons_append, trim_spaces, htrim]

/-- Reading a text in double quotes undoes its escapes. -/
theorem splitEscaped_escape (s rest : List Char) :
  splitEscaped (s.flatMap escape ++ '"' :: rest) = (s, rest)
  := by
  induction s with
  | nil => rfl
  | cons c s ih =>
    rw [List.flatMap_cons, List.append_assoc]
    by_cases hc : c = '"' ∨ c = '\\'
    · rw [escape, if_pos hc]
      simp [splitEscaped, ih]
    · rw [escape, if_neg hc]
      rw [not_or] at hc
      simp [splitEscaped, ih, hc]

theorem next_quoted (s rest : List Char) :
  next '"' (s.flatMap escape ++ '"' :: rest) = (.quoted (String.ofList s), rest)
  := by
  simp only [next, splitEscaped_escape]

theorem toUpper_of_isUpper {c : Char} (h : c.isUpper ∨ c.isDigit ∨ c = '_') :
  c.toUpper = c
  := by
  have hle : c.val ≤ 'Z'.val ∨ c.val ≤ '9'.val ∨ c = '_' := by
    obtain h | h | h := h
    · exact .inl (of_decide_eq_true h).2
    · exact .inr (.inl (of_decide_eq_true (Bool.and_eq_true_iff.1 h).2))
    · exact .inr (.inr h)
  have hlow : ¬ ('a'.val ≤ c.val ∧ c.val ≤ 'z'.val) := by
    rintro ⟨ha, -⟩
    obtain h | h | rfl := hle
    · exact absurd (UInt32.le_trans ha h) (by decide)
    · exact absurd (UInt32.le_trans ha h) (by decide)
    · exact absurd ha (by decide)
  exact dif_neg hlow

theorem isNameChar_of_isUpper {c : Char} (h : c.isUpper ∨ c.isDigit ∨ c = '_') :
  isNameChar c = true
  := by
  have hchar : isNameChar c = (c.isUpper || c.isLower || c.isDigit || c == '_') := rfl
  rcases h with h | h | rfl
  · simp [hchar, h]
  · simp [hchar, h]
  · rfl

theorem takeFunction_append {name rest : List Char}
    (h : ∀ c ∈ name, c.isUpper ∨ c.isDigit ∨ c = '_') (hrest : IsSeparated rest)
    (lead : List Char) :
  takeFunction lead (name ++ rest) = (.function (String.ofList (lead ++ name)), rest)
  := by
  have hname : ∀ c ∈ name, isNameChar c = true := fun c hc => isNameChar_of_isUpper (h c hc)
  have hupper : name.map Char.toUpper = name := by
    rw [List.map_congr_left fun c hc => toUpper_of_isUpper (h c hc), List.map_id']
  rw [takeFunction, takeWhile_append_eq hname rfl hrest, dropWhile_append_eq hname rfl hrest,
    hupper]

theorem next_equals {s : List Char} (h : s.head? ≠ some '!') :
  next '=' s = takeFunction [] s
  := by
  unfold next
  split <;> simp_all

theorem next_function {name rest : List Char}
    (h : IsFunctionName name) (hrest : IsSeparated rest) :
  next '=' (name ++ rest) = (.function (String.ofList name), rest)
  := by
  obtain ⟨lead, name, rfl, rfl | rfl, hname⟩ := h
  · rw [List.nil_append, next_equals, takeFunction_append hname hrest, List.nil_append]
    -- neither a name without a mark nor what follows it begins with the mark
    intro hmark
    cases name with
    | nil => exact absurd (hrest '!' hmark) (by decide)
    | cons c name =>
      obtain rfl : c = '!' := Option.some.inj hmark
      exact absurd (hname '!' List.mem_cons_self) (by decide)
  · exact takeFunction_append hname hrest ['!']

/-- The characters that begin only one kind of token. -/
def leads : List Char := ['[', '"', '\'', '=', '(', ')', ';', ',']

/-- The rules for the characters that do not settle the kind of the token. -/
theorem next_of_notMem_leads {c : Char} (h : c ∉ leads) (r : List Char) :
  next c r =
    if c.isDigit then takeNumber [c] r
    else if c = '-' ∧ (r.head?.any Char.isDigit) then takeNumber ['-'] r
    else if operators.contains c then (.operator c, r)
    else if c = '[' ∨ c = ']' then (.text (String.ofList [c]), r)
    else (ofRun (c :: r.takeWhile (!endsRun ·)), r.dropWhile (!endsRun ·))
  := by
  unfold next
  split
  case h_10 => rfl
  all_goals simp [leads] at h

theorem notMem_leads_of_isDigit {c : Char} (hc : c.isDigit) :
  c ∉ leads
  := by
  have hleads : ∀ d ∈ leads, d.isDigit = false := by simp [leads]
  intro hmem
  simp [hleads c hmem] at hc

theorem takeNumber_append {r rest : List Char}
    (h : ∀ d ∈ r, d.isDigit ∨ d = '.') (hrest : IsSeparated rest) (lead : List Char) :
  takeNumber lead (r ++ rest) = (numberOfChars (lead ++ r), rest)
  := by
  have hr : ∀ d ∈ r, isNumberChar d = true := fun d hd => by simpa [isNumberChar] using h d hd
  rw [takeNumber, takeWhile_append_eq hr rfl hrest, dropWhile_append_eq hr rfl hrest]

theorem numberOfChars_eq {s : List Char} (h : IsNumeral s) :
  numberOfChars s = .number ((Decimal.readFront? s).get (isSome_readFront? h))
  := by
  rw [numberOfChars, Option.get_eq_getD]

theorem next_numeral {s rest : List Char} (h : IsNumeral s) (hrest : IsSeparated rest) :
  ∃ c r, s = c :: r ∧ Text.isBlank c = false ∧ c ≠ '/' ∧
    next c (r ++ rest) = (numberOfChars s, rest)
  := by
  obtain ⟨sign, c, r, rfl, rfl | rfl, hc, hr⟩ := h
  · use c, r, rfl, Decimal.not_isBlank_of_isDigit hc
    constructor
    · rintro rfl
      contradiction
    · rw [next_of_notMem_leads (notMem_leads_of_isDigit hc), if_pos hc,
        takeNumber_append hr hrest]
      rfl
  · have hcr : ∀ d ∈ c :: r, d.isDigit ∨ d = '.' := List.forall_mem_cons.2 ⟨.inl hc, hr⟩
    use '-', c :: r, rfl, rfl, by decide
    rw [next_of_notMem_leads (by decide), if_neg (by decide), if_pos (by simp [hc]),
      takeNumber_append hcr hrest]

theorem next_operator {c : Char} {rest : List Char}
    (hc : c ∈ operators) (hrest : IsSeparated rest) :
  next c rest = (.operator c, rest)
  := by
  have hleads : ∀ d ∈ operators, d ∉ leads := by simp [operators, leads]
  have hdigit : ∀ d ∈ operators, d.isDigit = false := by simp [operators]
  have hhead : rest.head?.any Char.isDigit = false := by
    obtain rfl | ⟨r, rfl⟩ := hrest.eq_nil_or
    · rfl
    · rfl
  rw [next_of_notMem_leads (hleads c hc)]
  simp [hdigit c hc, hhead, hc]

theorem next_bracket {c : Char} {rest : List Char}
    (hc : c = '[' ∨ c = ']') (hrest : IsSeparated rest) :
  next c rest = (.text (String.ofList [c]), rest)
  := by
  rcases hc with rfl | rfl
  · obtain rfl | ⟨r, rfl⟩ := hrest.eq_nil_or
    · rfl
    · rfl
  · rfl

theorem beginsWithDate_eq_false {c : Char} {r : List Char} (hc : ¬ c.isDigit) :
  beginsWithDate (c :: r) = false
  := by
  unfold beginsWithDate
  split
  · next heq =>
    obtain rfl := (List.cons.inj heq).1
    simp [hc]
  · rfl

theorem isPlainNumber_eq_false {c : Char} {r : List Char}
    (hc : ¬ c.isDigit) (hr : c = '.' → r ≠ [] → ∃ d ∈ r, ¬ d.isDigit) :
  isPlainNumber (c :: r) = false
  := by
  rw [isPlainNumber, List.dropWhile_cons_of_neg hc]
  split
  · contradiction
  · next heq =>
    obtain ⟨rfl, rfl⟩ := List.cons.inj heq
    cases r with
    | nil => rfl
    | cons d r =>
      obtain ⟨e, he, hdigit⟩ := hr rfl (by simp)
      have hall : (d :: r).all Char.isDigit = false := List.all_eq_false.2 ⟨e, he, hdigit⟩
      rw [hall, Bool.and_false]
  · rfl

theorem ofRun_of_isRun {s : List Char} (h : IsRun s) :
  ofRun s = .text (String.ofList s)
  := by
  obtain ⟨c, r, rfl, -, hc⟩ := h.head
  have hnumber := isPlainNumber_eq_false hc fun hpoint => h.fraction r (by rw [hpoint])
  rw [ofRun, beginsWithDate_eq_false hc, hnumber]
  rfl

theorem next_run {s rest : List Char} (h : IsRun s) (hrest : IsSeparated rest) :
  ∃ c r, s = c :: r ∧ Text.isBlank c = false ∧ c ≠ '/' ∧
    next c (r ++ rest) = (.text (String.ofList s), rest)
  := by
  obtain ⟨c, r, rfl, hc, hdigit⟩ := h.head
  have hinside : ∀ d ∈ c :: r, (!endsRun d) = true := by
    intro d hd
    simpa [endsRun] using h.inside d hd
  have hr : ∀ d ∈ r, (!endsRun d) = true := fun d hd => hinside d (List.mem_cons_of_mem c hd)
  obtain ⟨hblank, hends⟩ := h.inside c List.mem_cons_self
  use c, r, rfl, by simpa using hblank
  simp only [operators, List.mem_cons, List.not_mem_nil, or_false, not_or] at hc hends
  use hc.2.2.2.2.2.1
  have hlead : c ∉ leads := by
    simp [leads, hc, hends]
  rw [next_of_notMem_leads hlead, takeWhile_append_eq hr rfl hrest,
    dropWhile_append_eq hr rfl hrest, ofRun_of_isRun h]
  simp [operators, hdigit, hc, hends]

/-! ### Reading undoes writing -/

namespace Lexeme

/-- The reading of a lexeme stops at the space after it. -/
theorem ofChars_append (l : Lexeme) {rest : List Char} (hrest : IsSeparated rest) :
  ofChars (l.write ++ rest) = l.token :: ofChars rest
  := by
  cases l with
  | field name trimmed unclosed =>
    have hnext := next_field trimmed unclosed rest
    rw [String.ofList_toList] at hnext
    rw [write, List.cons_append, List.cons_append, List.cons_append, List.append_assoc]
    exact ofChars_cons rfl (by simp) hnext
  | quoted s =>
    have hnext := next_quoted s.toList rest
    rw [String.ofList_toList] at hnext
    rw [write, List.cons_append, List.append_assoc]
    exact ofChars_cons rfl (by simp) hnext
  | number numeral h =>
    obtain ⟨c, r, rfl, hblank, hslash, hnext⟩ := next_numeral h hrest
    rw [numberOfChars_eq h] at hnext
    exact ofChars_cons hblank (absurd · hslash) hnext
  | function name h =>
    have hnext := next_function h hrest
    rw [String.ofList_toList] at hnext
    exact ofChars_cons rfl (by simp) hnext
  | leftParen => exact ofChars_cons rfl (by simp) rfl
  | rightParen => exact ofChars_cons rfl (by simp) rfl
  | semicolon => exact ofChars_cons rfl (by simp) rfl
  | comma => exact ofChars_cons rfl (by simp) rfl
  | operator symbol h =>
    have hblank : ∀ c ∈ operators, Text.isBlank c = false := by simp [operators, Text.isBlank]
    apply ofChars_cons (hblank symbol h) ?_ (next_operator h hrest)
    -- a space stands between two slashes, so they begin no comment
    rintro - hslash
    exact absurd (hrest '/' hslash) (by decide)
  | bracket symbol h =>
    have hblank : Text.isBlank symbol = false := by
      rcases h with rfl | rfl
      · rfl
      · rfl
    have hslash : symbol ≠ '/' := by
      rintro rfl
      simp at h
    exact ofChars_cons hblank (absurd · hslash) (next_bracket h hrest)
  | run s h =>
    obtain ⟨c, r, hs, hblank, hslash, hnext⟩ := next_run h hrest
    rw [String.ofList_toList] at hnext
    rw [write, hs]
    exact ofChars_cons hblank (absurd · hslash) hnext

end Lexeme

/-- Reading undoes writing: the lexemes come back as their tokens, in order. -/
theorem ofSource_writeAll (ls : List Lexeme) :
  ofSource (writeAll ls) = ls.map Lexeme.token
  := by
  rw [writeAll, ofSource, String.toList_ofList]
  induction ls with
  | nil => exact ofChars_nil
  | cons l ls ih =>
    cases ls with
    | nil =>
      have hlast := l.ofChars_append isSeparated_nil
      rwa [List.append_nil, ofChars_nil] at hlast
    | cons m ls =>
      have hjoin : Text.join [' '] ((l :: m :: ls).map Lexeme.write)
          = l.write ++ ' ' :: Text.join [' '] ((m :: ls).map Lexeme.write) := by
        simp [Text.join]
      rw [hjoin, l.ofChars_append (isSeparated_space _), ofChars_space, ih]
      rfl

end FieldFormula.Token
