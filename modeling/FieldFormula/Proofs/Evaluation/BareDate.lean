import FieldFormula.Library.Format
import FieldFormula.Proofs.Calendar.Unpadded
import FieldFormula.Proofs.Decimal.Writing
import FieldFormula.Proofs.Evaluation.Calculation
import FieldFormula.Proofs.Token.Numbers

/-!
# Dates without quotation marks

As the argument of a function, a date without quotation marks falls apart into numbers, and a
hyphen between two of them makes the second one negative.  The texts of the numbers side by side
are the date without the leading zeros of its month and its day, which still is read as the date.

* `isArgumentText_of_reaches`: a text whose tokens are parts is read as one argument.
* `Token.ofChars_triple`, `flatMap_chars_triple`: three numbers fall apart into tokens, whose texts
  side by side are the three numbers without leading zeros.
* `exists_toDate?_bareDate`: a date in a year of four digits is an argument with the date form of
  the date.
-/

namespace FieldFormula

open Arithmetic (EndsNumber)
open Calendar (Date DateTime padded triple)
open FieldFormula.Expr (Frame Reading)
open Expr.Reading (Reaches part)

/-! ### Texts of arguments -/

/-- A text that is read as one argument where it stands between the marks around arguments. -/
structure Expr.IsArgumentText (s : List Char) (e : Expr) : Prop where
  /-- Before the closing parenthesis it is the last argument. -/
  close : ∀ name args fs nodes rest,
    Reading.run ⟨⟨name, args, [], 0⟩ :: fs, nodes⟩ (Token.ofChars (s ++ ')' :: rest))
      = Reading.run (Reading.add ⟨fs, nodes⟩ (.call name (args ++ [e]))) (Token.ofChars rest)
  /-- Before a separator it is an argument that others may follow. -/
  separate : ∀ mark ∈ [';', ','], ∀ name args fs nodes rest,
    Reading.run ⟨⟨name, args, [], 0⟩ :: fs, nodes⟩ (Token.ofChars (s ++ mark :: rest))
      = Reading.run ⟨⟨name, args ++ [e], [], 0⟩ :: fs, nodes⟩ (Token.ofChars rest)

namespace Token

theorem ofChars_semicolon (s : List Char) :
  ofChars (';' :: s) = .semicolon :: ofChars s
  := ofChars_cons rfl (by simp) rfl

theorem ofChars_comma (s : List Char) :
  ofChars (',' :: s) = .comma :: ofChars s
  := ofChars_cons rfl (by simp) rfl

end Token

/-- A text whose tokens are parts of the innermost call is read as one argument, with any blanks
and comments around it. -/
theorem Expr.isArgumentText_of_reaches {s : List Char} {ts : List Token} {parts : List Expr}
    (hne : parts ≠ [])
    (htokens : ∀ {rest}, EndsNumber rest → Token.ofChars (s ++ rest) = ts ++ Token.ofChars rest)
    (hreaches : ∀ f fs nodes,
      Reaches ⟨f :: fs, nodes⟩ ts ⟨{ f with parts := f.parts ++ parts } :: fs, nodes⟩)
    {g g' : List Char} (hg : Token.IsGap False g) (hg' : Token.IsGap False g') :
  IsArgumentText (g ++ s ++ g') (ofParts parts)
  := by
  have hrun : ∀ mark rest, EndsNumber (mark :: rest) → ∀ name args fs nodes,
      Reading.run ⟨⟨name, args, [], 0⟩ :: fs, nodes⟩ (Token.ofChars (g ++ s ++ g' ++ mark :: rest))
        = Reading.run ⟨⟨name, args, parts, 0⟩ :: fs, nodes⟩ (Token.ofChars (mark :: rest)) := by
    intro mark rest hrest name args fs nodes
    rw [List.append_assoc, List.append_assoc, hg.ofChars_append, htokens (hg'.endsNumber hrest),
      (hreaches _ _ _).run_append, List.nil_append, hg'.ofChars_append]
  have hargs : ∀ name args, Frame.allArgs ⟨name, args, parts, 0⟩ = args ++ [ofParts parts] :=
    fun name args => Frame.allArgs_of_ne_nil name args hne 0
  constructor
  · intro name args fs nodes rest
    rw [hrun _ _ (Arithmetic.endsNumber_rightParen rest), Token.ofChars_rightParen,
      Reading.run_token _ (by simp), Reading.step_rightParen rfl, Frame.close, hargs]
  · intro mark hmark name args fs nodes rest
    simp only [List.mem_cons, List.not_mem_nil, or_false] at hmark
    obtain rfl | rfl := hmark
    · rw [hrun _ _ (by simp [EndsNumber]), Token.ofChars_semicolon, Reading.run_token _ (by simp),
        Reading.step_semicolon rfl, Frame.endArg, hargs]
    · rw [hrun _ _ (by simp [EndsNumber]), Token.ofChars_comma, Reading.run_token _ (by simp),
        Reading.step_comma rfl, Frame.endArg, hargs]

/-- A call with one argument. -/
theorem Expr.IsArgumentText.ofTokens_call {s : List Char} {e : Expr} (h : IsArgumentText s e)
    (name : String) :
  ofTokens (.function name :: .leftParen :: Token.ofChars (s ++ [')'])) = .ok (.call name [e])
  := by
  have hrun := h.close name [] [] [] []
  rw [Token.ofChars_nil, List.nil_append] at hrun
  rw [ofTokens_eq_run]
  apply hrun

/-! ### Three numbers -/

namespace Token

/-- The tokens of a number behind a separator.  A hyphen belongs to the number. -/
def ofSeparated (separator : Char) (n : Nat) : List Token :=
  if separator = '-' then [.number (-Decimal.nearest n 0)]
  else [.operator separator, .number (Decimal.nearest n 0)]

/-- The tokens of three numbers around a separator. -/
def ofTriple (separator : Char) (a b c : Nat) : List Token :=
  .number (Decimal.nearest a 0) :: (ofSeparated separator b ++ ofSeparated separator c)

variable {separator : Char} (hseparator : separator = '-' ∨ separator = '/')

theorem ofChars_padded (width n : Nat) {rest : List Char} (hrest : EndsNumber rest)
    (negative : Bool) :
  ofChars ((if negative then ['-'] else []) ++ (padded width n ++ rest))
    = .number (if negative then -Decimal.nearest n 0 else Decimal.nearest n 0) :: ofChars rest
  := by
  rw [ofChars_digits (Calendar.padded_ne_nil width n) (fun _ => Calendar.isDigit_of_mem_padded)
    hrest, Calendar.digitsValue_padded]

include hseparator

theorem ofChars_separated (width n : Nat) {rest : List Char} (hrest : EndsNumber rest) :
  ofChars (separator :: (padded width n ++ rest)) = ofSeparated separator n ++ ofChars rest
  := by
  obtain rfl | rfl := hseparator
  · apply ofChars_padded width n hrest true
  · have hnumber := ofChars_padded width n hrest false
    obtain ⟨d, ds, hds, hd⟩ := Calendar.exists_padded_eq_cons width n
    rw [if_neg (by simp), List.nil_append, hds, List.cons_append] at hnumber
    rw [hds, List.cons_append, ofChars_slash hd, hnumber]
    rfl

/-- Three numbers fall apart into tokens, whatever leading zeros they have. -/
theorem ofChars_triple (a b c : Nat × Nat) {rest : List Char} (hrest : EndsNumber rest) :
  ofChars (triple separator a b c ++ rest) = ofTriple separator a.2 b.2 c.2 ++ ofChars rest
  := by
  have hends : ∀ s, EndsNumber (separator :: s) := by
    obtain rfl | rfl := hseparator <;> simp [EndsNumber]
  have hfirst := ofChars_padded a.1 a.2 (hends (padded b.1 b.2 ++ separator :: padded c.1 c.2
    ++ rest)) false
  rw [if_neg (by simp), List.nil_append] at hfirst
  simp only [triple, List.append_assoc, List.cons_append] at hfirst ⊢
  rw [hfirst, ofChars_separated hseparator _ _ (hends _), ofChars_separated hseparator _ _ hrest]
  simp [ofTriple]

end Token

theorem Token.number_or_operator_of_mem_separated {separator : Char} {n : Nat} {t : Token}
    (ht : t ∈ ofSeparated separator n) :
  (∃ x, t = .number x) ∨ ∃ c, t = .operator c
  := by
  rw [ofSeparated] at ht
  split at ht <;> simp at ht
  · exact Or.inl ⟨_, ht⟩
  · obtain rfl | rfl := ht
    · exact Or.inr ⟨_, rfl⟩
    · exact Or.inl ⟨_, rfl⟩

namespace Expr

/-- Within a call, the tokens of three numbers are parts of the argument. -/
theorem reaches_triple (separator : Char) (a b c : Nat) (f : Frame) (fs : List Frame)
    (nodes : List Expr) :
  Reaches ⟨f :: fs, nodes⟩ (Token.ofTriple separator a b c)
    ⟨{ f with parts := f.parts ++ (Token.ofTriple separator a b c).map part } :: fs, nodes⟩
  := by
  rw [← Reading.addAll_frame]
  apply reaches_addAll
  rw [Token.ofTriple, List.forall_mem_cons, List.forall_mem_append]
  use Or.inl ⟨_, rfl⟩
  constructor <;> exact fun _ => Token.number_or_operator_of_mem_separated

/-! ### The texts of the numbers side by side -/

section

variable (ctx : Context)

theorem chars_number_of_denotes {x : Float} {k : Int} (hx : Decimal.Denotes x k)
    (hk : |k| ≤ 2 ^ 53) :
  ((part (.number x)).evaluate ctx).chars = (if k < 0 then ['-'] else [])
    ++ Nat.toDigits 10 k.natAbs
  := by
  rw [part, evaluate, Value.chars, Value.toText, Decimal.numberText_of_denotes hx hk,
    Decimal.toList_toString]

theorem chars_nearest {n : Nat} (hn : n ≤ 2 ^ 53) :
  ((part (.number (Decimal.nearest n 0))).evaluate ctx).chars = padded 1 n
  := by
  have hbound : |(n : Int)| ≤ 2 ^ 53 := by
    rw [Nat.abs_cast]
    exact_mod_cast hn
  rw [chars_number_of_denotes ctx (k := n) (Decimal.denotes_nearest hn) hbound,
    if_neg (Int.natCast_nonneg n).not_gt, Calendar.padded_one]
  rfl

/-- The sign of a negative number stands for the hyphen that was a separator.  The negative zero has
no sign. -/
theorem flatMap_chars_separated {separator : Char} {n : Nat} (hpos : 0 < n) (hn : n ≤ 2 ^ 53) :
  (((Token.ofSeparated separator n).map part).flatMap fun p => (p.evaluate ctx).chars)
    = separator :: padded 1 n
  := by
  rw [Token.ofSeparated]
  split
  · next hseparator =>
    have hdenotes := Decimal.denotes_neg (Decimal.denotes_nearest hn)
    have hbound : |(-n : Int)| ≤ 2 ^ 53 := by
      rw [abs_neg, Nat.abs_cast]
      exact_mod_cast hn
    have hchars := chars_number_of_denotes ctx (k := -n) (by exact_mod_cast hdenotes) hbound
    rw [if_pos (by omega), Int.natAbs_neg, Int.natAbs_natCast, ← Calendar.padded_one] at hchars
    rw [List.map_singleton, List.flatMap_singleton, hchars, hseparator]
    rfl
  · have hchars := chars_nearest ctx hn
    rw [List.map_cons, List.map_singleton, List.flatMap_cons, List.flatMap_singleton, hchars]
    simp [part, evaluate, Value.chars, Value.toText]

theorem flatMap_chars_triple {separator : Char} {a b c : Nat} (ha : a ≤ 2 ^ 53) (hb : 0 < b)
    (hb' : b ≤ 2 ^ 53) (hc : 0 < c) (hc' : c ≤ 2 ^ 53) :
  (((Token.ofTriple separator a b c).map part).flatMap fun p => (p.evaluate ctx).chars)
    = triple separator (1, a) (1, b) (1, c)
  := by
  rw [Token.ofTriple, List.map_cons, List.map_append, List.flatMap_cons, List.flatMap_append,
    chars_nearest ctx ha, flatMap_chars_separated ctx hb hb', flatMap_chars_separated ctx hc hc',
    triple, List.append_assoc, List.cons_append]

end

/-! ### Dates -/

/-- Three numbers without quotation marks are an argument whose text is the three numbers without
leading zeros. -/
theorem exists_chars_triple {separator : Char} (hseparator : separator = '-' ∨ separator = '/')
    {a b c : Nat × Nat} (ha : a.2 < 10 ^ 4) (hb : 0 < b.2) (hb' : b.2 < 10 ^ 4) (hc : 0 < c.2)
    (hc' : c.2 < 10 ^ 4) :
  ∃ e : Expr,
    (∀ g g', Token.IsGap False g → Token.IsGap False g' →
      IsArgumentText (g ++ triple separator a b c ++ g') e)
    ∧ ∀ ctx, (e.evaluate ctx).chars = triple separator (1, a.2) (1, b.2) (1, c.2)
  := by
  use ofParts ((Token.ofTriple separator a.2 b.2 c.2).map part)
  constructor
  · intro g g' hg hg'
    apply isArgumentText_of_reaches (by simp [Token.ofTriple])
      (fun hrest => Token.ofChars_triple hseparator a b c hrest)
      (reaches_triple separator a.2 b.2 c.2) hg hg'
  · intro ctx
    rw [chars_evaluate_ofParts, flatMap_chars_triple] <;> omega

section

variable {d : Date} (hyear : 1000 ≤ d.year) (hyear' : d.year ≤ 9999)

include hyear hyear'

/-- A year without a leading zero needs no width. -/
theorem padded_year :
  padded 1 d.year.natAbs = padded 4 d.year.natAbs
  := by
  rw [Calendar.padded_one, Calendar.padded_of_le (k := 3) (by decide) (by omega)]

theorem exists_toDate?_yearFirst {separator : Char}
    (hseparator : separator = '-' ∨ separator = '/') :
  ∃ e : Expr,
    (∀ g g', Token.IsGap False g → Token.IsGap False g' →
      IsArgumentText (g ++ d.yearFirst separator ++ g') e)
    ∧ ∀ ctx, (e.evaluate ctx).toDate? = some (.ofDate d)
  := by
  have hmonth := d.month_lt
  have hday := d.day_lt
  obtain ⟨hmonth', -, hday', -⟩ := d.isDay
  obtain ⟨e, hread, hchars⟩ := exists_chars_triple hseparator (a := (4, d.year.natAbs))
    (b := (2, d.month)) (c := (2, d.day)) (by omega) hmonth' (by omega) hday' (by omega)
  use e, hread
  intro ctx
  rw [Value.toDate?, hchars, triple, padded_year hyear hyear']
  apply Date.ofText?_unpadded (by omega) hyear' hseparator

theorem exists_toDate?_monthFirst :
  ∃ e : Expr,
    (∀ g g', Token.IsGap False g → Token.IsGap False g' →
      IsArgumentText (g ++ d.monthFirst 2 ++ g') e)
    ∧ ∀ ctx, (e.evaluate ctx).toDate? = some (.ofDate d)
  := by
  have hmonth := d.month_lt
  have hday := d.day_lt
  obtain ⟨-, -, hday', -⟩ := d.isDay
  obtain ⟨e, hread, hchars⟩ := exists_chars_triple (Or.inr rfl) (a := (2, d.month))
    (b := (2, d.day)) (c := (4, d.year.natAbs)) (by omega) hday' (by omega) (by omega) (by omega)
  use e, hread
  intro ctx
  rw [Value.toDate?, hchars, triple, padded_year hyear hyear']
  apply Date.ofText?_monthFirst (by omega) hyear' (show 1 ≤ 2 by decide)

end

/-- A date in a year of four digits without a leading zero, written without quotation marks as all
of an argument but blanks and comments, is an argument with the date form of the date, at
midnight. -/
theorem exists_toDate?_bareDate {d : Date} (hyear : 1000 ≤ d.year) (hyear' : d.year ≤ 9999)
    {s : List Char} (hs : s ∈ [d.yearFirst '-', d.yearFirst '/', d.monthFirst 2]) :
  ∃ e : Expr,
    (∀ g g', Token.IsGap False g → Token.IsGap False g' → IsArgumentText (g ++ s ++ g') e)
    ∧ ∀ ctx, (e.evaluate ctx).toDate? = some (.ofDate d)
  := by
  simp only [List.mem_cons, List.not_mem_nil, or_false] at hs
  obtain rfl | rfl | rfl := hs
  · apply exists_toDate?_yearFirst hyear hyear' (Or.inl rfl)
  · apply exists_toDate?_yearFirst hyear hyear' (Or.inr rfl)
  · apply exists_toDate?_monthFirst hyear hyear'

/-- A leap day with blanks around it, and the first day that has a year without a leading zero, as
the argument of the function that yields the year. -/
theorem exists_toDate?_bareDate_extremes :
  let d : Date := ⟨738944, by decide, by decide⟩
  let d' : Date := ⟨364877, by decide, by decide⟩
  (∃ e, ofSource "=YEAR( 2024-02-29 )" = .ok (.call "YEAR" [e])
      ∧ ∀ ctx, (e.evaluate ctx).toDate? = some (.ofDate d))
    ∧ (∃ e, ofSource "=YEAR(1000/01/01)" = .ok (.call "YEAR" [e])
      ∧ ∀ ctx, (e.evaluate ctx).toDate? = some (.ofDate d'))
    ∧ ∃ e, ofSource "=YEAR(02/29/2024)" = .ok (.call "YEAR" [e])
      ∧ ∀ ctx, (e.evaluate ctx).toDate? = some (.ofDate d)
  := by
  intro d d'
  have hsource : ∀ s e, IsArgumentText s e →
      ofTokens (Token.ofChars ('=' :: 'Y' :: 'E' :: 'A' :: 'R' :: '(' :: (s ++ [')'])))
        = .ok (.call "YEAR" [e]) := by
    intro s e h
    have hlead : Token.next '=' ('Y' :: 'E' :: 'A' :: 'R' :: '(' :: (s ++ [')']))
        = (.function "YEAR", '(' :: (s ++ [')'])) := rfl
    rw [Token.ofChars_cons rfl (by simp) hlead, Token.ofChars_leftParen]
    apply h.ofTokens_call
  have hblank : Token.IsGap False [' '] := .blank rfl .nil
  obtain ⟨e, he, hdate⟩ := exists_toDate?_bareDate (d := d) (by decide +kernel) (by decide +kernel)
    (s := "2024-02-29".toList) (by decide +kernel)
  obtain ⟨e', he', hdate'⟩ := exists_toDate?_bareDate (d := d') (by decide +kernel)
    (by decide +kernel) (s := "1000/01/01".toList) (by decide +kernel)
  obtain ⟨e'', he'', hdate''⟩ := exists_toDate?_bareDate (d := d) (by decide +kernel)
    (by decide +kernel) (s := "02/29/2024".toList) (by decide +kernel)
  refine ⟨⟨e, ?_, hdate⟩, ⟨e', ?_, hdate'⟩, e'', ?_, hdate''⟩
  · apply hsource _ e (he _ _ hblank hblank)
  · apply hsource _ e' (he' _ _ .nil .nil)
  · apply hsource _ e'' (he'' _ _ .nil .nil)

end Expr

end FieldFormula
