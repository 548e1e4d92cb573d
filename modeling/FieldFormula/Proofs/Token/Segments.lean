import FieldFormula.Proofs.Token.Writing
import Mathlib.Data.List.TakeWhile

/-!
# Segments of a source

A source falls into lexemes, one for each of its tokens, and the gaps of blanks and comments
around them.  A lexeme needs nothing of what stands around it: read alone, it is its token.

* `exists_isGap_skip`, `IsGap.skip_append`: what is skipped is a gap.
* `isLocal_next`: the token at the front of a text depends only on the characters that it takes.
* `exists_segments`: the segments of a source.
-/

namespace FieldFormula.Token

/-! ### Gaps -/

/-- Blanks and comments.  A comment ends before a line feed or, in a gap at the end of a
source, with the gap. -/
inductive IsGap (atEnd : Prop) : List Char → Prop
  | nil : IsGap atEnd []
  | blank {c : Char} {g : List Char} (hc : Text.isBlank c) (hg : IsGap atEnd g) :
      IsGap atEnd (c :: g)
  | comment {body g : List Char} (hbody : '\n' ∉ body)
      (hend : g.head? = some '\n' ∨ g = [] ∧ atEnd) (hg : IsGap atEnd g) :
      IsGap atEnd ('/' :: '/' :: (body ++ g))

theorem IsGap.imp {p q : Prop} {g : List Char} (hpq : p → q) (hg : IsGap p g) :
  IsGap q g
  := by
  induction hg with
  | nil => apply IsGap.nil
  | blank hc _ ih => apply IsGap.blank hc ih
  | comment hbody hend _ ih => apply IsGap.comment hbody (hend.imp_right (And.imp_right hpq)) ih

theorem skip_blank {c : Char} (hc : Text.isBlank c) (s : List Char) :
  skip (c :: s) = skip s
  := by
  rw [skip.eq_def]
  split
  · contradiction
  · next heq =>
    obtain rfl := (List.cons.inj heq).1
    contradiction
  · next heq =>
    obtain ⟨rfl, rfl⟩ := List.cons.inj heq
    rw [if_pos hc]

/-- A gap that is not open at its end is skipped. -/
theorem IsGap.skip_append {g : List Char} (hg : IsGap False g) (s : List Char) :
  skip (g ++ s) = skip s
  := by
  induction hg with
  | nil => rfl
  | blank hc _ ih => rw [List.cons_append, skip_blank hc, ih]
  | @comment body g hbody hend _ ih =>
    obtain ⟨r, rfl⟩ := List.head?_eq_some_iff.mp (hend.resolve_right And.right)
    have hline : ∀ c ∈ body, (c != '\n') = true := by
      intro c hc
      rw [bne_iff_ne]
      rintro rfl
      contradiction
    have hdrop : (body ++ '\n' :: r ++ s).dropWhile (· != '\n') = '\n' :: r ++ s := by
      rw [List.append_assoc, List.dropWhile_append_of_pos hline]
      rfl
    rw [List.cons_append, List.cons_append, skip, hdrop, ih]

theorem IsGap.ofChars_append {g : List Char} (hg : IsGap False g) (s : List Char) :
  ofChars (g ++ s) = ofChars s
  := by
  rw [ofChars, ofChars, hg.skip_append]

/-- No gap stands at the front of what skipping leaves. -/
theorem front_of_skip_eq_cons {s r : List Char} {c : Char} (h : skip s = c :: r) :
  Text.isBlank c = false ∧ (c = '/' → r.head? ≠ some '/')
  := by
  fun_induction skip s with
  | case1 => contradiction
  | case2 _ ih => apply ih h
  | case3 _ _ _ _ ih => apply ih h
  | case4 d u hcomment hblank =>
    obtain ⟨rfl, rfl⟩ := List.cons.inj h
    use by simpa using hblank
    rintro rfl hslash
    obtain ⟨v, rfl⟩ := List.head?_eq_some_iff.mp hslash
    apply hcomment v rfl rfl

/-- Dropping all but a character drops everything or stops before the character. -/
theorem dropWhile_bne_eq (a : Char) (r : List Char) :
  r.dropWhile (· != a) = [] ∨ ∃ u, r.dropWhile (· != a) = a :: u
  := by
  have hfront := List.head?_dropWhile_not (· != a) r
  cases h : r.dropWhile (· != a) with
  | nil => exact .inl rfl
  | cons c u =>
    rw [h] at hfront
    obtain rfl : c = a := by simpa using hfront
    exact .inr ⟨u, rfl⟩

/-- What is skipped is a gap, and a comment in it is open at its end only where nothing is
left. -/
theorem exists_isGap_skip (s : List Char) :
  ∃ g, s = g ++ skip s ∧ IsGap (skip s = []) g
  := by
  fun_induction skip s with
  | case1 => exact ⟨[], rfl, .nil⟩
  | case2 r ih =>
    obtain ⟨g, hg, hgap⟩ := ih
    have hbody : '\n' ∉ r.takeWhile (· != '\n') := by
      intro hmem
      have hne := List.mem_takeWhile_imp hmem
      contradiction
    use '/' :: '/' :: (r.takeWhile (· != '\n') ++ g)
    constructor
    · simp only [List.cons_append, List.append_assoc, ← hg, List.takeWhile_append_dropWhile]
    · apply IsGap.comment hbody _ hgap
      obtain hend | ⟨u, hfeed⟩ := dropWhile_bne_eq '\n' r
      · right
        rw [hend] at hg ⊢
        obtain ⟨hnil, hskip⟩ := List.append_eq_nil_iff.mp hg.symm
        exact ⟨hnil, hskip⟩
      · left
        cases g with
        | cons c g =>
          rw [hfeed] at hg
          rw [(List.cons.inj hg).1, List.head?_cons]
        | nil =>
          rw [List.nil_append] at hg
          -- a line feed is blank, so it cannot be what skipping leaves
          have hblank := (front_of_skip_eq_cons (hg.symm.trans hfeed)).1
          contradiction
  | case3 c r _ hblank ih =>
    obtain ⟨g, hg, hgap⟩ := ih
    use c :: g
    constructor
    · rw [List.cons_append, ← hg]
    · apply IsGap.blank hblank hgap
  | case4 => exact ⟨[], rfl, .nil⟩

/-! ### Rules that depend only on what they take -/

/-- A rule that takes characters off the front of a text, and finds the same in them when
they stand alone. -/
def IsLocal {α : Type} (rule : List Char → α × List Char) : Prop :=
  ∀ s, ∃ l, s = l ++ (rule s).2 ∧ rule l = ((rule s).1, [])

/-- A rule that takes nothing. -/
theorem isLocal_const {α : Type} (a : α) :
  IsLocal fun s => (a, s)
  := by
  intro s
  use []
  exact ⟨rfl, rfl⟩

/-- A rule that takes all characters at the front with a property. -/
theorem isLocal_takeWhile {α : Type} (f : List Char → α) (p : Char → Bool) :
  IsLocal fun s => (f (s.takeWhile p), s.dropWhile p)
  := by
  intro s
  have hall : ∀ c ∈ s.takeWhile p, p c := fun c hc => List.mem_takeWhile_imp hc
  use s.takeWhile p, List.takeWhile_append_dropWhile.symm
  simp only [List.takeWhile_idem, List.dropWhile_eq_nil_iff.mpr hall]

theorem isLocal_splitField : IsLocal splitField := by
  intro s
  fun_induction splitField s with
  | case1 => exact ⟨[], rfl, rfl⟩
  | case2 r => exact ⟨[']', ']'], rfl, rfl⟩
  | case3 c r hopen name rest heq ih =>
    obtain ⟨l, hl, hname⟩ := ih
    rw [heq] at hl hname
    use c :: l, congrArg (c :: ·) hl
    have hopen' : ∀ u, c = ']' → l = ']' :: u → False := by
      rintro u rfl rfl
      apply hopen (u ++ rest) rfl hl
    rw [splitField.eq_3 _ _ hopen', hname]

theorem isLocal_splitEscaped : IsLocal splitEscaped := by
  intro s
  fun_induction splitEscaped s with
  | case1 => exact ⟨[], rfl, rfl⟩
  | case2 r => exact ⟨['"'], rfl, rfl⟩
  | case3 c r inner rest heq ih =>
    obtain ⟨l, hl, hinner⟩ := ih
    rw [heq] at hl hinner
    use '\\' :: c :: l, congrArg ('\\' :: c :: ·) hl
    rw [splitEscaped, hinner]
  | case4 c r hquote hescape inner rest heq ih =>
    obtain ⟨l, hl, hinner⟩ := ih
    rw [heq] at hl hinner
    use c :: l, congrArg (c :: ·) hl
    have hescape' : ∀ d u, c = '\\' → l = d :: u → False := by
      rintro d u rfl rfl
      apply hescape d (u ++ rest) rfl hl
    rw [splitEscaped.eq_4 _ _ hquote hescape', hinner]

/-! ### The token at the front of a text -/

/-- A rule followed by a change of its result. -/
theorem IsLocal.map {α β : Type} {rule : List Char → α × List Char} (h : IsLocal rule)
    (f : α → β) :
  IsLocal fun s => (f (rule s).1, (rule s).2)
  := by
  intro s
  obtain ⟨l, hl, hrule⟩ := h s
  use l, hl
  simp only [hrule]

theorem isLocal_takeNumber (lead : List Char) :
  IsLocal (takeNumber lead)
  := isLocal_takeWhile (fun r => numberOfChars (lead ++ r)) isNumberChar

theorem isLocal_takeFunction (lead : List Char) :
  IsLocal (takeFunction lead)
  := isLocal_takeWhile (fun r => Token.function (String.ofList (lead ++ r.map Char.toUpper)))
    isNameChar

/-- A text in single quotes runs up to the next single quote or the end. -/
theorem isLocal_singleQuote : IsLocal (next '\'') := by
  intro s
  have hall : ∀ c ∈ s.takeWhile (· != '\''), (c != '\'') = true := by
    intro c hc
    apply List.mem_takeWhile_imp (p := (· != '\'')) hc
  have hs := List.takeWhile_append_dropWhile (p := (· != '\'')) (l := s)
  obtain hend | ⟨u, hquote⟩ := dropWhile_bne_eq '\'' s
  · use s.takeWhile (· != '\'')
    simp only [next, hend, List.drop_nil, List.append_nil, List.takeWhile_idem,
      List.dropWhile_eq_nil_iff.mpr hall] at hs ⊢
    exact ⟨hs.symm, trivial⟩
  · use s.takeWhile (· != '\'') ++ ['\'']
    rw [hquote] at hs
    simp only [next, hquote, List.drop_one, List.tail_cons, List.append_assoc, List.cons_append,
      List.nil_append, List.takeWhile_append_of_pos hall, List.dropWhile_append_of_pos hall]
    use hs.symm
    simp

/-- Two opening brackets begin a field, and one alone is a text. -/
theorem isLocal_leftBracket : IsLocal (next '[') := by
  intro s
  by_cases hs : s.head? = some '['
  · obtain ⟨r, rfl⟩ := List.head?_eq_some_iff.mp hs
    obtain ⟨l, hl, hfield⟩ := isLocal_splitField r
    use '[' :: l, congrArg ('[' :: ·) hl
    simp only [next, hfield]
  · use []
    have hnext : next '[' s = (.text (String.ofList ['[']), s) := by
      unfold next
      split <;> simp_all
    rw [hnext]
    exact ⟨rfl, rfl⟩

/-- An equals sign begins the name of a function, which may begin with an exclamation mark. -/
theorem isLocal_equals : IsLocal (next '=') := by
  intro s
  by_cases hs : s.head? = some '!'
  · obtain ⟨r, rfl⟩ := List.head?_eq_some_iff.mp hs
    obtain ⟨l, hl, hname⟩ := isLocal_takeFunction ['!'] r
    use '!' :: l, congrArg ('!' :: ·) hl
    apply hname
  · obtain ⟨l, hl, hname⟩ := isLocal_takeFunction [] s
    use l
    have hmark : l.head? ≠ some '!' := by
      intro hmark
      obtain ⟨u, rfl⟩ := List.head?_eq_some_iff.mp hmark
      apply hs
      rw [hl]
      rfl
    rw [next_equals hs, next_equals hmark]
    exact ⟨hl, hname⟩

/-- The first character that belongs to a number may be read before the others. -/
theorem takeNumber_cons {d : Char} (hd : isNumberChar d) (lead r : List Char) :
  takeNumber lead (d :: r) = takeNumber (lead ++ [d]) r
  := by
  simp [takeNumber, hd]

/-- A minus sign before a digit begins a number, and else it is an operator. -/
theorem isLocal_minus : IsLocal (next '-') := by
  have hminus : '-' ∉ leads := by decide
  intro s
  by_cases hs : s.head?.any Char.isDigit
  · obtain ⟨d, hhead, hd⟩ := (Option.any_eq_true _ _).mp hs
    obtain ⟨r, rfl⟩ := List.head?_eq_some_iff.mp hhead
    have hnext : ∀ u, next '-' (d :: u) = takeNumber ['-', d] u := by
      intro u
      rw [next_of_notMem_leads hminus, if_neg (by decide), if_pos ⟨rfl, hd⟩,
        takeNumber_cons (by simp [isNumberChar, hd])]
      rfl
    obtain ⟨l, hl, hnumber⟩ := isLocal_takeNumber ['-', d] r
    use d :: l
    rw [hnext, hnext]
    exact ⟨congrArg (d :: ·) hl, hnumber⟩
  · use []
    have hnext : next '-' s = (.operator '-', s) := by
      rw [next_of_notMem_leads hminus, if_neg (by decide), if_neg (by simp [hs]),
        if_pos (by decide)]
    rw [hnext]
    exact ⟨rfl, rfl⟩

/-- The token at the front of a text depends only on the characters that it takes. -/
theorem isLocal_next (c : Char) : IsLocal (next c) := by
  by_cases hlead : c ∈ leads
  · simp only [leads, List.mem_cons, List.not_mem_nil, or_false] at hlead
    obtain rfl | rfl | rfl | rfl | rfl | rfl | rfl | rfl := hlead
    · apply isLocal_leftBracket
    · apply isLocal_splitEscaped.map fun inner => Token.quoted (String.ofList inner)
    · apply isLocal_singleQuote
    · apply isLocal_equals
    · apply isLocal_const Token.leftParen
    · apply isLocal_const Token.rightParen
    · apply isLocal_const Token.semicolon
    · apply isLocal_const Token.comma
  · by_cases hminus : c = '-'
    · rw [hminus]
      apply isLocal_minus
    · -- no other rule looks at what follows before it takes characters
      have hnext := funext (next_of_notMem_leads hlead)
      simp only [hminus, false_and, if_false] at hnext
      rw [hnext]
      split
      · apply isLocal_takeNumber
      · split
        · apply isLocal_const
        · split
          · apply isLocal_const
          · apply isLocal_takeWhile fun r => ofRun (c :: r)

/-! ### The segments of a source -/

/-- A gap and the lexeme behind it. -/
structure Segment where
  gap : List Char
  lexeme : List Char
  isGap : IsGap False gap
  lexeme_ne_nil : lexeme ≠ []

/-- The characters of a segment. -/
def Segment.chars (s : Segment) : List Char :=
  s.gap ++ s.lexeme

/-- A source falls into segments, one for each of its tokens, and a gap at its end.  Each
lexeme alone is read as its token. -/
theorem exists_segments (source : String) :
  ∃ (segments : List Segment) (gap : List Char),
    source.toList = segments.flatMap Segment.chars ++ gap ∧ IsGap True gap
      ∧ segments.map (fun s => ofSource (String.ofList s.lexeme))
        = (ofSource source).map ([·])
  := by
  simp only [ofSource, String.toList_ofList]
  generalize source.toList = s
  fun_induction ofChars s with
  | case1 s hskip =>
    obtain ⟨g, hg, hgap⟩ := exists_isGap_skip s
    rw [hskip, List.append_nil] at hg
    use [], g, hg, hgap.imp fun _ => trivial
    rfl
  | case2 s c r hskip ih =>
    obtain ⟨segments, gap, hsegments, hgap, hread⟩ := ih
    obtain ⟨g, hg, hfront⟩ := exists_isGap_skip s
    obtain ⟨hblank, hcomment⟩ := front_of_skip_eq_cons hskip
    obtain ⟨l, hl, hnext⟩ := isLocal_next c r
    have hcomment' : c = '/' → l.head? ≠ some '/' := by
      intro hc hslash
      obtain ⟨u, rfl⟩ := List.head?_eq_some_iff.mp hslash
      apply hcomment hc
      rw [hl]
      rfl
    let segment : Segment := ⟨g, c :: l, hfront.imp (by simp [hskip]), by simp⟩
    use segment :: segments, gap
    constructor
    · rw [hg, hskip, hl, hsegments]
      simp [segment, Segment.chars]
    · use hgap
      simp only [List.map_cons, segment, hread, ofChars_cons hblank hcomment' hnext, ofChars_nil]

end FieldFormula.Token
