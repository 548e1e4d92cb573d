import FieldFormula.Calendar.Pattern
import Mathlib.Algebra.Order.Ring.Int
import Mathlib.Data.List.TakeWhile

/-!
# Patterns put together

Two patterns that are put together write what they write one after the other, unless a run of a
letter goes on from the first one into the second.  A run of one letter is cut from the left into
tokens of the greatest length, and what is left over is a token too.

* `DateTime.format_append`: no token runs across the place where two patterns meet.
* `DateTime.format_replicate`: the tokens of a run.
* `DateTime.format_append_and_replicate`: both laws.
-/

namespace FieldFormula.Calendar

/-- Two patterns do not meet in a letter that both have at that place. -/
def AreSeparate (p q : List Char) : Prop :=
  ∀ c, p.getLast? = some c → q.head? = some c → isPatternLetter c = false

variable {c : Char} {p q rest : List Char}

/-! ### Where two patterns meet -/

theorem AreSeparate.drop (h : AreSeparate (c :: p) q) (n : Nat) :
  AreSeparate (p.drop n) q
  := by
  intro d hlast hhead
  have hlast' : p.getLast? = some d := by
    rw [List.getLast?_drop] at hlast
    split at hlast
    · contradiction
    · exact hlast
  apply h d _ hhead
  rw [List.getLast?_cons, hlast', Option.getD_some]

/-- A token at the front of the first pattern does not go on into the second one. -/
theorem AreSeparate.tokenLength_append (h : AreSeparate (c :: p) q) (hc : isPatternLetter c) :
  tokenLength c (p ++ q) = tokenLength c p
  := by
  rw [tokenLength, tokenLength, List.takeWhile_append]
  split
  · next hall =>
    -- the first pattern is a run of the letter, so the second one begins with another character
    have hrun : ∀ d ∈ p, d = c := by
      rw [(List.takeWhile_prefix _).eq_of_length hall |>.symm]
      intro d hd
      simpa using List.mem_takeWhile_imp hd
    have hlast : (c :: p).getLast? = some c := by
      rw [List.eq_replicate_of_mem hrun, ← List.replicate_succ, List.getLast?_replicate]
      simp
    have hhead : q.takeWhile (· == c) = [] := by
      cases q with
      | nil => rfl
      | cons d q =>
        apply List.takeWhile_cons_of_neg
        intro heq
        obtain rfl : d = c := by simpa using heq
        have hletter := h d hlast rfl
        simp [hc] at hletter
    rw [hhead, List.append_nil, hall]
  · rfl

theorem tokenLength_sub_one_le (c : Char) (rest : List Char) :
  tokenLength c rest - 1 ≤ rest.length
  := by
  have hle := (List.takeWhile_prefix (l := rest) (· == c)).length_le
  rw [tokenLength]
  omega

namespace DateTime

variable (dt : DateTime)

theorem format_nil :
  dt.format [] = []
  := by
  rw [format]

/-- A character that is no letter of a pattern stands for itself. -/
theorem format_of_not_letter (hc : isPatternLetter c = false) (rest : List Char) :
  dt.format (c :: rest) = c :: dt.format rest
  := by
  rw [format, if_neg (by simp [hc])]

/-- Separate patterns are written one after the other. -/
theorem format_append (h : AreSeparate p q) :
  dt.format (p ++ q) = dt.format p ++ dt.format q
  := by
  induction p using format.induct with
  | case1 => rw [format_nil, List.nil_append, List.nil_append]
  | case2 c rest hc n ih =>
    have hdrop : (rest ++ q).drop (n - 1) = rest.drop (n - 1) ++ q :=
      List.drop_append_of_le_length (tokenLength_sub_one_le c rest)
    rw [List.cons_append, format, format, if_pos hc, if_pos hc]
    dsimp only
    rw [h.tokenLength_append hc, hdrop, ih (h.drop _), List.append_assoc]
  | case3 c rest hc ih =>
    have hc' : isPatternLetter c = false := by simpa using hc
    rw [List.cons_append, format_of_not_letter dt hc', format_of_not_letter dt hc',
      ih (h.drop 0), List.cons_append]

/-! ### Runs of one letter -/

theorem maxRun_pos (c : Char) :
  0 < maxRun c
  := by
  unfold maxRun
  split <;> decide

/-- The longest token that fits is taken off a run. -/
theorem format_replicate_of_pos (hc : isPatternLetter c) {k : Nat} (hk : 0 < k) :
  dt.format (List.replicate k c)
    = dateToken dt c (min (maxRun c) k) ++ dt.format (List.replicate (k - min (maxRun c) k) c)
  := by
  obtain ⟨k, rfl⟩ := Nat.exists_eq_add_one_of_ne_zero hk.ne'
  have hpos := maxRun_pos c
  have htoken : tokenLength c (List.replicate k c) = min (maxRun c) (k + 1) := by
    rw [tokenLength, List.takeWhile_replicate, if_pos (by simp), List.length_replicate,
      Nat.add_comm 1 k]
  have hrest : k - (min (maxRun c) (k + 1) - 1) = k + 1 - min (maxRun c) (k + 1) := by omega
  rw [List.replicate_succ, format, if_pos hc]
  dsimp only
  rw [htoken, List.drop_replicate, hrest]

/-- A run is written as tokens of the greatest length, and one for the letters that are left. -/
theorem format_replicate (hc : isPatternLetter c) (k : Nat) :
  dt.format (List.replicate k c)
    = (List.replicate (k / maxRun c) (dateToken dt c (maxRun c))).flatten
      ++ if k % maxRun c = 0 then [] else dateToken dt c (k % maxRun c)
  := by
  induction k using Nat.strong_induction_on with
  | _ k ih =>
    have hpos := maxRun_pos c
    obtain rfl | hk := k.eq_zero_or_pos
    · rw [List.replicate_zero, format_nil, Nat.zero_div, Nat.zero_mod]
      rfl
    · rw [format_replicate_of_pos dt hc hk]
      obtain hlt | hle := lt_or_ge k (maxRun c)
      · rw [min_eq_right hlt.le, Nat.sub_self, List.replicate_zero, format_nil,
          Nat.div_eq_of_lt hlt, Nat.mod_eq_of_lt hlt, if_neg hk.ne', List.append_nil]
        rfl
      · rw [min_eq_left hle, ih (k - maxRun c) (by omega), Nat.div_eq_sub_div hpos hle,
          Nat.mod_eq_sub_mod hle, List.replicate_succ, List.flatten_cons, List.append_assoc]

/-- The letters of date patterns. -/
theorem isPatternLetter_iff :
  isPatternLetter c = true ↔ c ∈ ['y', 'M', 'd', 'H', 'h', 'm', 's', 't', 'T']
  := by
  rw [isPatternLetter, List.contains_iff_mem]

theorem maxRun_eq (c : Char) :
  maxRun c = if c = 'y' then 5 else if c ∈ ['M', 'd'] then 4 else 2
  := by
  unfold maxRun
  split
  · rfl
  · rfl
  · rfl
  · next hyear hmonth hday =>
    have hnotMem : c ∉ ['M', 'd'] := by
      rw [List.mem_cons, List.mem_singleton]
      exact not_or.mpr ⟨hmonth, hday⟩
    rw [if_neg hyear, if_neg hnotMem]

/-- Two patterns are written one after the other if one of them is empty, if they do not meet in
the same character, or if that character is no letter of patterns.  A run of a letter is written as
tokens of the greatest length, which is five for the year, four for month and day and else two, and
then as one token for the letters that are left. -/
theorem format_append_and_replicate (dt : DateTime) :
  (∀ p q : List Char,
      p = [] ∨ q = [] ∨ p.getLast? ≠ q.head?
        ∨ (∀ c ∈ p.getLast?, c ∉ ['y', 'M', 'd', 'H', 'h', 'm', 's', 't', 'T'])
      → dt.format (p ++ q) = dt.format p ++ dt.format q)
    ∧ ∀ c ∈ ['y', 'M', 'd', 'H', 'h', 'm', 's', 't', 'T'], ∀ k, 1 ≤ k →
      let w := if c = 'y' then 5 else if c ∈ ['M', 'd'] then 4 else 2
      dt.format (List.replicate k c)
        = (List.replicate (k / w) (dateToken dt c w)).flatten
          ++ if k % w = 0 then [] else dateToken dt c (k % w)
  := by
  constructor
  · intro p q h
    apply format_append
    intro c hlast hhead
    obtain rfl | rfl | hne | hletter := h
    · contradiction
    · contradiction
    · exact absurd (hlast.trans hhead.symm) hne
    · have hc := hletter c hlast
      rw [← isPatternLetter_iff] at hc
      simpa using hc
  · intro c hc k _
    dsimp only
    rw [← maxRun_eq]
    apply format_replicate dt (isPatternLetter_iff.mpr hc)

/-- A hyphen may stand on both sides of the place where two patterns meet.  A run of seven letters
for the year is one token of five and one of two. -/
theorem format_append_and_replicate_hyphens :
  let dt : DateTime := .ofDate ⟨738949, by decide, by decide⟩
  dt.format ("ddMMM-".toList ++ "-tT".toList) = dt.format "ddMMM-".toList ++ dt.format "-tT".toList
    ∧ dt.format (List.replicate 7 'y') = dateToken dt 'y' 5 ++ dateToken dt 'y' 2
  := by
  intro dt
  obtain ⟨happend, hrun⟩ := format_append_and_replicate dt
  constructor
  · apply happend
    refine Or.inr (Or.inr (Or.inr ?_))
    rintro c ⟨⟩
    decide
  · simpa using hrun 'y' (by decide) 7 (by decide)

end DateTime

end FieldFormula.Calendar
