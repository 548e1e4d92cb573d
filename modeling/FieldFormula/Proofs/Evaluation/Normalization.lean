import FieldFormula.Proofs.Registry.Lookup
import Mathlib.Data.List.Basic

/-!
# Texts without blanks and tags

A tag goes from a less-than sign to the next greater-than sign behind it.  What is left of a text
without its tags holds no tag: a less-than sign stays only if no greater-than sign is behind it, and
what is struck out later brings none there.  So a text is normalized once and for all.

* `Library.isTagFree_withoutTags`: no tag is left.
* `Library.withoutTags_eq_self_iff`: the texts that stay as they are.
* `Library.withoutTags_append`: the first tag is struck out.
* `Expr.evaluate_normalizeText`: the same for the function in a formula.
-/

namespace FieldFormula

namespace Library

variable {c : Char} {s x y : List Char}

/-! ### Blanks -/

theorem withoutBlanks_eq_self_iff :
  withoutBlanks s = s ↔ ∀ c ∈ s, Text.isBlank c = false
  := by
  rw [withoutBlanks, List.filter_eq_self]
  simp only [Bool.not_eq_true']

theorem isBlank_of_mem_withoutBlanks (hc : c ∈ withoutBlanks s) :
  Text.isBlank c = false
  := by
  have hc := (List.mem_filter.mp hc).2
  rwa [Bool.not_eq_true'] at hc

/-! ### Tags -/

/-- No less-than sign is followed by a greater-than sign, next to it or later. -/
def IsTagFree (s : List Char) : Prop :=
  ∀ x y, s = x ++ '<' :: y → '>' ∉ y

theorem isTagFree_nil : IsTagFree [] := by
  intro x y h
  simp at h

theorem isTagFree_cons_iff :
  IsTagFree (c :: s) ↔ (c = '<' → '>' ∉ s) ∧ IsTagFree s
  := by
  constructor
  · intro h
    constructor
    · rintro rfl
      apply h [] s rfl
    · rintro x y rfl
      apply h (c :: x) y rfl
  · rintro ⟨hc, hs⟩ x y h
    cases x with
    | nil =>
      obtain ⟨rfl, rfl⟩ := List.cons.inj h
      apply hc rfl
    | cons d x =>
      obtain ⟨-, rfl⟩ := List.cons.inj h
      apply hs x y rfl

theorem withoutTags_sublist (s : List Char) :
  (withoutTags s).Sublist s
  := by
  induction s using withoutTags.induct with
  | case1 => rw [withoutTags]
  | case2 c s htag ih =>
    rw [withoutTags, if_pos htag]
    apply ih.trans
    apply (List.drop_sublist 1 _).trans
    apply (List.dropWhile_sublist _).cons
  | case3 c s htag ih =>
    rw [withoutTags, if_neg htag]
    apply ih.cons_cons

/-- No tag is left. -/
theorem isTagFree_withoutTags (s : List Char) :
  IsTagFree (withoutTags s)
  := by
  induction s using withoutTags.induct with
  | case1 =>
    rw [withoutTags]
    apply isTagFree_nil
  | case2 c s htag ih =>
    rw [withoutTags, if_pos htag]
    apply ih
  | case3 c s htag ih =>
    rw [withoutTags, if_neg htag, isTagFree_cons_iff]
    constructor
    · -- a greater-than sign that is left behind was there before
      intro hc hmem
      have hs : '>' ∈ s := (withoutTags_sublist s).subset hmem
      apply htag
      use hc, List.contains_iff_mem.mpr hs
    · apply ih

/-- The texts that stay as they are hold no tag. -/
theorem withoutTags_eq_self_iff :
  withoutTags s = s ↔ IsTagFree s
  := by
  constructor
  · intro h
    rw [← h]
    apply isTagFree_withoutTags
  · intro h
    induction s with
    | nil => rw [withoutTags]
    | cons c s ih =>
      obtain ⟨hc, hs⟩ := isTagFree_cons_iff.mp h
      rw [withoutTags, if_neg, ih hs]
      rintro ⟨hlt, hgt⟩
      apply hc hlt (List.contains_iff_mem.mp hgt)

/-- The first tag of a text is struck out, and then the tags behind it. -/
theorem withoutTags_append (hx : '<' ∉ x) (hy : '>' ∉ y) (s : List Char) :
  withoutTags (x ++ '<' :: y ++ '>' :: s) = x ++ withoutTags s
  := by
  induction x with
  | nil =>
    have hdrop : (y ++ '>' :: s).dropWhile (· != '>') = '>' :: s := by
      rw [List.dropWhile_append_of_pos]
      · rw [List.dropWhile_cons_of_neg]
        simp
      · intro c hc
        rw [bne_iff_ne]
        rintro rfl
        apply hy hc
    rw [List.nil_append, List.cons_append, withoutTags, if_pos, hdrop, List.drop_one,
      List.tail_cons, List.nil_append]
    simp
  | cons c x ih =>
    obtain ⟨hne, hx⟩ := not_or.mp (mt List.mem_cons.mpr hx)
    rw [List.cons_append, List.cons_append, withoutTags, if_neg fun h => hne h.1.symm, ih hx,
      List.cons_append]

/-! ### Texts -/

/-- The text without its blanks and then without its tags. -/
def normalized (s : List Char) : List Char :=
  withoutTags (withoutBlanks s)

theorem isBlank_of_mem_normalized (hc : c ∈ normalized s) :
  Text.isBlank c = false
  := isBlank_of_mem_withoutBlanks ((withoutTags_sublist _).subset hc)

/-- The texts that stay as they are hold neither a blank nor a tag. -/
theorem normalized_eq_self_iff :
  normalized s = s ↔ (∀ c ∈ s, Text.isBlank c = false) ∧ IsTagFree s
  := by
  constructor
  · intro h
    rw [← h]
    use fun _ => isBlank_of_mem_normalized
    apply isTagFree_withoutTags
  · rintro ⟨hblank, htag⟩
    rw [normalized, withoutBlanks_eq_self_iff.mpr hblank, withoutTags_eq_self_iff.mpr htag]

theorem normalized_normalized (s : List Char) :
  normalized (normalized s) = normalized s
  := by
  rw [normalized_eq_self_iff]
  use fun _ => isBlank_of_mem_normalized
  apply isTagFree_withoutTags

/-- What is around the first tag of a text is normalized. -/
theorem normalized_append (hx : '<' ∉ x) (hy : '>' ∉ y) (s : List Char) :
  normalized (x ++ '<' :: y ++ '>' :: s) = normalized x ++ normalized s
  := by
  have hfilter : ∀ {d : Char} {t : List Char}, d ∉ t → d ∉ withoutBlanks t :=
    fun ht hmem => ht (List.mem_of_mem_filter hmem)
  have hplain : withoutTags (withoutBlanks x) = withoutBlanks x := by
    rw [withoutTags_eq_self_iff]
    rintro u v h
    have hmem : '<' ∈ withoutBlanks x := by simp [h]
    exact absurd hmem (hfilter hx)
  have hsplit : withoutBlanks (x ++ '<' :: y ++ '>' :: s)
      = withoutBlanks x ++ '<' :: withoutBlanks y ++ '>' :: withoutBlanks s := by
    simp only [withoutBlanks, List.filter_append, List.filter_cons]
    rfl
  rw [normalized, hsplit, withoutTags_append (hfilter hx) (hfilter hy), normalized, hplain,
    normalized]

end Library

/-! ### Formulas -/

namespace Expr

/-- A normalized text holds neither a blank nor a less-than sign with a greater-than sign behind it,
and it stays as it is when it is normalized again.  These are the only texts that stay as they are.
In the others blanks are struck out, and the tags from the left: what is left is the text in front
of the first tag and the text behind it, both normalized. -/
theorem evaluate_normalizeText {ctx : Context} (hregistry : ctx.registry = .builtin) (e : Expr) :
  let text (e : Expr) := (e.evaluate ctx).chars
  let normal (e : Expr) : Expr := .call "NORMALIZETEXT" [e]
  let part (s : List Char) : Expr := .literal (.ofChars s)
  (∀ c ∈ text (normal e), Text.isBlank c = false)
    ∧ (∀ x y, text (normal e) = x ++ '<' :: y → '>' ∉ y)
    ∧ evaluate ctx (normal (normal e)) = evaluate ctx (normal e)
    ∧ (text (normal e) = text e ↔
      (∀ c ∈ text e, Text.isBlank c = false) ∧ ∀ x y, text e = x ++ '<' :: y → '>' ∉ y)
    ∧ ∀ x y z, text e = x ++ '<' :: y ++ '>' :: z → '<' ∉ x → '>' ∉ y →
      text (normal e) = text (normal (part x)) ++ text (normal (part z))
  := by
  intro text normal part
  have hcall : ∀ e : Expr, evaluate ctx (normal e) = .ofChars (Library.normalized (text e)) :=
    fun e => evaluate_call hregistry "NORMALIZETEXT" Library.normalizeText rfl [e]
  have htext : ∀ e : Expr, text (normal e) = Library.normalized (text e) := by
    intro e
    simp only [text, hcall, Value.chars_ofChars]
  have hpart : ∀ s, text (part s) = s := Value.chars_ofChars
  refine ⟨?_, ?_, ?_, ?_, ?_⟩
  · rw [htext]
    intro c
    apply Library.isBlank_of_mem_normalized
  · rw [htext]
    apply Library.isTagFree_withoutTags
  · rw [hcall, htext, Library.normalized_normalized, hcall]
  · rw [htext]
    apply Library.normalized_eq_self_iff
  · intro x y z he hx hy
    rw [htext, htext, htext, hpart, hpart, he]
    apply Library.normalized_append hx hy

/-- A less-than sign in a tag, a greater-than sign between two tags, and a less-than sign behind
all of them. -/
theorem evaluate_normalizeText_nested :
  let ctx : Context := ⟨.builtin, none, 0.0⟩
  let text (e : Expr) := (e.evaluate ctx).chars
  let normal (e : Expr) : Expr := .call "NORMALIZETEXT" [e]
  let part (s : List Char) : Expr := .literal (.ofChars s)
  let e : Expr := .literal (.text "a < <b >c> <i>\td < e")
  text (normal e) = "ac>d<e".toList
    ∧ (∀ c ∈ text (normal e), Text.isBlank c = false)
    ∧ (∀ x y, text (normal e) = x ++ '<' :: y → '>' ∉ y)
    ∧ evaluate ctx (normal (normal e)) = evaluate ctx (normal e)
    ∧ text (normal e)
      = text (normal (part "a ".toList)) ++ text (normal (part "c> <i>\td < e".toList))
  := by
  intro ctx text normal part e
  have hregistry : ctx.registry = .builtin := rfl
  obtain ⟨hblank, htag, htwice, -, hfirst⟩ := evaluate_normalizeText hregistry e
  refine ⟨?_, hblank, htag, htwice, ?_⟩
  · simp only [text, normal, e]
    rw [evaluate_call hregistry "NORMALIZETEXT" Library.normalizeText rfl]
    decide +kernel
  · apply hfirst _ " <b ".toList <;> decide

end Expr

end FieldFormula
