import FieldFormula.Proofs.Evaluation.Items
import FieldFormula.Proofs.Evaluation.Splitting

/-!
# Lists and lines

A line break is a line feed, and a carriage return in front of it belongs to it.  So the items of a
list are found again as lines when they are joined with both characters, and when they are joined
with line feeds as long as none but the last ends in a carriage return of its own.

* `Library.linesOf_lineFeed`, `Library.linesOf_crlf`: the first line of a text.
* `Library.linesOf_join`: joined lines are found again.
* `Library.separatorFor_newline`, `Library.separatorFor_crlf`: the words for line breaks.
* `Expr.evaluate_lines`: the functions between lists and lines.
-/

namespace FieldFormula

open Decimal (Denotes)

namespace Library

variable {l p s : List Char} {ps : List (List Char)}

/-! ### Lines of a text -/

/-- A text without line feeds is one line. -/
theorem linesOf_of_notMem (hl : '\n' ∉ l) :
  linesOf l = [l]
  := by
  rw [linesOf, Text.splitOn_of_notMem hl]
  rfl

/-- The first line of a text ends before the first line feed and the carriage return in front of
it. -/
theorem linesOf_append_cons (hl : '\n' ∉ l) (s : List Char) :
  linesOf (l ++ '\n' :: s)
    = (if l.getLast? = some '\r' then l.dropLast else l) :: linesOf s
  := by
  obtain ⟨m, ms, hs⟩ := List.exists_cons_of_ne_nil (Text.splitOn_ne_nil ['\n'] s)
  rw [linesOf, Text.splitOn_append hl, linesOf, hs]
  rfl

theorem linesOf_lineFeed (hl : '\n' ∉ l) (hlast : l.getLast? ≠ some '\r') (s : List Char) :
  linesOf (l ++ ['\n'] ++ s) = l :: linesOf s
  := by
  rw [List.append_assoc, List.singleton_append, linesOf_append_cons hl, if_neg hlast]

theorem linesOf_crlf (hl : '\n' ∉ l) (s : List Char) :
  linesOf (l ++ ['\r', '\n'] ++ s) = l :: linesOf s
  := by
  have hreturn : '\n' ∉ l ++ ['\r'] := by simp [hl]
  have hsplit : l ++ ['\r', '\n'] ++ s = l ++ ['\r'] ++ '\n' :: s := by simp
  rw [hsplit, linesOf_append_cons hreturn, List.getLast?_concat, if_pos rfl, List.dropLast_concat]

/-- Lines are found again in the text that joins them, if the separator ends all but the last. -/
theorem linesOf_join {d : List Char} (hne : ps ≠ []) (hps : ∀ p ∈ ps, '\n' ∉ p)
    (hd : ∀ p ∈ ps.dropLast, ∀ s, linesOf (p ++ d ++ s) = p :: linesOf s) :
  linesOf (Text.join d ps) = ps
  := by
  induction ps with
  | nil => contradiction
  | cons p ps ih =>
    obtain ⟨hp, hps⟩ := List.forall_mem_cons.mp hps
    cases ps with
    | nil => apply linesOf_of_notMem hp
    | cons q ps =>
      rw [List.dropLast_cons_cons] at hd
      obtain ⟨hp, hd⟩ := List.forall_mem_cons.mp hd
      rw [Text.join_cons d (List.cons_ne_nil q ps), hp, ih (List.cons_ne_nil q ps) hps hd]

theorem linesOf_join_lineFeed (hne : ps ≠ []) (hps : ∀ p ∈ ps, '\n' ∉ p)
    (hlast : ∀ p ∈ ps.dropLast, p.getLast? ≠ some '\r') :
  linesOf (Text.join ['\n'] ps) = ps
  := by
  apply linesOf_join hne hps
  intro p hp
  apply linesOf_lineFeed (hps p (List.mem_of_mem_dropLast hp)) (hlast p hp)

theorem linesOf_join_crlf (hne : ps ≠ []) (hps : ∀ p ∈ ps, '\n' ∉ p) :
  linesOf (Text.join ['\r', '\n'] ps) = ps
  := by
  apply linesOf_join hne hps
  intro p hp
  apply linesOf_crlf (hps p (List.mem_of_mem_dropLast hp))

/-- Without carriage returns in front of line feeds the lines are the pieces around line feeds. -/
theorem linesOf_eq_splitOn (hs : ¬ ['\r', '\n'] <:+: s) :
  linesOf s = Text.splitOn ['\n'] s
  := by
  have hjoin := Text.join_splitOn (List.cons_ne_nil '\n' []) s
  nth_rewrite 1 [← hjoin]
  apply linesOf_join_lineFeed (Text.splitOn_ne_nil _ s)
  · intro p hp
    rw [← List.singleton_infix_iff]
    apply Text.not_infix_of_mem_splitOn (List.cons_ne_nil '\n' []) hp
  · intro p hp hlast
    apply hs
    obtain ⟨q, rfl⟩ := List.getLast?_eq_some_iff.mp hlast
    have hfound := Text.append_infix_join ['\n'] hp
    rw [hjoin, List.append_assoc] at hfound
    apply (List.suffix_append q _).isInfix.trans hfound

/-! ### Lists laid out as lines -/

/-- Each item is a line when line feeds replace the semicolons. -/
theorem map_semicolon_eq_join (l : List Char) :
  (l.map fun a => if a = ';' then '\n' else a) = Text.join ['\n'] (itemsOf l)
  := by
  rw [itemsOf, Text.join_splitOn_eq_substitute ['\n'] (List.cons_ne_nil ';' []),
    Text.substitute_singleton]

theorem listOf_itemsOf (l : List Char) : listOf (itemsOf l) = l :=
  Text.join_splitOn (List.cons_ne_nil ';' []) l

/-- The items of a list are its lines with a line feed and a carriage return between them. -/
theorem linesOf_join_crlf_itemsOf (hl : '\n' ∉ l) :
  linesOf (Text.join ['\r', '\n'] (itemsOf l)) = itemsOf l
  := linesOf_join_crlf (itemsOf_ne_nil l) (Text.notMem_of_mem_splitOn hl)

theorem linesOf_join_lineFeed_itemsOf (hl : '\n' ∉ l)
    (hlast : ∀ i ∈ (itemsOf l).dropLast, i.getLast? ≠ some '\r') :
  linesOf (Text.join ['\n'] (itemsOf l)) = itemsOf l
  := linesOf_join_lineFeed (itemsOf_ne_nil l) (Text.notMem_of_mem_splitOn hl) hlast

/-- The lines of a text are the items of the list that is made of them. -/
theorem join_itemsOf_listOf_linesOf (hsemicolon : ';' ∉ s) (hs : ¬ ['\r', '\n'] <:+: s) :
  Text.join ['\n'] (itemsOf (listOf (linesOf s))) = s
  := by
  rw [linesOf_eq_splitOn hs, itemsOf_listOf (Text.splitOn_ne_nil _ s)
    (Text.notMem_of_mem_splitOn hsemicolon), Text.join_splitOn (List.cons_ne_nil '\n' [])]

/-! ### Words for separators -/

/-- Two texts that differ at most in the case of their letters. -/
def IsSameAnyCase (s t : List Char) : Prop :=
  s.map Unicode.fold = t.map Unicode.fold

instance (s t : List Char) : Decidable (IsSameAnyCase s t) :=
  inferInstanceAs (Decidable (s.map _ = t.map _))

theorem IsSameAnyCase.length_eq {t : List Char} (h : IsSameAnyCase s t) :
  s.length = t.length
  := by
  have hlength := congrArg List.length h
  simpa using hlength

theorem IsSameAnyCase.all_zip {t : List Char} (h : IsSameAnyCase s t) :
  ((s.zip t).all fun (a, b) => sameAnyCase a b) = true
  := by
  induction s generalizing t with
  | nil => rfl
  | cons a s ih =>
    cases t with
    | nil => rfl
    | cons b t =>
      obtain ⟨hhead, htail⟩ := List.cons.inj h
      rw [List.zip_cons_cons, List.all_cons, ih htail, Bool.and_true]
      exact beq_iff_eq.mpr hhead

section

variable {word : List Char} (r : List Char)

theorem replaceWord_of_length_lt (h : s.length < word.length) :
  replaceWord word r s = s
  := by
  induction s with
  | nil => rw [replaceWord]
  | cons c s ih =>
    rw [List.length_cons] at h
    rw [replaceWord, if_neg, ih (Nat.lt_of_succ_lt h)]
    rintro ⟨-, hle, -⟩
    rw [List.length_cons] at hle
    omega

/-- A word is replaced in any case. -/
theorem replaceWord_of_isSameAnyCase (hword : word ≠ []) (h : IsSameAnyCase s word) :
  replaceWord word r s = r
  := by
  have hlength := h.length_eq
  cases s with
  | nil => exact absurd (List.eq_nil_of_length_eq_zero hlength.symm) hword
  | cons c s =>
    have hdrop : s.drop (word.length - 1) = [] := by
      rw [← hlength, List.length_cons, Nat.add_sub_cancel, List.drop_length]
    rw [replaceWord, if_pos ⟨hword, hlength.ge, h.all_zip⟩, hdrop, replaceWord, List.append_nil]

end

theorem separatorFor_newline (h : IsSameAnyCase s "ppnewline".toList) :
  separatorFor s = ['\n']
  := by
  -- a single character is too short for the other words
  have hkeep : ∀ (w : String) (r : List Char), 1 < w.toList.length →
      replaceWord w.toList r ['\n'] = ['\n'] :=
    fun _ r h => replaceWord_of_length_lt r h
  rw [separatorFor, replaceWord_of_isSameAnyCase _ (by decide) h, hkeep "ppcrlf" _ (by decide),
    hkeep "pptab" _ (by decide), hkeep "ppsp" _ (by decide)]

theorem separatorFor_crlf (h : IsSameAnyCase s "ppcrlf".toList) :
  separatorFor s = ['\r', '\n']
  := by
  have hshort : s.length < "ppnewline".toList.length := by
    rw [h.length_eq]
    decide
  have hkeep : ∀ (w : String) (r : List Char), 2 < w.toList.length →
      replaceWord w.toList r ['\r', '\n'] = ['\r', '\n'] :=
    fun _ r h => replaceWord_of_length_lt r h
  rw [separatorFor, replaceWord_of_length_lt _ hshort,
    replaceWord_of_isSameAnyCase _ (by decide) h, hkeep "pptab" _ (by decide),
    hkeep "ppsp" _ (by decide)]

end Library

/-! ### Formulas -/

namespace Expr

variable {ctx : Context} {i n b : Expr}

/-- A list is joined with line feeds when it is laid out as lines.  If it holds no line feed itself,
then its items are the lines of the text that joins them with a carriage return and a line feed, and
they are the lines of the list laid out as lines if none but the last ends in a carriage return.
The lines of a text without semicolons and without a carriage return in front of a line feed are a
list that is laid out as the text. -/
theorem evaluate_lines (hregistry : ctx.registry = .builtin)
    (hi : Denotes (i.evaluate ctx).toNumber 0)
    (hn : Library.IsSameAnyCase (n.evaluate ctx).chars "ppnewline".toList)
    (hb : Library.IsSameAnyCase (b.evaluate ctx).chars "ppcrlf".toList) (l t : Expr) :
  let text (e : Expr) := (e.evaluate ctx).chars
  let asLines (e : Expr) : Expr := .call "LISTASLINES" [e]
  let asList (e : Expr) : Expr := .call "LINESPLIT" [i, e]
  evaluate ctx (.call "LISTJOIN" [n, l]) = evaluate ctx (asLines l)
    ∧ ('\n' ∉ text l → text (asList (.call "LISTJOIN" [b, l])) = text l)
    ∧ ('\n' ∉ text l → (∀ p ∈ (Library.itemsOf (text l)).dropLast, p.getLast? ≠ some '\r') →
      text (asList (asLines l)) = text l)
    ∧ (';' ∉ text t → ¬ ['\r', '\n'] <:+: text t → text (asLines (asList t)) = text t)
  := by
  intro text asLines asList
  have hjoin : ∀ d : Expr, evaluate ctx (.call "LISTJOIN" [d, l])
      = .ofChars (Text.join (Library.separatorFor (text d)) (Library.itemsOf (text l))) :=
    fun d => evaluate_call hregistry "LISTJOIN" Library.listJoin rfl [d, l]
  have hlines : ∀ e : Expr, evaluate ctx (asLines e)
      = .ofChars (Text.join ['\n'] (Library.itemsOf (text e))) := by
    intro e
    rw [evaluate_call hregistry "LISTASLINES" Library.listAsLines rfl,
      ← Library.map_semicolon_eq_join]
    rfl
  have hlist : ∀ e : Expr, evaluate ctx (asList e)
      = .ofChars (Library.listOf (Library.linesOf (text e))) := by
    intro e
    rw [evaluate_call hregistry "LINESPLIT" Library.lineSplit rfl, ← Library.pick_zero hi]
    rfl
  simp only [text, hjoin, hlines, hlist, Value.chars_ofChars]
  refine ⟨?_, ?_, ?_, ?_⟩
  · rw [Library.separatorFor_newline hn]
  · intro hl
    rw [Library.separatorFor_crlf hb, Library.linesOf_join_crlf_itemsOf hl, Library.listOf_itemsOf]
  · intro hl hlast
    rw [Library.linesOf_join_lineFeed_itemsOf hl hlast, Library.listOf_itemsOf]
  · intro hsemicolon ht
    apply Library.join_itemsOf_listOf_linesOf hsemicolon ht

/-- A list with an empty item and with a carriage return at its end, and a text with a carriage
return that stands alone. -/
theorem evaluate_lines_empty :
  let ctx : Context := ⟨.builtin, none, 0.0⟩
  let text (e : Expr) := (e.evaluate ctx).chars
  let asLines (e : Expr) : Expr := .call "LISTASLINES" [e]
  let asList (e : Expr) : Expr := .call "LINESPLIT" [.literal (.text "0"), e]
  let l : Expr := .literal (.text "a;;b\r")
  let t : Expr := .literal (.text "\na\rb\n")
  evaluate ctx (.call "LISTJOIN" [.literal (.text "ppnewline"), l]) = evaluate ctx (asLines l)
    ∧ text (asList (.call "LISTJOIN" [.literal (.text "ppcrlf"), l])) = text l
    ∧ text (asList (asLines l)) = text l
    ∧ text (asLines (asList t)) = text t
  := by
  intro ctx text asLines asList l t
  have hregistry : ctx.registry = .builtin := rfl
  have hi : Denotes ((Expr.literal (.text "0")).evaluate ctx).toNumber 0 := by
    have hzero : ((Expr.literal (.text "0")).evaluate ctx).toNumber = 0.0 := by decide +kernel
    rw [hzero]
    exact Decimal.denotes_zero
  obtain ⟨hjoin, hcrlf, hlines, hlist⟩ := evaluate_lines (n := .literal (.text "ppnewline"))
    (b := .literal (.text "ppcrlf")) hregistry hi rfl rfl l t
  refine ⟨hjoin, hcrlf ?_, hlines ?_ ?_, hlist ?_ ?_⟩
  · decide
  · decide
  · decide +kernel
  · decide
  · decide

end Expr

end FieldFormula
