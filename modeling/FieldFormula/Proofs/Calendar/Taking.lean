import FieldFormula.Calendar.Reading
import FieldFormula.Proofs.Calendar.Scanner
import Mathlib.Data.List.GetD

/-!
# What scanners take

A scanner that succeeds leaves a text without the characters that it has taken off its front.  What
these characters can be follows along the steps of the scanner, and so does what a text must hold
for the scanner to succeed.

* `TakesOnly.bind`: the characters that the steps of a scanner take.
* `Needs.of_bind`, `Needs.bind`: what the steps of a scanner need in a text.
* `takesOnly_piece`: a piece of a date with the name of a month has no colon in it.
* `mailDate_needs`, `timestamp_needs`: what mail dates and timestamps hold.
-/

namespace FieldFormula.Calendar

variable {α β : Type} {C : Char → Prop} {p : Scanner α} {f : α → Scanner β}

namespace Scanner

theorem bind_eq_some_iff {s : List Char} {x : β × List Char} :
  (p >>= f) s = some x ↔ ∃ a r, p s = some (a, r) ∧ f a r = some x
  := by
  rw [bind_apply, Option.bind_eq_some_iff]
  constructor
  · rintro ⟨⟨a, r⟩, ha, hx⟩
    exact ⟨a, r, ha, hx⟩
  · rintro ⟨a, r, ha, hx⟩
    exact ⟨(a, r), ha, hx⟩

theorem all?_eq_some_iff {s : List Char} {a : α} :
  all? p s = some a ↔ p s = some (a, [])
  := by
  constructor
  · intro h
    rw [all?] at h
    split at h
    · next hp =>
      rw [hp, Option.some.inj h]
    · contradiction
  · apply all?_eq_some

/-! ### Characters that are taken -/

/-- The scanner takes characters of one kind only. -/
def TakesOnly (C : Char → Prop) (p : Scanner α) : Prop :=
  ∀ s a r, p s = some (a, r) → ∃ u, s = u ++ r ∧ ∀ c ∈ u, C c

theorem TakesOnly.bind (hp : TakesOnly C p) (hf : ∀ a, TakesOnly C (f a)) :
  TakesOnly C (p >>= f)
  := by
  intro s b r h
  obtain ⟨a, r', ha, hb⟩ := bind_eq_some_iff.mp h
  obtain ⟨u, rfl, hu⟩ := hp _ _ _ ha
  obtain ⟨v, rfl, hv⟩ := hf a _ _ _ hb
  use u ++ v, (List.append_assoc u v r).symm
  intro c hc
  obtain hc | hc := List.mem_append.mp hc
  · apply hu c hc
  · apply hv c hc

theorem takesOnly_pure (a : α) :
  TakesOnly C (pure a : Scanner α)
  := by
  intro s b r h
  obtain ⟨-, rfl⟩ := Prod.mk.inj (Option.some.inj h)
  use [], rfl
  simp

theorem TakesOnly.mono {D : Char → Prop} (hp : TakesOnly C p) (h : ∀ c, C c → D c) :
  TakesOnly D p
  := by
  intro s a r hs
  obtain ⟨u, hu, hC⟩ := hp _ _ _ hs
  use u, hu, fun c hc => h c (hC c hc)

theorem TakesOnly.map (hp : TakesOnly C p) (f : α → β) :
  TakesOnly C (f <$> p)
  := by
  intro s b r h
  rw [map_apply, Option.map_eq_some_iff] at h
  obtain ⟨⟨a, r'⟩, ha, heq⟩ := h
  obtain ⟨-, rfl⟩ := Prod.mk.inj heq
  exact hp _ _ _ ha

theorem eq_of_guard {P : Prop} [Decidable P] {s r : List Char} {a : Unit}
    (h : (guard P : Scanner Unit) s = some (a, r)) :
  r = s
  := by
  rw [guard_apply] at h
  split at h
  · exact (Prod.mk.inj (Option.some.inj h)).2.symm
  · contradiction

theorem eq_cons_of_char {c : Char} {s r : List Char} (h : char c s = some ((), r)) :
  s = c :: r
  := by
  cases s with
  | nil => contradiction
  | cons d s =>
    rw [char_cons] at h
    split at h
    · next hd =>
      obtain ⟨-, rfl⟩ := Prod.mk.inj (Option.some.inj h)
      rw [hd]
    · contradiction

theorem takesOnly_char (c : Char) :
  TakesOnly (· = c) (char c)
  := by
  intro s a r h
  use [c], eq_cons_of_char h
  simp

theorem takesOnly_optional (c : Char) :
  TakesOnly (· = c) (optional c)
  := by
  intro s a r h
  cases s with
  | nil =>
    obtain ⟨-, rfl⟩ := Prod.mk.inj (Option.some.inj h)
    use [], rfl
    simp
  | cons d s =>
    rw [optional] at h
    split at h
    · next hd =>
      obtain ⟨-, rfl⟩ := Prod.mk.inj (Option.some.inj h)
      use [d], rfl
      simpa using hd
    · obtain ⟨-, rfl⟩ := Prod.mk.inj (Option.some.inj h)
      use [], rfl
      simp

theorem takesOnly_blanks :
  TakesOnly (Text.isBlank · = true) blanks
  := by
  intro s a r h
  obtain ⟨-, rfl⟩ := Prod.mk.inj (Option.some.inj h)
  use s.takeWhile Text.isBlank, List.takeWhile_append_dropWhile.symm
  intro c hc
  exact List.mem_takeWhile_imp hc

theorem takesOnly_digits (least most : Nat) :
  TakesOnly (Char.isDigit · = true) (digits least most)
  := by
  intro s a r h
  rw [digits] at h
  split at h
  · contradiction
  · obtain ⟨-, rfl⟩ := Prod.mk.inj (Option.some.inj h)
    have hprefix : (s.takeWhile Char.isDigit).take most <+: s :=
      (List.take_prefix _ _).trans (List.takeWhile_prefix _)
    refine ⟨_, (List.prefix_iff_eq_append.mp hprefix).symm, ?_⟩
    intro c hc
    exact List.mem_takeWhile_imp (List.mem_of_mem_take hc)

theorem takesOnly_number (least most : Nat) :
  TakesOnly (Char.isDigit · = true) (number least most)
  := (takesOnly_digits least most).map _

theorem takesOnly_allDigits (least : Nat) :
  TakesOnly (Char.isDigit · = true) (allDigits least)
  := by
  intro s a r h
  rw [allDigits] at h
  split at h
  · contradiction
  · obtain ⟨-, rfl⟩ := Prod.mk.inj (Option.some.inj h)
    refine ⟨_, (List.prefix_iff_eq_append.mp (List.takeWhile_prefix _)).symm, ?_⟩
    intro c hc
    exact List.mem_takeWhile_imp hc

/-- What is taken as a word is the word in small letters. -/
theorem exists_taken_of_word {w : String} {s r : List Char} (h : word w s = some ((), r)) :
  ∃ u, s = u ++ r ∧ u.map Char.toLower = w.toList
  := by
  rw [word] at h
  split at h
  · next htake =>
    obtain ⟨-, rfl⟩ := Prod.mk.inj (Option.some.inj h)
    use s.take w.toList.length, (List.take_append_drop _ _).symm
  · contradiction

/-- One of the names is taken, in small or capital letters. -/
theorem exists_taken_of_oneOf {names : List String} {s r : List Char} {i : Nat}
    (h : oneOf names s = some (i, r)) :
  ∃ u, s = u ++ r ∧ ∃ name ∈ names, u.map Char.toLower = name.toList
  := by
  rw [oneOf] at h
  obtain ⟨⟨name, j⟩, hmem, hword⟩ := List.exists_of_findSome?_eq_some h
  dsimp only at hword
  split at hword
  · next hw =>
    obtain ⟨-, rfl⟩ := Prod.mk.inj (Option.some.inj hword)
    obtain ⟨u, hu, hlower⟩ := exists_taken_of_word hw
    exact ⟨u, hu, name, List.fst_mem_of_mem_zipIdx hmem, hlower⟩
  · contradiction

section

variable {names : List String} (hC : ∀ name ∈ names, ∀ c : Char, c.toLower ∈ name.toList → C c)

include hC

theorem takesOnly_oneOf :
  TakesOnly C (oneOf names)
  := by
  intro s i r h
  obtain ⟨u, hu, name, hname, hlower⟩ := exists_taken_of_oneOf h
  use u, hu
  intro c hc
  apply hC name hname
  rw [← hlower]
  exact List.mem_map_of_mem hc

theorem takesOnly_longOrShort :
  TakesOnly C (longOrShort names)
  := by
  apply TakesOnly.bind
  · apply takesOnly_oneOf
    intro short hshort c hc
    obtain ⟨name, hname, rfl⟩ := List.mem_map.mp hshort
    rw [String.toList_ofList] at hc
    apply hC name hname c (List.mem_of_mem_take hc)
  · intro i s j r h
    dsimp only at h
    split at h
    · next hword =>
      obtain ⟨-, rfl⟩ := Prod.mk.inj (Option.some.inj h)
      obtain ⟨u, hu, hlower⟩ := exists_taken_of_word hword
      use u, hu
      intro c hc
      have hmem : c.toLower ∈ (names.getD i "").toList := by
        rw [String.toList_ofList] at hlower
        apply List.mem_of_mem_drop (i := 3)
        rw [← hlower]
        exact List.mem_map_of_mem hc
      by_cases hi : i < names.length
      · rw [List.getD_eq_getElem _ _ hi] at hmem
        apply hC _ (List.getElem_mem hi) c hmem
      · rw [List.getD_eq_default _ _ (by omega)] at hmem
        contradiction
    · obtain ⟨-, rfl⟩ := Prod.mk.inj (Option.some.inj h)
      use [], rfl
      simp

end

/-- A character that is looked at before it is taken. -/
theorem exists_taken_of_any {c : Char} (hc : C c) (hp : TakesOnly C p) {s r : List Char} {a : α}
    (hhead : s.head? = some c) (h : (any >>= fun _ => p) s = some (a, r)) :
  ∃ u, s = u ++ r ∧ ∀ c ∈ u, C c
  := by
  obtain ⟨t, rfl⟩ := List.head?_eq_some_iff.mp hhead
  rw [bind_of_eq_some (any_cons c t)] at h
  obtain ⟨u, rfl, hu⟩ := hp _ _ _ h
  use c :: u, rfl
  rintro d (_ | ⟨_, hd⟩)
  · exact hc
  · exact hu d hd

/-! ### Dates with the name of a month -/

section

variable {d : Char}

theorem takesOnly_blanks_ne (hd : Text.isBlank d = false) :
  TakesOnly (· ≠ d) blanks
  := by
  apply takesOnly_blanks.mono
  rintro c hc rfl
  simp [hc] at hd

theorem takesOnly_number_ne (hd : d.isDigit = false) (least most : Nat) :
  TakesOnly (· ≠ d) (number least most)
  := by
  apply (takesOnly_number least most).mono
  rintro c hc rfl
  simp [hc] at hd

theorem takesOnly_allDigits_ne (hd : d.isDigit = false) (least : Nat) :
  TakesOnly (· ≠ d) (allDigits least)
  := by
  apply (takesOnly_allDigits least).mono
  rintro c hc rfl
  simp [hc] at hd

end

theorem takesOnly_signedYear :
  TakesOnly (· ≠ ':') signedYear
  := by
  have hdigits := takesOnly_allDigits_ne (d := ':') rfl 1
  apply (takesOnly_blanks_ne rfl).bind
  intro _ s y r h
  obtain ⟨first, t, hpeek, h⟩ := bind_eq_some_iff.mp h
  obtain ⟨hfirst, rfl⟩ := Prod.mk.inj (Option.some.inj hpeek)
  split at h
  · exact exists_taken_of_any (by decide) (hdigits.bind fun _ => takesOnly_pure _) hfirst h
  · exact exists_taken_of_any (by decide) (hdigits.bind fun _ => takesOnly_pure _) hfirst h
  · exact ((takesOnly_number_ne rfl 1 4).bind fun _ => takesOnly_pure _) _ _ _ h

/-- No piece of a date has a colon in it. -/
theorem takesOnly_piece (parts : Parts) (x : Piece) :
  TakesOnly (· ≠ ':') (piece parts x)
  := by
  have hnames : ∀ names : List String, (∀ name ∈ names, ':' ∉ name.toList)
      → ∀ name ∈ names, ∀ c : Char, c.toLower ∈ name.toList → c ≠ ':' := by
    rintro names hnames name hname c hc rfl
    exact hnames name hname hc
  have hblanks := takesOnly_blanks_ne (d := ':') rfl
  cases x with
  | monthName =>
    apply (takesOnly_longOrShort (hnames _ (by decide))).bind
    apply fun _ => takesOnly_pure _
  | day =>
    apply hblanks.bind fun _ => ?_
    apply (takesOnly_number_ne rfl 1 2).bind fun _ => takesOnly_pure _
  | year => exact takesOnly_signedYear.bind fun _ => takesOnly_pure _
  | weekday =>
    apply (takesOnly_longOrShort (hnames _ (by decide))).bind
    apply fun _ => takesOnly_pure _
  | shortWeekday =>
    apply (takesOnly_oneOf (hnames _ (by decide))).bind
    apply fun _ => takesOnly_pure _
  | blank => exact hblanks.bind fun _ => takesOnly_pure _
  | comma =>
    have hcomma : TakesOnly (· ≠ ':') (char ',') := by
      apply (takesOnly_char ',').mono
      rintro c rfl
      decide
    exact hcomma.bind fun _ => takesOnly_pure _

theorem takesOnly_form (form : List Piece) (parts : Parts) :
  TakesOnly (· ≠ ':') (form.foldlM piece parts)
  := by
  induction form generalizing parts with
  | nil => apply takesOnly_pure
  | cons x form ih =>
    rw [List.foldlM_cons]
    exact (takesOnly_piece parts x).bind ih

end Scanner

/-- A text with a colon is no date with the name of a month. -/
theorem ofNamedMonth?_of_colon {s : List Char} (h : ':' ∈ s) :
  ofNamedMonth? s = none
  := by
  rw [ofNamedMonth?, List.findSome?_eq_none_iff]
  intro form _
  rw [ofForm?, Option.bind_eq_bind, Option.bind_eq_none_iff]
  intro parts hparts
  obtain ⟨u, rfl, hu⟩ := Scanner.takesOnly_form form _ _ _ _ (Scanner.all?_eq_some_iff.mp hparts)
  rw [List.append_nil] at h
  exact absurd rfl (hu ':' h)

/-! ### Texts that a scanner needs -/

namespace Scanner

/-- The scanner succeeds on texts of one kind only. -/
def Needs (Q : List Char → Prop) (p : Scanner α) : Prop :=
  ∀ s x, p s = some x → Q s

variable {Q : List Char → Prop}

theorem Needs.eq_none (hp : Needs Q p) {s : List Char} (hs : ¬ Q s) :
  p s = none
  := by
  rw [Option.eq_none_iff_forall_ne_some]
  intro x h
  exact hs (hp s x h)

theorem Needs.of_bind (hp : Needs Q p) :
  Needs Q (p >>= f)
  := by
  intro s x h
  obtain ⟨a, r, ha, -⟩ := bind_eq_some_iff.mp h
  exact hp s _ ha

/-- What the rest of a text must be like, the text must be like before something is taken off. -/
theorem Needs.bind (hQ : ∀ u r, Q r → Q (u ++ r)) (hp : TakesOnly C p) (hf : ∀ a, Needs Q (f a)) :
  Needs Q (p >>= f)
  := by
  intro s x h
  obtain ⟨a, r, ha, hx⟩ := bind_eq_some_iff.mp h
  obtain ⟨u, rfl, -⟩ := hp _ _ _ ha
  exact hQ u r (hf a r x hx)

theorem needs_char (c : Char) :
  Needs (c ∈ ·) (char c)
  := by
  rintro s ⟨_, r⟩ h
  rw [eq_cons_of_char h]
  apply List.mem_cons_self

/-- A timestamp has a hyphen in it. -/
theorem timestamp_needs :
  Needs ('-' ∈ ·) timestamp
  := by
  apply Needs.bind (fun u r h => List.mem_append_right u h) (takesOnly_number 4 4)
  exact fun _ => (needs_char '-').of_bind

/-- A date with the year first has a hyphen or a slash in it. -/
theorem yearFirst_needs :
  Needs (fun s => '-' ∈ s ∨ '/' ∈ s) yearFirst
  := by
  have happend : ∀ u r : List Char, '-' ∈ r ∨ '/' ∈ r → '-' ∈ u ++ r ∨ '/' ∈ u ++ r := by
    intro u r h
    exact h.imp (List.mem_append_right u) (List.mem_append_right u)
  have hseparator : Needs (fun s => '-' ∈ s ∨ '/' ∈ s) isoSeparator := by
    intro s x h
    cases s with
    | nil => contradiction
    | cons c s =>
      rw [isoSeparator, bind_of_eq_some (any_cons c s), guard_apply] at h
      split at h
      · next hc =>
        obtain rfl | rfl : c = '-' ∨ c = '/' := by simpa using hc
        · exact Or.inl List.mem_cons_self
        · exact Or.inr List.mem_cons_self
      · contradiction
  exact .bind happend (takesOnly_number 4 4) fun _ => hseparator.of_bind

/-- A date with the month first has a slash in it. -/
theorem monthFirst_needs :
  Needs ('/' ∈ ·) monthFirst
  := by
  apply Needs.bind (fun u r h => List.mem_append_right u h) (takesOnly_number 1 2)
  exact fun _ => (needs_char '/').of_bind

/-! ### Dates of mail headers -/

/-- A blank in the text, with no other blank behind it, stands before a zone. -/
def EndsInZone (s : List Char) : Prop :=
  ∃ pre b zone, s = pre ++ b :: zone ∧ Text.isBlank b = true
    ∧ (∀ c ∈ zone.head?, Text.isBlank c = false) ∧ (mailZone zone).isSome

theorem EndsInZone.append (u : List Char) {r : List Char} (h : EndsInZone r) :
  EndsInZone (u ++ r)
  := by
  obtain ⟨pre, b, zone, rfl, h⟩ := h
  exact ⟨u ++ pre, b, zone, (List.append_assoc _ _ _).symm, h⟩

theorem isBlank_head?_trimStart (s : List Char) :
  ∀ c ∈ (Text.trimStart s).head?, Text.isBlank c = false
  := by
  intro c hc
  have hnot := List.head?_dropWhile_not Text.isBlank s
  rw [← Text.trimStart, Option.mem_def.mp hc] at hnot
  simpa using hnot

theorem exists_taken_of_someBlanks {s r : List Char} (h : someBlanks s = some ((), r)) :
  ∃ u b, s = u ++ b :: r ∧ Text.isBlank b = true ∧ ∀ c ∈ r.head?, Text.isBlank c = false
  := by
  cases s with
  | nil => contradiction
  | cons c s =>
    rw [someBlanks] at h
    split at h
    · next hc =>
      obtain ⟨-, rfl⟩ := Prod.mk.inj (Option.some.inj h)
      let gap := c :: s.takeWhile Text.isBlank
      have hgap : ∀ b ∈ gap, Text.isBlank b = true := by
        intro b hb
        obtain rfl | hb := List.mem_cons.mp hb
        · exact hc
        · exact List.mem_takeWhile_imp hb
      have hne : gap ≠ [] := List.cons_ne_nil _ _
      have hs : c :: s = gap ++ Text.trimStart s := by
        rw [List.cons_append, Text.trimStart, List.takeWhile_append_dropWhile]
      refine ⟨gap.dropLast, gap.getLast hne, ?_, hgap _ (List.getLast_mem hne),
        isBlank_head?_trimStart s⟩
      rw [hs, List.append_cons, List.dropLast_append_getLast hne]
    · contradiction

theorem takesOnly_mailWeekday :
  TakesOnly (fun _ => True) mailWeekday
  := by
  intro s a r h
  rw [mailWeekday] at h
  split at h
  · next hname =>
    obtain ⟨-, rfl⟩ := Prod.mk.inj (Option.some.inj h)
    obtain ⟨u, rfl, -⟩ := exists_taken_of_oneOf hname
    use u ++ [','], by simp
    simp
  · contradiction
  · obtain ⟨-, rfl⟩ := Prod.mk.inj (Option.some.inj h)
    use [], rfl
    simp

theorem takesOnly_mailSecond :
  TakesOnly (fun _ => True) mailSecond
  := by
  intro s a r h
  rw [mailSecond] at h
  split at h
  · next t hstart =>
    obtain ⟨u, rfl, -⟩ := takesOnly_number 2 2 _ _ _ h
    have hs : s = s.takeWhile Text.isBlank ++ Text.trimStart s :=
      List.takeWhile_append_dropWhile.symm
    rw [hstart] at hs
    use s.takeWhile Text.isBlank ++ ':' :: u
    nth_rewrite 1 [hs]
    simp
  · obtain ⟨-, rfl⟩ := Prod.mk.inj (Option.some.inj h)
    use [], rfl
    simp

theorem takesOnly_someBlanks :
  TakesOnly (fun _ => True) someBlanks
  := by
  intro s a r h
  obtain ⟨u, b, rfl, -⟩ := exists_taken_of_someBlanks h
  use u ++ [b], by simp
  simp

/-- A mail date has a colon in it, and a zone behind that. -/
theorem mailDate_needs :
  Needs (fun s => ∃ u r, s = u ++ ':' :: r ∧ EndsInZone r) mailDate
  := by
  have happend : ∀ u r, (∃ v t, r = v ++ ':' :: t ∧ EndsInZone t)
      → ∃ v t, u ++ r = v ++ ':' :: t ∧ EndsInZone t := by
    rintro u r ⟨v, t, rfl, ht⟩
    exact ⟨u ++ v, t, (List.append_assoc _ _ _).symm, ht⟩
  have hnames : ∀ names : List String, TakesOnly (fun _ => True) (oneOf names) :=
    fun names => takesOnly_oneOf (by simp)
  refine .bind happend takesOnly_blanks fun _ => ?_
  refine .bind happend takesOnly_mailWeekday fun _ => ?_
  refine .bind happend takesOnly_blanks fun _ => ?_
  refine .bind happend (takesOnly_number 1 2) fun _ => ?_
  refine .bind happend takesOnly_someBlanks fun _ => ?_
  refine .bind happend (hnames _) fun _ => ?_
  refine .bind happend takesOnly_someBlanks fun _ => ?_
  refine .bind happend (takesOnly_allDigits 2) fun _ => ?_
  refine .bind happend takesOnly_someBlanks fun _ => ?_
  refine .bind happend (takesOnly_number 2 2) fun _ => ?_
  refine .bind happend takesOnly_blanks fun _ => ?_
  intro s x h
  obtain ⟨_, r, hcolon, h⟩ := bind_eq_some_iff.mp h
  refine ⟨[], r, eq_cons_of_char hcolon, ?_⟩
  apply Needs.bind EndsInZone.append takesOnly_blanks _ r x h
  intro _
  refine .bind EndsInZone.append (takesOnly_number 2 2) fun _ => ?_
  refine .bind EndsInZone.append takesOnly_mailSecond fun _ => ?_
  intro s x h
  obtain ⟨_, zone, hblanks, hrest⟩ := bind_eq_some_iff.mp h
  obtain ⟨y, t, hzone, -⟩ := bind_eq_some_iff.mp hrest
  obtain ⟨pre, b, rfl, hb, hhead⟩ := exists_taken_of_someBlanks hblanks
  refine ⟨pre, b, zone, rfl, hb, hhead, ?_⟩
  rw [hzone]
  rfl

end Scanner

end FieldFormula.Calendar
