import FieldFormula.Proofs.Calendar.Numeric
import FieldFormula.Proofs.Calendar.Taking

/-!
# The shape of a time

A text that is read as a time consists of numbers with colons and a point between them, then blanks,
then the half of the day.  The blanks and the half may be missing.  So what stands behind a blank of
such a text has no colon in it, and it is no time, nor does a zone stand there.

* `exists_timeShape`: a text that is read as a time has this shape.
* `TimeShape.eq_of_blank`: what stands behind a blank.
* `TimeShape.ofText?_eq_none`, `TimeShape.not_endsInZone`: it is no time, and no zone.
-/

namespace FieldFormula.Calendar

open Scanner

theorem not_isBlank_of_isAlpha {c : Char} (hc : c.isAlpha) :
  Text.isBlank c = false
  := by
  simp only [Char.isAlpha, Char.isUpper, Char.isLower, ge_iff_le, Bool.or_eq_true,
    Bool.and_eq_true, decide_eq_true_eq, UInt32.le_iff_toNat_le] at hc
  have hrange : (65 ≤ c.toNat ∧ c.toNat ≤ 90) ∨ (97 ≤ c.toNat ∧ c.toNat ≤ 122) := hc
  simp only [Text.isBlank, Bool.or_eq_false_iff, Bool.and_eq_false_iff, decide_eq_false_iff_not,
    beq_eq_false_iff_ne]
  omega

theorem mem_of_mem_trim {c : Char} {s : List Char} (hc : c ∈ Text.trim s) :
  c ∈ s
  := by
  rw [Text.trim, Text.trimEnd, List.mem_reverse] at hc
  have hstart := (List.dropWhile_sublist Text.isBlank).mem hc
  rw [List.mem_reverse] at hstart
  exact (List.dropWhile_sublist Text.isBlank).mem hstart

theorem isBlank_getLast?_trim (s : List Char) :
  ∀ c ∈ (Text.trim s).getLast?, Text.isBlank c = false
  := by
  rw [Text.trim, Text.trimEnd, List.getLast?_reverse]
  apply isBlank_head?_trimStart

/-- A text behind a part without a character is split at the character behind this part. -/
theorem exists_append_of_notMem {p s x r : List Char} {c : Char} (hp : c ∉ p)
    (h : p ++ s = x ++ c :: r) :
  ∃ y, x = p ++ y ∧ s = y ++ c :: r
  := by
  obtain hx | ⟨y, rfl, hr⟩ := List.append_eq_append_iff.mp h
  · exact hx
  · cases y with
    | nil => exact ⟨[], by simp, by simpa using hr.symm⟩
    | cons d y =>
      obtain ⟨rfl, -⟩ := List.cons.inj hr
      simp at hp

/-- What stands at the end of a time, if anything does: the half of the day, in any case. -/
def IsHalf (s : List Char) : Prop :=
  s = [] ∨ s.map Char.toLower ∈ [['a', 'm'], ['p', 'm']]

/-- The numbers of a time with the marks between them, blanks, and the half of the day. -/
structure TimeShape (front gap half : List Char) : Prop where
  numbers : ∀ c ∈ front, c.isDigit ∨ c = ':' ∨ c = '.'
  colon : ':' ∈ front
  blanks : ∀ c ∈ gap, Text.isBlank c = true
  half : IsHalf half

/-! ### Times have this shape -/

namespace Scanner

/-- A time has a colon in it. -/
theorem time_needs :
  Needs (':' ∈ ·) time
  := by
  apply Needs.bind (fun u r h => List.mem_append_right u h) (takesOnly_number 1 2)
  exact fun _ => (needs_char ':').of_bind

theorem takesOnly_secondsAndFraction :
  TakesOnly (fun c => c.isDigit ∨ c = ':' ∨ c = '.') secondsAndFraction
  := by
  have hmark : ∀ d, d = ':' ∨ d = '.' →
      TakesOnly (fun c => c.isDigit ∨ c = ':' ∨ c = '.') (optional d) := by
    intro d hd
    apply (takesOnly_optional d).mono
    rintro c rfl
    exact Or.inr hd
  have hdigits : ∀ least most,
      TakesOnly (fun c => c.isDigit ∨ c = ':' ∨ c = '.') (digits least most) :=
    fun least most => (takesOnly_digits least most).mono fun c hc => Or.inl hc
  apply (hmark ':' (Or.inl rfl)).bind
  intro hasSecond
  split
  · apply ((hdigits 2 2).map _).bind
    intro second
    apply (hmark '.' (Or.inr rfl)).bind
    intro hasFraction
    split
    · exact (hdigits 1 9).bind fun _ => takesOnly_pure _
    · apply takesOnly_pure
  · apply takesOnly_pure

theorem exists_taken_of_halfDay {s r : List Char} {half : Option Bool}
    (h : halfDay s = some (half, r)) :
  ∃ u, s = u ++ r ∧ IsHalf u
  := by
  rw [halfDay] at h
  split at h
  · next hname =>
    obtain ⟨-, rfl⟩ := Prod.mk.inj (Option.some.inj h)
    obtain ⟨u, hu, name, hmem, hlower⟩ := exists_taken_of_oneOf hname
    use u, hu, Or.inr ?_
    rw [hlower]
    obtain rfl | rfl : name = "am" ∨ name = "pm" := by simpa using hmem
    · exact List.mem_cons_self
    · exact List.mem_cons_of_mem _ List.mem_cons_self
  · obtain ⟨-, rfl⟩ := Prod.mk.inj (Option.some.inj h)
    exact ⟨[], rfl, Or.inl rfl⟩

/-- A text that is read as a time has the shape of a time. -/
theorem exists_timeShape {s : List Char} {t : Time} (h : time s = some (t, [])) :
  ∃ front gap half, s = front ++ (gap ++ half) ∧ TimeShape front gap half
  := by
  obtain ⟨hour, r₁, hhour, h⟩ := bind_eq_some_iff.mp h
  obtain ⟨_, r₂, hcolon, h⟩ := bind_eq_some_iff.mp h
  obtain ⟨minute, r₃, hminute, h⟩ := bind_eq_some_iff.mp h
  obtain ⟨⟨second, nano⟩, r₄, hsecond, h⟩ := bind_eq_some_iff.mp h
  obtain ⟨_, r₅, hblanks, h⟩ := bind_eq_some_iff.mp h
  obtain ⟨which, r₆, hwhich, h⟩ := bind_eq_some_iff.mp h
  -- nothing is taken behind the half of the day
  have hnil : r₆ = [] := by
    cases which with
    | none =>
      obtain ⟨_, -, heq⟩ := Option.map_eq_some_iff.mp h
      exact (Prod.mk.inj heq).2
    | some afternoon =>
      obtain ⟨_, r₇, hguard, h⟩ := bind_eq_some_iff.mp h
      obtain ⟨_, -, heq⟩ := Option.map_eq_some_iff.mp h
      rw [← eq_of_guard hguard, (Prod.mk.inj heq).2]
  obtain ⟨ds, rfl, hds⟩ := takesOnly_number _ _ _ _ _ hhour
  obtain ⟨es, rfl, hes⟩ := takesOnly_number _ _ _ _ _ hminute
  obtain ⟨fs, rfl, hfs⟩ := takesOnly_secondsAndFraction _ _ _ hsecond
  obtain ⟨gap, rfl, hgap⟩ := takesOnly_blanks _ _ _ hblanks
  obtain ⟨half, rfl, hhalf⟩ := exists_taken_of_halfDay hwhich
  rw [eq_cons_of_char hcolon, hnil]
  refine ⟨ds ++ ':' :: (es ++ fs), gap, half, by simp, ?_, by simp, hgap, hhalf⟩
  intro c hc
  simp only [List.mem_append, List.mem_cons] at hc
  obtain hc | rfl | hc | hc := hc
  · exact Or.inl (hds c hc)
  · exact Or.inr (Or.inl rfl)
  · exact Or.inl (hes c hc)
  · exact hfs c hc

end Scanner

namespace TimeShape

variable {front gap half : List Char} (h : TimeShape front gap half)

include h

/-! ### What stands behind a blank -/

theorem isAlpha_of_mem_half {c : Char} (hc : c ∈ half) :
  c.isAlpha
  := by
  obtain rfl | hhalf := h.half
  · contradiction
  · have hletters : ∀ s ∈ [['a', 'm'], ['p', 'm']], ∀ c ∈ s, c.isAlpha := by simp
    rw [← Char.isAlpha_toLower_eq_isAlpha]
    exact hletters _ hhalf _ (List.mem_map_of_mem hc)

/-- A time has no mark of a date of numbers in it. -/
theorem notMem {c : Char} (hc : c = '-' ∨ c = '/') :
  c ∉ front ++ (gap ++ half)
  := by
  rw [List.mem_append, List.mem_append]
  rintro (hmem | hmem | hmem)
  · have hnumbers := h.numbers c hmem
    obtain rfl | rfl := hc <;> revert hnumbers <;> decide
  · have hblank := h.blanks c hmem
    obtain rfl | rfl := hc <;> contradiction
  · have halpha := h.isAlpha_of_mem_half hmem
    obtain rfl | rfl := hc <;> contradiction

/-- The half of the day is no zone. -/
theorem mailZone_half :
  mailZone half = none
  := by
  have hall : half.takeWhile Char.isAlpha = half :=
    List.takeWhile_eq_self_iff.mpr fun c hc => h.isAlpha_of_mem_half hc
  obtain rfl | hhalf := h.half
  · rfl
  · have hhours : zoneHours? half = none := by
      rw [zoneHours?, ← List.length_map Char.toLower]
      obtain hlower | hlower := List.mem_pair.mp hhalf <;> rw [hlower] <;> rfl
    rw [mailZone, hall]
    split
    · simp at hhalf
    · rw [hhours, Option.map_none]

/-- Behind a blank of a time stand blanks and the half of the day. -/
theorem eq_of_blank {x r : List Char} {b : Char} (hb : Text.isBlank b = true)
    (heq : front ++ (gap ++ half) = x ++ b :: r) :
  ∃ g, (∀ c ∈ g, Text.isBlank c = true) ∧ r = g ++ half
  := by
  have hfront : b ∉ front := by
    intro hmem
    obtain hdigit | rfl | rfl := h.numbers b hmem
    · simp [Decimal.not_isBlank_of_isDigit hdigit] at hb
    · contradiction
    · contradiction
  have hhalf : b ∉ half := by
    intro hmem
    simp [not_isBlank_of_isAlpha (h.isAlpha_of_mem_half hmem)] at hb
  obtain ⟨y, -, hy⟩ := exists_append_of_notMem hfront heq
  obtain ⟨z, rfl, rfl⟩ | ⟨z, rfl, hz⟩ := List.append_eq_append_iff.mp hy
  · simp at hhalf
  · cases z with
    | nil =>
      rw [List.nil_append] at hz
      rw [← hz] at hhalf
      simp at hhalf
    | cons c g =>
      obtain ⟨-, rfl⟩ := List.cons.inj hz
      refine ⟨g, ?_, rfl⟩
      intro c hc
      exact h.blanks c (List.mem_append_right _ (List.mem_cons_of_mem _ hc))

/-- No zone stands at the end of a time. -/
theorem not_endsInZone {x r : List Char} (heq : front ++ (gap ++ half) = x ++ r) :
  ¬ EndsInZone r
  := by
  rintro ⟨pre, b, zone, rfl, hb, hhead, hzone⟩
  rw [← List.append_assoc x] at heq
  obtain ⟨g, hg, rfl⟩ := h.eq_of_blank hb heq
  cases g with
  | nil => simp [h.mailZone_half] at hzone
  | cons c g => simp [hg c List.mem_cons_self] at hhead

/-- What stands behind a blank of a time is no time. -/
theorem ofText?_eq_none {x r : List Char} {b : Char} (hb : Text.isBlank b = true)
    (heq : front ++ (gap ++ half) = x ++ b :: r) :
  Time.ofText? r = none
  := by
  obtain ⟨g, hg, rfl⟩ := h.eq_of_blank hb heq
  have hcolon : ':' ∉ g ++ half := by
    intro hmem
    obtain hmem | hmem := List.mem_append.mp hmem
    · have hblank := hg _ hmem
      contradiction
    · have halpha := h.isAlpha_of_mem_half hmem
      contradiction
  apply all?_eq_none
  exact time_needs.eq_none (mt mem_of_mem_trim hcolon)

end TimeShape

end FieldFormula.Calendar
