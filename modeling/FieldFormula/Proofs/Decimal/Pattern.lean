import FieldFormula.Decimal.Pattern
import FieldFormula.Proofs.Decimal.RoundTrip

/-!
# Numbers written by a pattern

A pattern rounds a number to its fraction digits and then only adds to what is written: commas
between the digits of the whole part, zeros in front, and a sign.  Each step takes the text apart at
its point and puts it together again, and none of them loses, moves or repeats a digit.

* `IsGrouped`: digits in groups of three with commas between them.
* `isGrouped_insertCommas`: commas are put between the groups.
* `exists_fixedText_eq`: a rounded number is written as digits with a point between them.
* `exists_format_eq`: what a pattern adds to the rounded number.
-/

namespace FieldFormula.Decimal

open Float.Model (UnpackedFloat)
open Float.Model.UnpackedFloat (Sign)

/-! ### Groups -/

/-- The digits stand in groups of three, counted from the right, and there is a comma in front of
each group but the first one, which may be shorter. -/
def IsGrouped (digits grouped : List Char) : Prop :=
  ∃ (front : List Char) (groups : List (List Char)),
    digits = front ++ groups.flatten ∧ grouped = front ++ groups.flatMap (',' :: ·)
    ∧ 1 ≤ front.length ∧ front.length ≤ 3 ∧ ∀ g ∈ groups, g.length = 3

theorem length_flatten_of_forall {groups : List (List Char)} (h : ∀ g ∈ groups, g.length = 3) :
  groups.flatten.length = 3 * groups.length
  := by
  induction groups with
  | nil => rfl
  | cons g groups ih =>
    rw [List.forall_mem_cons] at h
    rw [List.flatten_cons, List.length_append, h.1, ih h.2, List.length_cons]
    ring

/-- Commas are put between the groups. -/
theorem isGrouped_insertCommas {s : List Char} (hs : s ≠ []) :
  IsGrouped s (insertCommas s)
  := by
  induction s with
  | nil => contradiction
  | cons c s ih =>
    obtain rfl | hne := eq_or_ne s []
    · use [c], []
      simp [insertCommas]
    · obtain ⟨front, groups, hdigits, hgrouped, hlow, hhigh, hgroups⟩ := ih hne
      have hlength : s.length = front.length + 3 * groups.length := by
        rw [hdigits, List.length_append, length_flatten_of_forall hgroups]
      rw [insertCommas]
      split
      · next hfull =>
        -- the first group is full, and the digit begins a new one
        use [c], front :: groups
        refine ⟨?_, ?_, le_rfl, by simp, ?_⟩
        · rw [List.flatten_cons, ← hdigits, List.singleton_append]
        · rw [List.flatMap_cons, hgrouped]
          rfl
        · rw [List.forall_mem_cons]
          use by omega, hgroups
      · next hpartial =>
        use c :: front, groups
        refine ⟨?_, ?_, ?_, ?_, hgroups⟩
        · rw [List.cons_append, ← hdigits]
        · rw [List.cons_append, ← hgrouped]
        · simp
        · rw [List.length_cons]
          have hmod : s.length % 3 ≠ 0 := fun h => hpartial ⟨h, hne⟩
          omega

theorem filter_ne_comma {s : List Char} (hs : ',' ∉ s) :
  s.filter (· ≠ ',') = s
  := by
  apply List.filter_eq_self.mpr
  intro c hc
  apply decide_eq_true
  rintro rfl
  exact hs hc

namespace IsGrouped

variable {digits grouped : List Char} (h : IsGrouped digits grouped)

include h

/-- Without the commas, the digits are left. -/
theorem filter_eq (hdigits : ',' ∉ digits) :
  grouped.filter (· ≠ ',') = digits
  := by
  obtain ⟨front, groups, rfl, rfl, -⟩ := h
  rw [List.mem_append, not_or] at hdigits
  rw [List.filter_append, filter_ne_comma hdigits.1, List.filter_flatMap, List.flatten_eq_flatMap]
  congr 1
  apply List.flatMap_congr
  intro g hg
  have hcomma : ',' ∉ g := fun hc => hdigits.2 (List.mem_flatten_of_mem hg hc)
  rw [List.filter_cons_of_neg (by decide), filter_ne_comma hcomma, id]

theorem mem_imp {c : Char} (hc : c ∈ grouped) :
  c ∈ digits ∨ c = ','
  := by
  obtain ⟨front, groups, rfl, rfl, -⟩ := h
  rw [List.mem_append, List.mem_flatMap] at hc
  obtain hfront | ⟨g, hg, hc⟩ := hc
  · exact Or.inl (List.mem_append_left _ hfront)
  · obtain rfl | hc := List.mem_cons.mp hc
    · exact Or.inr rfl
    · exact Or.inl (List.mem_append_right _ (List.mem_flatten_of_mem hg hc))

end IsGrouped

/-! ### Texts around a point -/

/-- The text is empty, or it is a point with digits behind it. -/
def IsFraction (s : List Char) : Prop :=
  s = [] ∨ ∃ ds, s = '.' :: ds ∧ ∀ c ∈ ds, c.isDigit

theorem IsFraction.isDigit_or_eq_point {s : List Char} (h : IsFraction s) {c : Char} (hc : c ∈ s) :
  c.isDigit ∨ c = '.'
  := by
  obtain rfl | ⟨ds, rfl, hds⟩ := h
  · contradiction
  · exact (List.mem_cons.mp hc).symm.imp_left (hds c)

theorem splitPoint_append {whole : List Char} (hwhole : '.' ∉ whole) (fraction : List Char) :
  splitPoint (whole ++ '.' :: fraction) = (whole, some fraction)
  := by
  have hne : ∀ c ∈ whole, (c != '.') = true := by
    intro c hc
    rw [bne_iff_ne]
    rintro rfl
    exact hwhole hc
  rw [splitPoint, List.span_eq_takeWhile_dropWhile, List.takeWhile_append_of_pos hne,
    List.dropWhile_append_of_pos hne]
  simp

theorem splitPoint_of_notMem {s : List Char} (hs : '.' ∉ s) :
  splitPoint s = (s, none)
  := by
  have hne : ∀ c ∈ s, (c != '.') = true := by
    intro c hc
    rw [bne_iff_ne]
    rintro rfl
    exact hs hc
  rw [splitPoint, List.span_eq_takeWhile_dropWhile, List.takeWhile_eq_self_iff.mpr hne,
    List.dropWhile_eq_nil_iff.mpr hne]

/-- The part before the point is changed, and the rest stays. -/
theorem mapWhole_append (f : List Char → List Char) {whole fraction : List Char}
    (hwhole : '.' ∉ whole) (hfraction : IsFraction fraction) :
  mapWhole f (whole ++ fraction) = f whole ++ fraction
  := by
  obtain rfl | ⟨ds, rfl, -⟩ := hfraction
  · rw [List.append_nil, List.append_nil, mapWhole, splitPoint_of_notMem hwhole]
  · rw [mapWhole, splitPoint_append hwhole]

theorem patternDigits_of_notMem {pattern : List Char} (h : '.' ∉ pattern) :
  patternDigits pattern = 0
  := by
  rw [patternDigits, splitPoint_of_notMem h]

/-! ### Rounded numbers -/

theorem Bounded.negative_ofBinary (b : Binary) :
  (ofBinary b).negative = b.negative
  := by
  rw [ofBinary]
  split
  · rfl
  · split <;> rfl

theorem Bounded.negative_round (d : Bounded) (digits : Nat) :
  (d.round digits).negative = d.negative
  := by
  rw [round]
  split
  · rfl
  · split <;> rfl

/-- A bounded decimal that is not negative is written as digits with a point between them, and
without a point if no fraction digits are asked for. -/
theorem Bounded.exists_fixedText_eq {d : Bounded} (hsign : d.negative = false) (digits : Nat) :
  ∃ whole fraction, d.fixedText digits = whole ++ fraction ∧ whole ≠ []
    ∧ (∀ c ∈ whole, c.isDigit) ∧ IsFraction fraction ∧ (digits = 0 → fraction = [])
  := by
  have hzeros : ∀ k, ∀ c ∈ List.replicate k '0', c.isDigit :=
    fun k c => isDigit_of_mem_replicate_zero
  have hnumber : ∀ n, ∀ c ∈ Nat.toDigits 10 n, c.isDigit := fun n c => isDigit_of_mem_toDigits
  rw [fixedText, hsign]
  refine ⟨_, _, rfl, ?_, ?_, ?_, fun hzero => if_pos hzero⟩
  · exact toDigits_ne_nil _
  · exact hnumber _
  · split
    · exact Or.inl rfl
    · right
      refine ⟨_, rfl, ?_⟩
      simp only [List.forall_mem_append]
      refine ⟨⟨hzeros _, ?_⟩, hzeros _⟩
      split
      · apply List.forall_mem_nil
      · exact hnumber _

theorem abs_toFloat {b : Binary} (hb : b.IsCanonical) :
  b.toFloat.abs = Binary.toFloat { b with negative := false }
  := by
  have habs : b.toFloat.abs = .ofModel (.pack b.toFloat.toModel.unpack.abs) := rfl
  rw [habs, Binary.unpack_toFloat hb, Binary.toFloat, Binary.unpacked, Binary.unpacked]
  split <;> rfl

/-- The magnitude of a float below `1e21` is rounded, and it stays without a sign. -/
theorem exists_rounded?_abs {n : Float} (hn : n.abs < 1e21) (digits : Nat) :
  ∃ d, rounded? n.abs digits = some d ∧ d.negative = false
  := by
  obtain ⟨p, hdenotes, -⟩ := exists_denotes_of_abs_lt denotes_limit hn
  obtain ⟨b, hform, rfl⟩ := denotes_iff.mp hdenotes
  obtain ⟨hb, rfl⟩ := Binary.ofFloat?_eq_some_iff.mp hform
  have hpositive : Binary.IsCanonical { b with negative := false } := hb.congr rfl rfl
  have hform' : Binary.ofFloat? b.toFloat.abs = some { b with negative := false } := by
    rw [abs_toFloat hb]
    exact Binary.ofFloat?_eq_some_iff.mpr ⟨hpositive, rfl⟩
  have hsmall : ¬ (1e21 : Float) ≤ b.toFloat.abs.abs := by
    rw [abs_toFloat hb, abs_toFloat hpositive, ← abs_toFloat hb,
      le_iff denotes_limit (denotes_abs hdenotes), not_le, ← lt_iff (denotes_abs hdenotes)
      denotes_limit]
    exact hn
  use (Bounded.ofBinary { b with negative := false }).round digits
  constructor
  · simp only [rounded?, hform', if_neg hsmall]
  · rw [Bounded.negative_round, Bounded.negative_ofBinary]

/-- The magnitude of a float below `1e21` is written as digits with a point between them. -/
theorem exists_fixedText_eq {n : Float} (hn : n.abs < 1e21) (digits : Nat) :
  ∃ whole fraction, fixedText n.abs digits = whole ++ fraction ∧ whole ≠ []
    ∧ (∀ c ∈ whole, c.isDigit) ∧ IsFraction fraction ∧ (digits = 0 → fraction = [])
  := by
  obtain ⟨d, hrounded, hsign⟩ := exists_rounded?_abs hn (clampDigits digits)
  obtain ⟨whole, fraction, htext, hne, hwhole, hfraction, hnone⟩ :=
    Bounded.exists_fixedText_eq hsign (clampDigits digits)
  use whole, fraction
  refine ⟨?_, hne, hwhole, hfraction, ?_⟩
  · rw [fixedText, hrounded]
    exact htext
  · rintro rfl
    exact hnone rfl

/-! ### Patterns -/

/-- What a pattern writes for the digits of a whole part: the digits in groups if there is a comma
in the pattern, and else the digits. -/
def IsGroupedBy (pattern digits grouped : List Char) : Prop :=
  if ',' ∈ pattern then IsGrouped digits grouped else grouped = digits

namespace IsGroupedBy

variable {pattern digits grouped : List Char} (h : IsGroupedBy pattern digits grouped)
  (hdigits : ∀ c ∈ digits, c.isDigit)

include h hdigits

theorem isDigit_or_eq_comma {c : Char} (hc : c ∈ grouped) :
  c.isDigit ∨ c = ','
  := by
  rw [IsGroupedBy] at h
  split at h
  · exact (h.mem_imp hc).imp_left (hdigits c)
  · obtain rfl := h
    exact Or.inl (hdigits c hc)

/-- Without the commas, the digits are left. -/
theorem filter_eq :
  grouped.filter (· ≠ ',') = digits
  := by
  have hcomma : ',' ∉ digits := fun hc => absurd (hdigits _ hc) (by decide)
  rw [IsGroupedBy] at h
  split at h
  · exact h.filter_eq hcomma
  · obtain rfl := h
    apply filter_ne_comma hcomma

end IsGroupedBy

/-- The whole part is grouped if there is a comma in the pattern. -/
theorem exists_isGroupedBy {whole fraction : List Char} (hne : whole ≠ [])
    (hwhole : ∀ c ∈ whole, c.isDigit) (hfraction : IsFraction fraction) (pattern : List Char) :
  ∃ grouped, IsGroupedBy pattern whole grouped
    ∧ (if pattern.contains ',' then mapWhole groupThousands (whole ++ fraction)
      else whole ++ fraction) = grouped ++ fraction
  := by
  by_cases hcomma : ',' ∈ pattern
  · have hpoint : '.' ∉ whole := fun h => absurd (hwhole _ h) (by decide)
    have hdigits : whole.all Char.isDigit = true := List.all_eq_true.mpr hwhole
    use insertCommas whole
    constructor
    · rw [IsGroupedBy, if_pos hcomma]
      apply isGrouped_insertCommas hne
    · rw [if_pos (List.contains_iff_mem.mpr hcomma), mapWhole_append _ hpoint hfraction,
        groupThousands, if_pos hdigits]
  · use whole
    constructor
    · rw [IsGroupedBy, if_neg hcomma]
    · rw [if_neg (mt List.contains_iff_mem.mp hcomma)]

/-- The sign of a number that is written by a pattern. -/
def signText (n : Float) : List Char :=
  if n < 0.0 then ['-'] else []

/-- A pattern writes a number as its sign, zeros and the rounded number, whose whole part is
grouped if there is a comma in the pattern.  Only the sign, the zeros and the commas are added. -/
theorem exists_format_eq {n : Float} (hn : n.abs < 1e21) (pattern : List Char) :
  ∃ (zeros : Nat) (whole grouped fraction : List Char),
    fixedText n.abs (patternDigits pattern) = whole ++ fraction
    ∧ whole ≠ [] ∧ (∀ c ∈ whole, c.isDigit) ∧ IsFraction fraction
    ∧ IsGroupedBy pattern whole grouped
    ∧ format pattern n = signText n ++ List.replicate zeros '0' ++ grouped ++ fraction
    ∧ (format pattern n).filter (· ≠ ',')
      = signText n ++ List.replicate zeros '0' ++ fixedText n.abs (patternDigits pattern)
    ∧ ('-' ∈ format pattern n ↔ n < 0.0)
  := by
  obtain ⟨whole, fraction, htext, hne, hwhole, hfraction, hnone⟩ :=
    exists_fixedText_eq hn (patternDigits pattern)
  obtain ⟨grouped, hgrouped, hplain⟩ := exists_isGroupedBy hne hwhole hfraction pattern
  have hpoint : '.' ∉ grouped := by
    intro hmem
    cases hgrouped.isDigit_or_eq_comma hwhole hmem <;> contradiction
  have hfilled : (if pattern.contains '.'
      then mapWhole (padZeros (patternZeros pattern)) (grouped ++ fraction)
      else padZeros (patternZeros pattern) (grouped ++ fraction))
      = padZeros (patternZeros pattern) grouped ++ fraction := by
    by_cases hdot : '.' ∈ pattern
    · rw [if_pos (List.contains_iff_mem.mpr hdot), mapWhole_append _ hpoint hfraction]
    · -- without a point no fraction digits are asked for
      rw [if_neg (mt List.contains_iff_mem.mp hdot), hnone (patternDigits_of_notMem hdot),
        List.append_nil, List.append_nil]
  obtain ⟨zeros, hzeros⟩ : ∃ zeros, patternZeros pattern - grouped.length = zeros := ⟨_, rfl⟩
  have hformat : format pattern n
      = signText n ++ List.replicate zeros '0' ++ grouped ++ fraction := by
    simp only [format, htext, hplain, hfilled, signText]
    rw [padZeros, hzeros]
    split <;> simp
  use zeros, whole, grouped, fraction
  refine ⟨htext, hne, hwhole, hfraction, hgrouped, hformat, ?_, ?_⟩
  · have hsign : ',' ∉ signText n ++ List.replicate zeros '0' := by
      rw [signText]
      split <;> simp
    have hcomma : ',' ∉ fraction := by
      intro hmem
      cases hfraction.isDigit_or_eq_point hmem <;> contradiction
    rw [hformat, List.filter_append, List.filter_append, hgrouped.filter_eq hwhole,
      filter_ne_comma hsign, filter_ne_comma hcomma, List.append_assoc, ← htext]
  · have hdigits : '-' ∉ List.replicate zeros '0' := by simp
    have hwhole' : '-' ∉ grouped := by
      intro hmem
      cases hgrouped.isDigit_or_eq_comma hwhole hmem <;> contradiction
    have hfraction' : '-' ∉ fraction := by
      intro hmem
      cases hfraction.isDigit_or_eq_point hmem <;> contradiction
    simp only [hformat, List.mem_append, hdigits, hwhole', hfraction', or_false, signText]
    split <;> simp [*]

/-- A negative number in groups, with a zero in front. -/
theorem exists_format_eq_groups :
  let n : Float := -12345.678
  let pattern := "0,000,000.00".toList
  format pattern n = "-012,345.68".toList ∧ ∃ zeros whole grouped fraction,
    fixedText n.abs 2 = whole ++ fraction
    ∧ IsGrouped whole grouped
    ∧ format pattern n = signText n ++ List.replicate zeros '0' ++ grouped ++ fraction
  := by
  intro n pattern
  have hdigits : patternDigits pattern = 2 := by decide +kernel
  have hcomma : ',' ∈ pattern := by decide +kernel
  obtain ⟨zeros, whole, grouped, fraction, htext, -, -, -, hgrouped, hformat, -⟩ :=
    exists_format_eq (n := n) (by decide +kernel) pattern
  rw [hdigits] at htext
  rw [IsGroupedBy, if_pos hcomma] at hgrouped
  exact ⟨by decide +kernel, zeros, whole, grouped, fraction, htext, hgrouped, hformat⟩

end FieldFormula.Decimal
