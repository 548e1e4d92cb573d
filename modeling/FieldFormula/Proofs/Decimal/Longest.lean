import FieldFormula.Proofs.Decimal.Digits

/-!
# The longest numeral

A numeral is made of a sign and the word for an infinite number, or of a sign, a mantissa and an
exponent, each of which may be described by itself together with what it writes.  The front of a
text is read part by part, and each part is taken as far as it goes, the exponent only if it is
complete.  What is found so is a numeral, and no numeral at the front of the text is longer.

* `Writes`: the numerals with the floats that they write.
* `exists_writes_of_longest?`: what is found is a numeral at the front of the text.
* `Writes.exists_longest?_append`: a numeral at the front of a text is found, or a longer one.
* `Writes.value_eq`: the value of a numeral is what it writes.
* `readFront?_eq_longest`: the number at the front of a text is that of the longest numeral.
-/

namespace FieldFormula.Decimal

/-! ### The language of numerals -/

/-- The texts of a sign, with whether it makes numbers negative. -/
inductive IsSign : List Char → Bool → Prop where
  | none : IsSign [] false
  | plus : IsSign ['+'] false
  | minus : IsSign ['-'] true

/-- One digit or more. -/
structure IsDigits (s : List Char) : Prop where
  ne_nil : s ≠ []
  isDigit : ∀ c ∈ s, c.isDigit

/-- The texts of a mantissa, with its digits before the point and behind it. -/
inductive IsMantissa : List Char → List Char → List Char → Prop where
  | whole {ds : List Char} (h : IsDigits ds) : IsMantissa ds ds []
  | point {ds fs : List Char} (hds : IsDigits ds) (hfs : ∀ c ∈ fs, c.isDigit) :
    IsMantissa (ds ++ '.' :: fs) ds fs
  | fraction {fs : List Char} (h : IsDigits fs) : IsMantissa ('.' :: fs) [] fs

/-- The texts of an exponent, which may be missing, with its number. -/
inductive IsExponent : List Char → Int → Prop where
  | none : IsExponent [] 0
  | mark {e : Char} {sign ds : List Char} {negative : Bool} (he : e = 'e' ∨ e = 'E')
      (hsign : IsSign sign negative) (hds : IsDigits ds) :
    IsExponent (e :: (sign ++ ds)) (if negative then -digitsValue ds else digitsValue ds)

/-- The texts of numerals, with the floats that they write. -/
inductive Writes : List Char → Float → Prop where
  | infinity {sign : List Char} {negative : Bool} (hsign : IsSign sign negative) :
    Writes (sign ++ "Infinity".toList) (if negative then -(1.0 / 0.0) else 1.0 / 0.0)
  | decimal {sign m whole fraction x : List Char} {negative : Bool} {k : Int}
      (hsign : IsSign sign negative) (hm : IsMantissa m whole fraction) (hx : IsExponent x k) :
    Writes (sign ++ (m ++ x))
      (if negative then -nearest (digitsValue (whole ++ fraction)) (k - fraction.length)
        else nearest (digitsValue (whole ++ fraction)) (k - fraction.length))

/-! ### Digits -/

section

variable {ds : List Char} (hdigits : ∀ c ∈ ds, c.isDigit)

include hdigits

theorem any_isDigit : ds.any Char.isDigit = !ds.isEmpty := by
  cases ds with
  | nil => rfl
  | cons d ds =>
    rw [List.any_cons, hdigits d List.mem_cons_self]
    rfl

/-- There are digits if there is one. -/
theorem isDigits_iff : IsDigits ds ↔ ds.any Char.isDigit = true := by
  rw [any_isDigit hdigits, Bool.not_eq_true', List.isEmpty_eq_false_iff]
  exact ⟨fun h => h.ne_nil, fun hne => ⟨hne, hdigits⟩⟩

end

theorem not_isBlank_of_isDigit {c : Char} (hc : c.isDigit) :
  Text.isBlank c = false
  := by
  simp only [Char.isDigit, ge_iff_le, Bool.and_eq_true, decide_eq_true_eq,
    UInt32.le_iff_toNat_le] at hc
  have hlow : 48 ≤ c.toNat := hc.1
  have hhigh : c.toNat ≤ 57 := hc.2
  simp only [Text.isBlank, Bool.or_eq_false_iff, Bool.and_eq_false_iff, decide_eq_false_iff_not,
    beq_eq_false_iff_ne]
  omega

theorem isDigit_of_mem_takeWhile (s : List Char) :
  ∀ c ∈ s.takeWhile Char.isDigit, c.isDigit
  := fun _ hc => List.mem_takeWhile_imp hc

/-- A fraction is missing, or it is digits behind a point. -/
theorem takeFraction_eq_or (s : List Char) :
  takeFraction s = [] ∨ ∃ fs, takeFraction s = '.' :: fs ∧ ∀ c ∈ fs, c.isDigit
  := by
  fun_cases takeFraction s with
  | case1 s => exact .inr ⟨_, rfl, isDigit_of_mem_takeWhile s⟩
  | case2 => exact .inl rfl

/-! ### Signs -/

theorem isSign_ite (negative : Bool) : IsSign (if negative then ['-'] else []) negative := by
  cases negative
  · exact .none
  · exact .minus

theorem takeSign_of_ne {c : Char} (hplus : c ≠ '+') (hminus : c ≠ '-') (r : List Char) :
  takeSign (c :: r) = ([], c :: r)
  := by
  unfold takeSign
  split
  · next heq => cases hminus (List.cons.inj heq).1
  · next heq => cases hplus (List.cons.inj heq).1
  · rfl

section

variable {sign : List Char} {negative : Bool} (hsign : IsSign sign negative)

include hsign

theorem IsSign.eq_minus_iff : sign = ['-'] ↔ negative = true := by
  cases hsign <;> simp

/-- A sign is taken off what does not begin with one. -/
theorem IsSign.takeSign_append {c : Char} (hplus : c ≠ '+') (hminus : c ≠ '-') (r : List Char) :
  takeSign (sign ++ c :: r) = (sign, c :: r)
  := by
  cases hsign with
  | none => apply takeSign_of_ne hplus hminus
  | plus => rfl
  | minus => rfl

theorem IsSign.takeSign_digits {ds : List Char} (hds : IsDigits ds) (t : List Char) :
  takeSign (sign ++ (ds ++ t)) = (sign, ds ++ t)
  := by
  obtain ⟨d, r, rfl⟩ := List.exists_cons_of_ne_nil hds.ne_nil
  have hd := hds.isDigit d List.mem_cons_self
  apply hsign.takeSign_append
  · rintro rfl
    contradiction
  · rintro rfl
    contradiction

theorem IsSign.longest?_infinity (t : List Char) :
  longest? (sign ++ (infinityWord ++ t)) = some (sign ++ infinityWord)
  := by
  have hsplit : takeSign (sign ++ (infinityWord ++ t)) = (sign, infinityWord ++ t) :=
    hsign.takeSign_append (by decide) (by decide) _
  have hword : infinityWord.isPrefixOf (infinityWord ++ t) = true := by
    rw [List.isPrefixOf_iff_prefix]
    apply List.prefix_append
  simp only [longest?, hsplit, hword, if_true]

end

/-- A text is the sign at its front and what follows it. -/
theorem exists_isSign_takeSign (s : List Char) :
  ∃ sign negative r, IsSign sign negative ∧ takeSign s = (sign, r) ∧ s = sign ++ r
  := by
  fun_cases takeSign s with
  | case1 s => exact ⟨_, _, _, .minus, rfl, rfl⟩
  | case2 s => exact ⟨_, _, _, .plus, rfl, rfl⟩
  | case3 => exact ⟨_, _, _, .none, rfl, rfl⟩

/-! ### Exponents -/

/-- What does not continue the digits of a mantissa: neither a digit nor a first point. -/
def Ends (m t : List Char) : Prop :=
  ∀ c ∈ t.head?, ¬ c.isDigit ∧ (c = '.' → '.' ∈ m)

/-- An exponent is taken with the digits behind it. -/
theorem takeExponent_append {e : Char} {sign ds : List Char} {negative : Bool}
    (he : e = 'e' ∨ e = 'E') (hsign : IsSign sign negative) (hds : IsDigits ds) (t : List Char) :
  takeExponent (e :: (sign ++ ds) ++ t) = e :: (sign ++ ds) ++ t.takeWhile Char.isDigit
  := by
  have hdigits : (ds ++ t).takeWhile Char.isDigit = ds ++ t.takeWhile Char.isDigit :=
    List.takeWhile_append_of_pos hds.isDigit
  rw [List.cons_append, List.append_assoc, takeExponent, if_pos he, hsign.takeSign_digits hds]
  dsimp only
  rw [hdigits]
  split
  · next hnil => cases hds.ne_nil (List.append_eq_nil_iff.mp hnil).1
  · simp only [List.cons_append, List.append_assoc]

/-- What is taken for an exponent is one at the front of the text. -/
theorem isExponent_takeExponent (t : List Char) :
  (∃ k, IsExponent (takeExponent t) k) ∧ takeExponent t <+: t
  := by
  fun_cases takeExponent t with
  | case1 e r he sign s hsplit hdigits => exact ⟨⟨0, .none⟩, List.nil_prefix⟩
  | case2 e r he sign s hsplit hne =>
    obtain ⟨sign', negative, r', hsign, hsplit', rfl⟩ := exists_isSign_takeSign r
    obtain ⟨rfl, rfl⟩ := Prod.mk.inj (hsplit.symm.trans hsplit')
    constructor
    · exact ⟨_, .mark he hsign ⟨hne, isDigit_of_mem_takeWhile s⟩⟩
    · rw [List.cons_append, List.cons_prefix_cons, List.prefix_append_right_inj]
      exact ⟨rfl, List.takeWhile_prefix _⟩
  | case3 => exact ⟨⟨0, .none⟩, List.nil_prefix⟩
  | case4 => exact ⟨⟨0, .none⟩, List.nil_prefix⟩

namespace IsExponent

variable {x t : List Char} {k : Int} (hx : IsExponent x k)

include hx

theorem prefix_takeExponent (t : List Char) :
  x <+: takeExponent (x ++ t)
  := by
  cases hx with
  | none => apply List.nil_prefix
  | mark he hsign hds =>
    rw [takeExponent_append he hsign hds]
    apply List.prefix_append

/-- An exponent is taken by itself before what does not continue it. -/
theorem takeExponent_eq (hends : ∀ c ∈ t.head?, ¬ c.isDigit)
    (hnone : ∀ y k, IsExponent y k → y <+: t → y = []) :
  takeExponent (x ++ t) = x
  := by
  cases hx with
  | none =>
    obtain ⟨⟨k, hk⟩, hfront⟩ := isExponent_takeExponent t
    apply hnone _ k hk hfront
  | mark he hsign hds =>
    have hdigits := takeWhile_isDigit_append hends []
    rw [List.nil_append, List.takeWhile_nil] at hdigits
    rw [takeExponent_append he hsign hds, hdigits, List.append_nil]

theorem exponentValue_eq :
  exponentValue x = k
  := by
  cases hx with
  | none => rfl
  | @mark e sign ds negative he hsign hds =>
    have hsplit := hsign.takeSign_digits hds []
    rw [List.append_nil] at hsplit
    simp only [exponentValue, hsplit, hsign.eq_minus_iff]

/-- The mark of an exponent does not continue a mantissa. -/
theorem ends_append {m : List Char} (ht : x = [] → Ends m t) :
  Ends m (x ++ t)
  := by
  cases hx with
  | none => exact ht rfl
  | mark he =>
    rintro c ⟨⟩
    obtain rfl | rfl := he <;> simp

end IsExponent

/-! ### Mantissas -/

theorem isPrefix_takeFraction (s : List Char) :
  takeFraction s <+: s
  := by
  fun_cases takeFraction s with
  | case1 s =>
    rw [List.cons_prefix_cons]
    exact ⟨rfl, List.takeWhile_prefix _⟩
  | case2 => apply List.nil_prefix

/-- The digits at the front of a text, and a point with the digits behind it. -/
def body (s : List Char) : List Char :=
  s.takeWhile Char.isDigit ++ takeFraction (s.dropWhile Char.isDigit)

theorem isPrefix_body (s : List Char) :
  body s <+: s
  := by
  have h := (List.prefix_append_right_inj (s.takeWhile Char.isDigit)).mpr
    (isPrefix_takeFraction (s.dropWhile Char.isDigit))
  rwa [List.takeWhile_append_dropWhile] at h

theorem body_digits {ds : List Char} (hdigits : ∀ c ∈ ds, c.isDigit) (t : List Char) :
  body (ds ++ t) = ds ++ body t
  := by
  rw [body, List.takeWhile_append_of_pos hdigits, List.dropWhile_append_of_pos hdigits, body,
    List.append_assoc]

theorem body_point (t : List Char) :
  body ('.' :: t) = '.' :: t.takeWhile Char.isDigit
  := rfl

/-- A numeral without a digit is not found, and otherwise the exponent follows the digits. -/
theorem longest?_eq {s sign r : List Char} (hsplit : takeSign s = (sign, r))
    (hword : infinityWord.isPrefixOf r = false) :
  longest? s = if (body r).any Char.isDigit
    then some (sign ++ body r ++ takeExponent (r.drop (body r).length)) else none
  := by
  have hfraction : ((takeFraction (r.dropWhile Char.isDigit)).any Char.isDigit)
      = !decide ((takeFraction (r.dropWhile Char.isDigit)).length ≤ 1) := by
    obtain hnone | ⟨fs, hpoint, hfs⟩ := takeFraction_eq_or (r.dropWhile Char.isDigit)
    · rw [hnone]
      rfl
    · rw [hpoint, List.any_cons, any_isDigit hfs]
      cases fs <;> rfl
  have hdigits : (body r).any Char.isDigit = !((r.takeWhile Char.isDigit).isEmpty
      && decide ((takeFraction (r.dropWhile Char.isDigit)).length ≤ 1)) := by
    rw [body, List.any_append, any_isDigit (isDigit_of_mem_takeWhile r), hfraction, Bool.not_and]
  rw [hdigits, longest?, hsplit]
  simp only [hword, Bool.false_eq_true, if_false]
  cases (r.takeWhile Char.isDigit).isEmpty
    && decide ((takeFraction (r.dropWhile Char.isDigit)).length ≤ 1) <;> rfl

/-- The digits and the point at the front of a text are a mantissa if there is a digit. -/
theorem isMantissa_body {s : List Char} (h : (body s).any Char.isDigit = true) :
  ∃ whole fraction, IsMantissa (body s) whole fraction
  := by
  have hwhole := isDigit_of_mem_takeWhile s
  rw [body] at h ⊢
  obtain hnone | ⟨fs, hpoint, hfs⟩ := takeFraction_eq_or (s.dropWhile Char.isDigit)
  · rw [hnone, List.append_nil] at h ⊢
    exact ⟨_, _, .whole ((isDigits_iff hwhole).mpr h)⟩
  · rw [hpoint] at h ⊢
    cases hempty : s.takeWhile Char.isDigit with
    | nil =>
      rw [hempty, List.nil_append, List.any_cons] at h
      exact ⟨_, _, .fraction ((isDigits_iff hfs).mpr h)⟩
    | cons d ds =>
      rw [hempty] at hwhole
      exact ⟨_, _, .point ⟨List.cons_ne_nil d ds, hwhole⟩ hfs⟩

namespace IsMantissa

variable {m whole fraction t : List Char} (hm : IsMantissa m whole fraction)

include hm

/-- A mantissa is digits alone, or its digits stand around a point. -/
theorem eq_or :
  (∀ c ∈ whole, c.isDigit) ∧ (∀ c ∈ fraction, c.isDigit)
    ∧ (m = whole ∧ fraction = [] ∨ m = whole ++ '.' :: fraction)
  := by
  cases hm with
  | whole h => exact ⟨h.isDigit, by simp, .inl ⟨rfl, rfl⟩⟩
  | point hds hfs => exact ⟨hds.isDigit, hfs, .inr rfl⟩
  | fraction h => exact ⟨by simp, h.isDigit, .inr rfl⟩

theorem exists_eq_cons :
  ∃ c r, m = c :: r ∧ (c.isDigit ∨ c = '.')
  := by
  cases hm with
  | whole h | point h =>
    obtain ⟨d, r, rfl⟩ := List.exists_cons_of_ne_nil h.ne_nil
    exact ⟨d, _, rfl, .inl (h.isDigit d List.mem_cons_self)⟩
  | fraction h => exact ⟨'.', _, rfl, .inr rfl⟩

theorem any_isDigit :
  m.any Char.isDigit = true
  := by
  have hany : ∀ {ds : List Char}, IsDigits ds → ds.any Char.isDigit = true :=
    fun hds => (isDigits_iff hds.isDigit).mp hds
  cases hm with
  | whole h => exact hany h
  | point h => rw [List.any_append, hany h, Bool.true_or]
  | fraction h => rw [List.any_cons, hany h, Bool.or_true]

/-- A mantissa at the front of a text is part of the digits there. -/
theorem prefix_body (t : List Char) :
  m <+: body (m ++ t)
  := by
  obtain ⟨hwhole, hfraction, ⟨rfl, -⟩ | rfl⟩ := hm.eq_or
  · rw [body_digits hwhole]
    apply List.prefix_append
  · rw [List.append_assoc, body_digits hwhole, List.cons_append, body_point,
      List.takeWhile_append_of_pos hfraction, ← List.cons_append, ← List.append_assoc]
    apply List.prefix_append

/-- A mantissa is taken apart before what does not continue it. -/
theorem exists_part (ht : Ends m t) :
  ∃ part, m = whole ++ part ∧ fraction = part.drop 1
    ∧ (m ++ t).takeWhile Char.isDigit = whole ∧ (m ++ t).dropWhile Char.isDigit = part ++ t
    ∧ takeFraction (part ++ t) = part
  := by
  have hends : ∀ c ∈ t.head?, ¬ c.isDigit := fun c hc => (ht c hc).1
  obtain ⟨hwhole, hfraction, ⟨rfl, rfl⟩ | rfl⟩ := hm.eq_or
  · refine ⟨[], (List.append_nil _).symm, rfl, takeWhile_digits hends hwhole,
      dropWhile_digits hends hwhole, ?_⟩
    fun_cases takeFraction t with
    | case1 t =>
      have hpoint := hwhole _ ((ht '.' rfl).2 rfl)
      cases hpoint
    | case2 => rfl
  · have hpoint : ∀ c ∈ ('.' :: fraction ++ t).head?, ¬ c.isDigit := by
      rintro c ⟨⟩
      exact Bool.false_ne_true
    refine ⟨'.' :: fraction, rfl, rfl, ?_, ?_, ?_⟩
    · rw [List.append_assoc, takeWhile_digits hpoint hwhole]
    · rw [List.append_assoc, dropWhile_digits hpoint hwhole]
    · rw [List.cons_append, takeFraction, takeWhile_digits hends hfraction]

theorem isPrefixOf_infinityWord (t : List Char) :
  infinityWord.isPrefixOf (m ++ t) = false
  := by
  obtain ⟨c, r, rfl, hc⟩ := hm.exists_eq_cons
  have hne : ('I' == c) = false := by
    rw [beq_eq_false_iff_ne]
    rintro rfl
    simp at hc
  have hword : infinityWord = 'I' :: "nfinity".toList := rfl
  rw [hword, List.cons_append, List.isPrefixOf, hne, Bool.false_and]

section

variable {sign : List Char} {negative : Bool} (hsign : IsSign sign negative)

include hsign

theorem takeSign_append (t : List Char) :
  takeSign (sign ++ (m ++ t)) = (sign, m ++ t)
  := by
  obtain ⟨c, r, rfl, hc⟩ := hm.exists_eq_cons
  apply hsign.takeSign_append
  · rintro rfl
    simp at hc
  · rintro rfl
    simp at hc

/-- The digits at the front of a text are found if a mantissa is among them. -/
theorem longest?_append (t : List Char) :
  longest? (sign ++ (m ++ t))
    = some (sign ++ body (m ++ t) ++ takeExponent ((m ++ t).drop (body (m ++ t)).length))
  := by
  obtain ⟨r, hr⟩ := hm.prefix_body t
  have hany : (body (m ++ t)).any Char.isDigit = true := by
    rw [← hr, List.any_append, hm.any_isDigit, Bool.true_or]
  rw [longest?_eq (hm.takeSign_append hsign t) (hm.isPrefixOf_infinityWord t), if_pos hany]

/-- A mantissa is taken by itself before what does not continue it. -/
theorem longest?_of_ends (ht : Ends m t) :
  longest? (sign ++ (m ++ t)) = some (sign ++ (m ++ takeExponent t))
  := by
  obtain ⟨part, hsplit, -, hwhole, hrest, htake⟩ := hm.exists_part ht
  have hbody : body (m ++ t) = m := by
    rw [body, hwhole, hrest, htake, hsplit]
  rw [hm.longest?_append hsign, hbody, List.drop_left, List.append_assoc]

/-- The value of a numeral is made of what its parts write. -/
theorem value_append {x : List Char} {k : Int} (hx : IsExponent x k) :
  value (sign ++ (m ++ x))
    = if negative then -nearest (digitsValue (whole ++ fraction)) (k - fraction.length)
      else nearest (digitsValue (whole ++ fraction)) (k - fraction.length)
  := by
  have hends : Ends m x := by
    have h := hx.ends_append (m := m) (t := []) (by rintro - c ⟨⟩)
    rwa [List.append_nil] at h
  have hword : infinityWord.isPrefixOf (m ++ x) = false := hm.isPrefixOf_infinityWord x
  obtain ⟨part, -, rfl, hwhole, hrest, htake⟩ := hm.exists_part hends
  rw [value, hm.takeSign_append hsign]
  simp only [hword, Bool.false_eq_true, if_false, hwhole, hrest, htake, List.drop_left,
    hx.exponentValue_eq, hsign.eq_minus_iff]

end

/-- A mantissa is a numeral by itself, with a sign or without one. -/
theorem writes (negative : Bool) :
  Writes ((if negative then ['-'] else []) ++ m)
    (if negative then -nearest (digitsValue (whole ++ fraction)) (-(fraction.length : Int))
      else nearest (digitsValue (whole ++ fraction)) (-(fraction.length : Int)))
  := by
  have h := Writes.decimal (isSign_ite negative) hm .none
  rwa [List.append_nil, zero_sub] at h

end IsMantissa

/-! ### Numerals -/

/-- What is found is a numeral at the front of the text. -/
theorem exists_writes_of_longest? {s p : List Char} (h : longest? s = some p) :
  p <+: s ∧ ∃ x, Writes p x
  := by
  obtain ⟨sign, negative, r, hsign, hsplit, rfl⟩ := exists_isSign_takeSign s
  cases hword : infinityWord.isPrefixOf r with
  | true =>
    obtain ⟨t, rfl⟩ := List.isPrefixOf_iff_prefix.mp hword
    rw [hsign.longest?_infinity] at h
    obtain rfl := Option.some.inj h
    constructor
    · rw [← List.append_assoc]
      apply List.prefix_append
    · exact ⟨_, .infinity hsign⟩
  | false =>
    rw [longest?_eq hsplit hword] at h
    split at h
    · next hany =>
      obtain rfl := Option.some.inj h
      obtain ⟨whole, fraction, hm⟩ := isMantissa_body hany
      obtain ⟨⟨k, hx⟩, hfront⟩ := isExponent_takeExponent (r.drop (body r).length)
      have hr := List.prefix_iff_eq_append.mp (isPrefix_body r)
      rw [List.append_assoc]
      constructor
      · have h := (List.prefix_append_right_inj (body r)).mpr hfront
        rw [hr] at h
        rwa [List.prefix_append_right_inj]
      · exact ⟨_, .decimal hsign hm hx⟩
    · contradiction

namespace Writes

variable {p t : List Char} {x : Float} (h : Writes p x)

include h

/-- The value of a numeral is what it writes. -/
theorem value_eq :
  value p = x
  := by
  cases h with
  | @infinity sign negative hsign =>
    have hsplit : takeSign (sign ++ infinityWord) = (sign, infinityWord) :=
      hsign.takeSign_append (by decide) (by decide) _
    have hword : infinityWord.isPrefixOf infinityWord = true := by decide
    change value (sign ++ infinityWord) = _
    rw [value, hsplit]
    simp only [hword, if_true, hsign.eq_minus_iff]
  | decimal hsign hm hx => apply hm.value_append hsign hx

/-- A numeral at the front of a text is found, or a longer one. -/
theorem exists_longest?_append (t : List Char) :
  ∃ q, longest? (p ++ t) = some q ∧ p <+: q
  := by
  cases h with
  | @infinity sign negative hsign =>
    use sign ++ infinityWord
    rw [List.append_assoc]
    exact ⟨hsign.longest?_infinity t, List.prefix_rfl⟩
  | @decimal sign m whole fraction x negative k hsign hm hx =>
    rw [List.append_assoc, List.append_assoc]
    obtain rfl | hne := eq_or_ne x []
    · refine ⟨_, hm.longest?_append hsign t, ?_⟩
      rw [List.append_nil, List.append_assoc, List.prefix_append_right_inj]
      exact (hm.prefix_body t).trans (List.prefix_append _ _)
    · have hends : Ends m (x ++ t) := hx.ends_append fun hnil => absurd hnil hne
      refine ⟨_, hm.longest?_of_ends hsign hends, ?_⟩
      rw [List.prefix_append_right_inj, List.prefix_append_right_inj]
      apply hx.prefix_takeExponent

/-- A numeral is found before what does not continue it: neither a digit, nor a first point, nor a
complete exponent. -/
theorem longest?_append (hends : Ends p t) (hnone : ∀ y k, IsExponent y k → y <+: t → y = []) :
  longest? (p ++ t) = some p
  := by
  cases h with
  | @infinity sign negative hsign =>
    rw [List.append_assoc]
    apply hsign.longest?_infinity
  | @decimal sign m whole fraction x negative k hsign hm hx =>
    have hpoint : '.' ∉ sign := by
      cases hsign <;> decide
    have hends' : Ends m (x ++ t) := by
      apply hx.ends_append
      rintro rfl c hc
      simpa [hpoint] using hends c hc
    rw [List.append_assoc, List.append_assoc, hm.longest?_of_ends hsign hends',
      hx.takeExponent_eq (fun c hc => (hends c hc).1) hnone]

theorem longest?_eq_self :
  longest? p = some p
  := by
  have hfound := h.longest?_append (t := []) (by rintro c ⟨⟩) fun y k _ => List.prefix_nil.mp
  rwa [List.append_nil] at hfound

/-- A numeral does not begin with a blank. -/
theorem trimStart_append (t : List Char) :
  Text.trimStart (p ++ t) = p ++ t
  := by
  obtain ⟨c, r, rfl, hc⟩ : ∃ c r, p = c :: r ∧ Text.isBlank c = false := by
    cases h with
    | infinity hsign => cases hsign <;> exact ⟨_, _, rfl, rfl⟩
    | decimal hsign hm hx =>
      cases hsign with
      | none =>
        obtain ⟨c, r, rfl, hdigit | rfl⟩ := hm.exists_eq_cons
        · exact ⟨c, _, rfl, not_isBlank_of_isDigit hdigit⟩
        · exact ⟨_, _, rfl, rfl⟩
      | plus | minus => exact ⟨_, _, rfl, rfl⟩
  rw [List.cons_append]
  apply List.dropWhile_cons_of_neg
  simp [hc]

/-- There is a number at the front of a text that begins with a numeral, whatever follows it. -/
theorem isSome_readFront?_append (t : List Char) :
  (readFront? (p ++ t)).isSome
  := by
  obtain ⟨q, hq, -⟩ := h.exists_longest?_append t
  rw [readFront?, h.trimStart_append, hq]
  rfl

theorem readFront?_eq_some :
  readFront? p = some x
  := by
  have htrim := h.trimStart_append []
  rw [List.append_nil] at htrim
  rw [readFront?, htrim, h.longest?_eq_self, Option.map_some, h.value_eq]

end Writes

/-! ### The front of a text -/

/-- The number at the front of a text, after blanks, is that of the longest numeral there, and it is
missing only if there is no numeral.  So a second point or an exponent without digits behind a
numeral leave its number. -/
theorem readFront?_eq_longest (s : List Char) :
  (readFront? s = none ↔ ∀ p x, p <+: Text.trimStart s → ¬ Writes p x)
    ∧ (∀ x, readFront? s = some x
      ↔ ∃ p, p <+: Text.trimStart s ∧ Writes p x
        ∧ ∀ q y, q <+: Text.trimStart s → Writes q y → q.length ≤ p.length)
    ∧ ∀ p x t, Text.trimStart s = p ++ t → Writes p x →
      (∀ c ∈ t.head?, ¬ c.isDigit ∧ (c = '.' → '.' ∈ p)) →
      (∀ y k, IsExponent y k → y <+: t → y = []) → readFront? s = some x
  := by
  have hread : readFront? s = (longest? (Text.trimStart s)).map value := rfl
  generalize Text.trimStart s = u at hread ⊢
  have hfound : ∀ p x, p <+: u → Writes p x → ∃ q, longest? u = some q ∧ p <+: q := by
    rintro p x ⟨t, ht⟩ h
    rw [← ht]
    apply h.exists_longest?_append
  refine ⟨?_, ?_, ?_⟩
  · rw [hread, Option.map_eq_none_iff]
    constructor
    · intro hnone p x hp h
      obtain ⟨q, hq, -⟩ := hfound p x hp h
      cases hnone.symm.trans hq
    · intro hnone
      rw [Option.eq_none_iff_forall_ne_some]
      intro p hp
      obtain ⟨hfront, x, h⟩ := exists_writes_of_longest? hp
      apply hnone p x hfront h
  · intro x
    rw [hread, Option.map_eq_some_iff]
    constructor
    · rintro ⟨p, hp, rfl⟩
      obtain ⟨hfront, x, h⟩ := exists_writes_of_longest? hp
      refine ⟨p, hfront, ?_, ?_⟩
      · rwa [h.value_eq]
      · intro q y hq hy
        obtain ⟨p', hp', hle⟩ := hfound q y hq hy
        obtain rfl := Option.some.inj (hp.symm.trans hp')
        apply hle.length_le
    · rintro ⟨p, hfront, h, hlongest⟩
      obtain ⟨q, hq, hle⟩ := hfound p x hfront h
      obtain ⟨hfront', y, hy⟩ := exists_writes_of_longest? hq
      obtain rfl := hle.eq_of_length_le (hlongest q y hfront' hy)
      exact ⟨p, hq, h.value_eq⟩
  · intro p x t ht h hends hnone
    rw [hread, ht, h.longest?_append hends hnone, Option.map_some, h.value_eq]

-- a second point and an exponent without digits are left behind
example : longest? "1.5.2".toList = some "1.5".toList ∧ longest? "-2e+x".toList = some "-2".toList
  := by decide

end FieldFormula.Decimal
