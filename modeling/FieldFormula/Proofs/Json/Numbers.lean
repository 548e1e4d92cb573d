import FieldFormula.Proofs.Decimal.Digits
import FieldFormula.Proofs.Json.Parts
import FieldFormula.Proofs.Json.Steps

/-!
# Numbers of JSON

A number is read off the front of a text in the same way whatever follows it, as long as that does
not continue the number.  So a number whose text is read as the number is also read inside of
longer texts.  Integers of 64 bits are always read back.

* `isLocal_readNumber`: a number is read without regard to what follows.
* `Number.ReadsBack`: the numbers that are read from their texts.
* `Number.ReadsBack.readsValue`: such a number is read at the front of a text.
* `is64Bit_of_readNumber`, `readsBack_integer`: the integers that are read are those of 64 bits.
-/

namespace FieldFormula.Json

/-! ### What follows a number -/

/-- What does not continue a number in front of it. -/
def EndsNumber (s : List Char) : Prop :=
  ∀ c ∈ s.head?, c.isDigit = false ∧ c ∉ ['.', 'e', 'E']

theorem endsNumber_nil :
  EndsNumber []
  := by
  rintro c ⟨⟩

theorem EndsNumber.not_isDigit {rest : List Char} (hrest : EndsNumber rest) :
  ∀ c ∈ rest.head?, ¬ c.isDigit
  := by
  intro c hc
  rw [(hrest c hc).1]
  exact Bool.false_ne_true

/-! ### Reading without regard to what follows -/

/-- A reader of numbers that takes characters off the front of a text, and that takes the same
characters before anything that does not continue the number. -/
def IsLocal (read : List Char → Except Failure (Number × List Char)) : Prop :=
  ∀ s n r, read s = .ok (n, r) →
    r <:+ s ∧ ∀ rest, EndsNumber rest → read (s ++ rest) = .ok (n, r ++ rest)

/-- A reader that fails. -/
theorem isLocal_error {f : List Char → Failure} :
  IsLocal fun s => .error (f s)
  := by
  rintro s n r ⟨⟩

/-- A reader that takes nothing. -/
theorem isLocal_ok (m : Number) :
  IsLocal fun s => .ok (m, s)
  := by
  intro s n r h
  obtain ⟨rfl, rfl⟩ := Prod.mk.inj (Except.ok.inj h)
  use List.suffix_refl s
  intro rest _
  rfl

theorem isLocal_floatOfParts (negative : Bool) (significand : Nat) (e : Int) :
  IsLocal (floatOfParts negative significand e)
  := by
  intro s n r h
  rw [floatOfParts] at h
  split at h
  · cases h
  · next f hf =>
    obtain ⟨rfl, rfl⟩ := Prod.mk.inj (Except.ok.inj h)
    use List.suffix_refl s
    intro rest _
    rw [floatOfParts, hf]

/-- A reader of what follows the digits at the front, which it knows. -/
theorem IsLocal.dropWhile {read : List Char → List Char → Except Failure (Number × List Char)}
    (h : ∀ ds, IsLocal (read ds)) :
  IsLocal fun s => read (s.takeWhile Char.isDigit) (s.dropWhile Char.isDigit)
  := by
  intro s n r hread
  obtain ⟨hsuffix, hlocal⟩ := h _ _ _ _ hread
  use hsuffix.trans (List.dropWhile_suffix _)
  intro rest hrest
  dsimp only
  rw [Decimal.takeWhile_isDigit_append hrest.not_isDigit,
    Decimal.dropWhile_isDigit_append hrest.not_isDigit, hlocal rest hrest]

/-- Whether a text begins with one of several marks. -/
def beginsWith (marks : List Char) : List Char → Bool
  | [] => false
  | c :: _ => marks.contains c

/-- A reader that goes one of two ways by a mark at the front. -/
theorem IsLocal.ite {marks : List Char} (hmarks : marks ⊆ ['.', 'e', 'E'])
    {read read' : List Char → Except Failure (Number × List Char)} (h : IsLocal read)
    (h' : IsLocal read') :
  IsLocal fun s => if beginsWith marks s then read s.tail else read' s
  := by
  intro s n r hread
  dsimp only at hread ⊢
  cases s with
  | nil =>
    obtain ⟨hsuffix, hlocal⟩ := h' _ _ _ hread
    use hsuffix
    intro rest hrest
    have hends : beginsWith marks rest = false := by
      cases rest with
      | nil => rfl
      | cons c rest => simpa [beginsWith] using mt (@hmarks c) (hrest c rfl).2
    rw [List.nil_append, hends]
    apply hlocal rest hrest
  | cons c s =>
    have hcons : ∀ t, beginsWith marks (c :: t) = marks.contains c := fun _ => rfl
    rw [hcons] at hread
    by_cases hmark : marks.contains c = true
    · rw [if_pos hmark] at hread
      obtain ⟨hsuffix, hlocal⟩ := h _ _ _ hread
      use hsuffix.trans (List.suffix_cons c s)
      intro rest hrest
      rw [List.cons_append, hcons, if_pos hmark]
      apply hlocal rest hrest
    · rw [if_neg hmark] at hread
      obtain ⟨hsuffix, hlocal⟩ := h' _ _ _ hread
      use hsuffix
      intro rest hrest
      rw [List.cons_append, hcons, if_neg hmark]
      apply hlocal rest hrest

theorem beginsWith_eq_false {marks s : List Char}
    (h : ∀ d ∈ marks, ∀ r, s = d :: r → False) :
  beginsWith marks s = false
  := by
  cases s with
  | nil => rfl
  | cons c s =>
    have hmem : c ∉ marks := fun hc => h c hc s rfl
    simpa [beginsWith] using hmem

section

variable {read exponent : List Char → Except Failure (Number × List Char)}
  (hexponent : IsLocal exponent) (h : IsLocal read)

include hexponent h

theorem IsLocal.matchExponent :
  IsLocal fun s => match s with
    | 'e' :: r | 'E' :: r => exponent r
    | _ => read s
  := by
  have hite := IsLocal.ite (show ['e', 'E'] ⊆ ['.', 'e', 'E'] by simp) hexponent h
  convert hite using 2 with s
  split
  · rfl
  · rfl
  · next he hE =>
    rw [beginsWith_eq_false (by simpa using ⟨he, hE⟩)]
    rfl

theorem IsLocal.matchMark {fraction : List Char → Except Failure (Number × List Char)}
    (hfraction : IsLocal fraction) :
  IsLocal fun s => match s with
    | '.' :: r => fraction r
    | 'e' :: r | 'E' :: r => exponent r
    | _ => read s
  := by
  have hmark : ['.'] ⊆ ['.', 'e', 'E'] := by simp
  have hite := IsLocal.ite hmark hfraction (hexponent.matchExponent h)
  convert hite using 2 with s
  split
  · rfl
  · rfl
  · rfl
  · next hpoint he hE =>
    rw [beginsWith_eq_false (by simpa using hpoint), if_neg Bool.false_ne_true]
    split
    · cases he _ rfl
    · cases hE _ rfl
    · rfl

end

/-! ### The parts of a number -/

section

variable (negative : Bool) (significand : Nat) (e : Int)

/-- The number whose exponent comes next, after its sign. -/
def readExponentDigits (minus : Bool) (s : List Char) : Except Failure (Number × List Char) :=
  match s with
  | [] => failAt .endInValue []
  | c :: r =>
    if !c.isDigit then failBehind .number (c :: r)
    else
      let rest := (c :: r).dropWhile Char.isDigit
      match takeExponentDigits 0 ((c :: r).takeWhile Char.isDigit) with
      | (n, []) => floatOfParts negative significand (if minus then e - n else e + n) rest
      | (_, _ :: ds) =>
        if significand ≠ 0 ∧ !minus then failAt .numberRange (ds ++ rest)
        else .ok (.float (if negative then -0.0 else 0.0), rest)

theorem readExponent_of_ne {c : Char} (hplus : c ≠ '+') (hminus : c ≠ '-') (s : List Char) :
  readExponent negative significand e (c :: s)
    = readExponentDigits negative significand e false (c :: s)
  := by
  unfold readExponent
  split
  next heq =>
    split at heq
    · next hcons => cases hplus (List.cons.inj hcons).1
    · next hcons => cases hminus (List.cons.inj hcons).1
    · obtain ⟨rfl, rfl⟩ := Prod.mk.inj heq
      rfl

/-- The number whose exponent is given by the digits at the front. -/
theorem isLocal_afterExponent (minus : Bool) (ds : List Char) :
  IsLocal fun rest => match takeExponentDigits 0 ds with
    | (n, []) => floatOfParts negative significand (if minus then e - n else e + n) rest
    | (_, _ :: ds) =>
      if significand ≠ 0 ∧ !minus then failAt .numberRange (ds ++ rest)
      else .ok (.float (if negative then -0.0 else 0.0), rest)
  := by
  split
  · apply isLocal_floatOfParts
  · split
    · apply isLocal_error
    · apply isLocal_ok

theorem isLocal_readExponentDigits (minus : Bool) :
  IsLocal (readExponentDigits negative significand e minus)
  := by
  intro s n r h
  cases s with
  | nil => cases h
  | cons c s =>
    cases hdigit : c.isDigit with
    | false => simp [readExponentDigits, hdigit, failBehind] at h
    | true =>
      have hcons : ∀ t, readExponentDigits negative significand e minus (c :: t) = _ :=
        fun t => if_neg (by simp [hdigit])
      rw [hcons] at h
      obtain ⟨hsuffix, hlocal⟩ := IsLocal.dropWhile
        (isLocal_afterExponent negative significand e minus) _ _ _ h
      use hsuffix
      intro rest hrest
      rw [List.cons_append, hcons]
      apply hlocal rest hrest

theorem isLocal_readExponent :
  IsLocal (readExponent negative significand e)
  := by
  intro s n r h
  cases s with
  | nil => cases h
  | cons c s =>
    by_cases hplus : c = '+'
    · subst hplus
      obtain ⟨hsuffix, hlocal⟩ := isLocal_readExponentDigits negative significand e false _ _ _ h
      use hsuffix.trans (List.suffix_cons _ s), hlocal
    · by_cases hminus : c = '-'
      · subst hminus
        obtain ⟨hsuffix, hlocal⟩ := isLocal_readExponentDigits negative significand e true _ _ _ h
        use hsuffix.trans (List.suffix_cons _ s), hlocal
      · rw [readExponent_of_ne _ _ _ hplus hminus] at h
        obtain ⟨hsuffix, hlocal⟩ := isLocal_readExponentDigits negative significand e false _ _ _ h
        use hsuffix
        intro rest hrest
        rw [List.cons_append, readExponent_of_ne _ _ _ hplus hminus]
        apply hlocal rest hrest

theorem isLocal_afterFraction :
  IsLocal fun s => match s with
    | 'e' :: r | 'E' :: r => readExponent negative significand e r
    | _ => floatOfParts negative significand e s
  := (isLocal_readExponent negative significand e).matchExponent
    (isLocal_floatOfParts negative significand e)

theorem isLocal_readFraction :
  IsLocal (readFraction negative significand e)
  := by
  have hdigits : ∀ t : List Char, (t.takeWhile Char.isDigit).isEmpty = false →
      readFraction negative significand e t = _ := fun t ht => if_neg (by simp [ht])
  intro s n r h
  cases hempty : (s.takeWhile Char.isDigit).isEmpty with
  | true =>
    rw [readFraction, if_pos hempty] at h
    cases h
  | false =>
    rw [hdigits s hempty] at h
    obtain ⟨hsuffix, hlocal⟩ := IsLocal.dropWhile (fun ds =>
      isLocal_afterFraction negative (takeDigits significand ds).1
        (e - (ds.length - (takeDigits significand ds).2.length : Nat))) s n r h
    use hsuffix
    intro rest hrest
    rw [hdigits _ (by rwa [Decimal.takeWhile_isDigit_append hrest.not_isDigit])]
    apply hlocal rest hrest

theorem isLocal_finishNumber :
  IsLocal (finishNumber negative significand)
  := by
  have hinteger : IsLocal fun s => if !negative then .ok (.integer significand, s)
      else if significand = 0 ∨ Nat.pow 2 63 < significand then
        .ok (.float (-Float.ofNat significand), s)
      else .ok (.integer (-significand), s) := by
    split
    · apply isLocal_ok
    · split <;> apply isLocal_ok
  exact (isLocal_readExponent negative significand 0).matchMark hinteger
    (isLocal_readFraction negative significand 0)

theorem isLocal_finishLongNumber (left : Nat) :
  IsLocal (finishLongNumber negative significand left)
  := (isLocal_readExponent negative significand left).matchMark
    (isLocal_floatOfParts negative significand left)
    (isLocal_readFraction negative significand left)

theorem isLocal_afterDigits (ds : List Char) :
  IsLocal fun rest => match takeDigits 0 ds with
    | (n, []) => finishNumber negative n rest
    | (n, left) => finishLongNumber negative n left.length rest
  := by
  split
  · apply isLocal_finishNumber
  · apply isLocal_finishLongNumber

theorem readNumber_zero {s : List Char} (hs : s.head?.any Char.isDigit = false) :
  readNumber negative ('0' :: s) = finishNumber negative 0 s
  := by
  rw [readNumber, if_neg (by simp [hs])]

theorem readNumber_of_isDigit {c : Char} (hzero : c ≠ '0') (hdigit : c.isDigit) (s : List Char) :
  readNumber negative (c :: s)
    = match takeDigits 0 ((c :: s).takeWhile Char.isDigit) with
      | (n, []) => finishNumber negative n ((c :: s).dropWhile Char.isDigit)
      | (n, left) => finishLongNumber negative n left.length ((c :: s).dropWhile Char.isDigit)
  := (readNumber.eq_3 negative c s hzero).trans (if_neg (by simp [hdigit]))

/-- A number is read without regard to what follows. -/
theorem isLocal_readNumber :
  IsLocal (readNumber negative)
  := by
  intro s n r h
  cases s with
  | nil => cases h
  | cons c s =>
    by_cases hzero : c = '0'
    · subst hzero
      cases hdigit : s.head?.any Char.isDigit with
      | true =>
        rw [readNumber, if_pos hdigit] at h
        cases h
      | false =>
        rw [readNumber_zero negative hdigit] at h
        obtain ⟨hsuffix, hlocal⟩ := isLocal_finishNumber negative 0 s n r h
        use hsuffix.trans (List.suffix_cons _ s)
        intro rest hrest
        have hdigit' : (s ++ rest).head?.any Char.isDigit = false := by
          cases s with
          | nil =>
            rw [List.nil_append, Option.any_eq_false]
            intro d hd
            simp [(hrest d hd).1]
          | cons d s => exact hdigit
        rw [List.cons_append, readNumber_zero negative hdigit']
        apply hlocal rest hrest
    · cases hdigit : c.isDigit with
      | false =>
        rw [readNumber.eq_3 negative c s hzero, if_pos (by simp [hdigit])] at h
        cases h
      | true =>
        rw [readNumber_of_isDigit negative hzero hdigit] at h
        obtain ⟨hsuffix, hlocal⟩ := IsLocal.dropWhile (isLocal_afterDigits negative) _ n r h
        use hsuffix
        intro rest hrest
        rw [List.cons_append, readNumber_of_isDigit negative hzero hdigit]
        apply hlocal rest hrest

end

/-! ### Numbers that are read back -/

namespace Number

/-- The number is read from its text. -/
def ReadsBack (n : Number) : Prop :=
  ofText n.text = .ok (.number n)

theorem notMem_blanks (n : Number) :
  ∀ c ∈ n.text, c ∉ blanks
  := by
  have hdigit : ∀ c : Char, c.isDigit → c ∉ blanks := fun c hc => notMem_blanks_of_isDigit hc
  cases n with
  | integer k =>
    rw [text, List.forall_mem_append]
    constructor
    · split <;> simp [blanks]
    · intro c hc
      apply hdigit c (Decimal.isDigit_of_mem_toDigits hc)
  | float x =>
    apply Decimal.Layout.forall_mem_render hdigit <;> simp [blanks, layout]

/-- A number is read back if its text is read after a hyphen or from its first digit on. -/
theorem readsBack_iff {n : Number} :
  n.ReadsBack ↔ (∃ s, n.text = '-' :: s ∧ readNumber true s = .ok (n, []))
    ∨ ∃ c s, n.text = c :: s ∧ c.isDigit ∧ readNumber false (c :: s) = .ok (n, [])
  := by
  have hskip : ∀ s, s <:+ n.text → skipBlanks s = s := by
    intro s hs
    apply skipBlanks_eq_self
    intro c hc
    apply n.notMem_blanks c (hs.mem (List.mem_of_mem_head? hc))
  rw [ReadsBack, ofText_eq_ok_iff]
  simp only [readValue_eq_ok_iff, hskip n.text List.suffix_rfl]
  constructor
  · rintro ⟨r, hread, hblanks⟩
    have hnil : r <:+ n.text → r = [] := by
      intro hr
      rw [← hskip r hr, hblanks]
    generalize htext : n.text = t at hread hnil
    cases hread with
    | negative hnumber =>
      obtain rfl := hnil ((isLocal_readNumber true _ _ _ hnumber).1.trans (List.suffix_cons _ _))
      exact Or.inl ⟨_, rfl, hnumber⟩
    | digit hdigit hnumber =>
      obtain rfl := hnil (isLocal_readNumber false _ _ _ hnumber).1
      exact Or.inr ⟨_, _, rfl, hdigit, hnumber⟩
  · rintro (⟨s, htext, hread⟩ | ⟨c, s, htext, hdigit, hread⟩)
    · rw [htext]
      use [], .negative hread
      rfl
    · rw [htext]
      use [], .digit hdigit hread
      rfl

/-- A number that is read back is read at the front of a text. -/
theorem ReadsBack.readsValue {n : Number} (h : n.ReadsBack) :
  ∃ c s, n.text = c :: s ∧ c ∉ blanks ∧ c ≠ ']'
    ∧ ∀ depth fuel rest, EndsNumber rest →
      ReadsValue depth fuel (c :: (s ++ rest)) (.number n) rest
  := by
  obtain ⟨s, htext, hread⟩ | ⟨c, s, htext, hdigit, hread⟩ := readsBack_iff.mp h
  · refine ⟨_, _, htext, by decide, by decide, ?_⟩
    intro depth fuel rest hrest
    apply ReadsValue.negative
    apply (isLocal_readNumber true _ _ _ hread).2 rest hrest
  · refine ⟨_, _, htext, notMem_blanks_of_isDigit hdigit, ?_, ?_⟩
    · rintro rfl
      contradiction
    · intro depth fuel rest hrest
      apply ReadsValue.digit hdigit
      apply (isLocal_readNumber false _ _ _ hread).2 rest hrest

end Number

/-! ### Integers -/

theorem le_foldl_digit (ds : List Char) (n : Nat) :
  n ≤ ds.foldl (fun n d => 10 * n + (d.toNat - '0'.toNat)) n
  := by
  induction ds generalizing n with
  | nil => apply le_rfl
  | cons d ds ih =>
    rw [List.foldl_cons]
    apply le_trans _ (ih _)
    omega

theorem takeDigits_of_lt {ds : List Char} {n : Nat}
    (h : ds.foldl (fun n d => 10 * n + (d.toNat - '0'.toNat)) n < significandLimit) :
  takeDigits n ds = (ds.foldl (fun n d => 10 * n + (d.toNat - '0'.toNat)) n, [])
  := by
  induction ds generalizing n with
  | nil => rfl
  | cons d ds ih =>
    rw [takeDigits, if_pos ((le_foldl_digit ds _).trans_lt h)]
    apply ih h

theorem takeDigits_lt (ds : List Char) {n : Nat} (h : n < significandLimit) :
  (takeDigits n ds).1 < significandLimit
  := by
  induction ds generalizing n with
  | nil => exact h
  | cons d ds ih =>
    rw [takeDigits]
    split
    · next hlt => apply ih hlt
    · exact h

/-- The digits of a number below the limit are read as the significand. -/
theorem readNumber_toDigits (negative : Bool) {n : Nat} (hn : n < significandLimit) :
  readNumber negative (Nat.toDigits 10 n) = finishNumber negative n []
  := by
  obtain rfl | hpos := Nat.eq_zero_or_pos n
  · rfl
  · obtain ⟨d, ds, hds, hdigit, hdigits⟩ := Decimal.exists_toDigits_eq_cons n
    have hzero : d ≠ '0' := by
      rintro rfl
      apply Decimal.head?_toDigits hpos
      rw [hds, List.head?_cons]
    have hall : ∀ c ∈ d :: ds, c.isDigit := List.forall_mem_cons.mpr ⟨hdigit, hdigits⟩
    have hvalue := Decimal.digitsValue_toDigits n
    rw [hds] at hvalue
    have htake : takeDigits 0 (d :: ds) = (n, []) := by
      rw [← hvalue] at hn
      rw [takeDigits_of_lt hn, ← hvalue]
      rfl
    rw [hds, readNumber_of_isDigit negative hzero hdigit, List.takeWhile_eq_self_iff.mpr hall,
      List.dropWhile_eq_nil_iff.mpr hall, htake]

section

variable {negative : Bool} {significand : Nat} {e k : Int} {s r : List Char}

theorem floatOfParts_ne_integer :
  floatOfParts negative significand e s ≠ .ok (.integer k, r)
  := by
  rw [floatOfParts]
  split <;> rintro ⟨⟩

/-- A number with an exponent is no integer. -/
theorem readExponent_ne_integer :
  readExponent negative significand e s ≠ .ok (.integer k, r)
  := by
  have hdigits : ∀ minus t, readExponentDigits negative significand e minus t
      ≠ .ok (.integer k, r) := by
    intro minus t
    unfold readExponentDigits
    split
    · rintro ⟨⟩
    · split
      · rintro ⟨⟩
      · dsimp only
        split
        · apply floatOfParts_ne_integer
        · split <;> rintro ⟨⟩
  cases s with
  | nil => rintro ⟨⟩
  | cons c s =>
    by_cases hplus : c = '+'
    · subst hplus
      apply hdigits false s
    · by_cases hminus : c = '-'
      · subst hminus
        apply hdigits true s
      · rw [readExponent_of_ne _ _ _ hplus hminus]
        apply hdigits false

/-- A number with a fraction is no integer. -/
theorem readFraction_ne_integer :
  readFraction negative significand e s ≠ .ok (.integer k, r)
  := by
  rw [readFraction]
  split
  · rintro ⟨⟩
  · dsimp only
    split
    · apply readExponent_ne_integer
    · apply readExponent_ne_integer
    · apply floatOfParts_ne_integer

theorem is64Bit_of_finishNumber (hn : significand < significandLimit)
    (h : finishNumber negative significand s = .ok (.integer k, r)) :
  Is64Bit k
  := by
  have hlimit : significandLimit = 2 ^ 64 := rfl
  rw [finishNumber.eq_def] at h
  split at h
  · cases readFraction_ne_integer h
  · cases readExponent_ne_integer h
  · cases readExponent_ne_integer h
  · split at h
    · obtain ⟨⟨⟩, -⟩ := ok_eq_ok_iff.mp h
      constructor <;> omega
    · split at h
      · cases h
      · next hrange =>
        obtain ⟨⟨⟩, -⟩ := ok_eq_ok_iff.mp h
        have hpow : Nat.pow 2 63 = 2 ^ 63 := rfl
        constructor <;> omega

theorem finishLongNumber_ne_integer {left : Nat} :
  finishLongNumber negative significand left s ≠ .ok (.integer k, r)
  := by
  rw [finishLongNumber.eq_def]
  split
  · apply readFraction_ne_integer
  · apply readExponent_ne_integer
  · apply readExponent_ne_integer
  · apply floatOfParts_ne_integer

/-- The integers that are read have 64 bits. -/
theorem is64Bit_of_readNumber (h : readNumber negative s = .ok (.integer k, r)) :
  Is64Bit k
  := by
  rw [readNumber.eq_def] at h
  dsimp only at h
  split at h
  · cases h
  · split at h
    · cases h
    · apply is64Bit_of_finishNumber _ h
      decide
  · next c s _ =>
    split at h
    · cases h
    · have hlt := takeDigits_lt ((c :: s).takeWhile Char.isDigit) (n := 0) (by decide)
      split at h
      · next n htake =>
        rw [htake] at hlt
        apply is64Bit_of_finishNumber hlt h
      · cases finishLongNumber_ne_integer h

end

theorem finishNumber_of_le {n : Nat} (hpos : 0 < n) (hle : n ≤ 2 ^ 63) :
  finishNumber true n [] = .ok (.integer (-n), [])
  := if_neg (by
    have hpow : Nat.pow 2 63 = 2 ^ 63 := rfl
    omega)

/-- Integers of 64 bits are read from their texts. -/
theorem readsBack_integer {k : Int} (h : Is64Bit k) :
  (Number.integer k).ReadsBack
  := by
  obtain ⟨hlow, hhigh⟩ := h
  have hlimit : significandLimit = 2 ^ 64 := rfl
  have hread := fun negative => readNumber_toDigits negative (n := k.natAbs) (by omega)
  rw [Number.readsBack_iff]
  by_cases hk : k < 0
  · left
    use Nat.toDigits 10 k.natAbs, by rw [Number.text, if_pos hk]; rfl
    rw [hread, finishNumber_of_le (by omega) (by omega)]
    congr
    omega
  · right
    obtain ⟨d, ds, hds, hdigit, -⟩ := Decimal.exists_toDigits_eq_cons k.natAbs
    have hnonneg : (k.natAbs : Int) = k := by omega
    use d, ds, by rw [Number.text, if_neg hk, List.nil_append, hds], hdigit
    rw [← hds, hread, ← hnonneg]
    rfl

end FieldFormula.Json
