import FieldFormula.Json.Reading
import Mathlib.Data.List.Basic
import Mathlib.Tactic.Use

/-!
# Steps of reading JSON

The first character behind blanks tells how a value goes on, and the items of an array and the
members of an object are read one after the other.  `ReadsValue`, `ReadsItems` and `ReadsMembers`
are the ways in which a step of reading succeeds.

* `readValue_eq_ok_iff`: the ways in which a value is read.
* `readItems_eq_ok_iff`, `readMembers_eq_ok_iff`: the ways in which items and members are read.
-/

namespace FieldFormula.Json

/-! ### Blanks -/

/-- The blanks of JSON. -/
def blanks : List Char := [' ', '\n', '\t', '\r']

theorem skipBlanks_cons {c : Char} (hc : c ∉ blanks) (s : List Char) :
  skipBlanks (c :: s) = c :: s
  := by
  simp only [blanks, List.mem_cons, List.not_mem_nil, or_false, not_or] at hc
  rw [skipBlanks, List.dropWhile_cons_of_neg]
  simp [hc]

theorem skipBlanks_eq_self {s : List Char} (hs : ∀ c ∈ s.head?, c ∉ blanks) :
  skipBlanks s = s
  := by
  cases s with
  | nil => rfl
  | cons c s => apply skipBlanks_cons (hs c rfl)

theorem notMem_blanks_of_isDigit {c : Char} (hc : c.isDigit) :
  c ∉ blanks
  := by
  intro hmem
  simp only [blanks, List.mem_cons, List.not_mem_nil, or_false] at hmem
  obtain rfl | rfl | rfl | rfl := hmem <;> contradiction

/-! ### Results of steps -/

section

variable {α β : Type} {x : Except Failure α}

theorem bind_eq_ok_iff {f : α → Except Failure β} {b : β} :
  (x >>= f) = .ok b ↔ ∃ a, x = .ok a ∧ f a = .ok b
  := by
  cases x <;> simp [bind, Except.bind]

theorem ok_eq_ok_iff {a b : α} {s r : List Char} :
  (.ok (a, s) : Except Failure (α × List Char)) = .ok (b, r) ↔ a = b ∧ s = r
  := by
  simp

end

theorem expectColon_eq_ok_iff {s r : List Char} :
  expectColon s = .ok r ↔ skipBlanks s = ':' :: r
  := by
  unfold expectColon
  split
  · next h => simp [h, failAt]
  · next h => simp [h]
  · next h =>
    constructor
    · rintro ⟨⟩
    · intro heq
      cases h r heq

/-! ### Values -/

/-- The ways in which a value is read off a text that does not begin with a blank. -/
inductive ReadsValue (depth fuel : Nat) : List Char → Json → List Char → Prop
  | null {s r : List Char} (h : expectWord "ull".toList s = .ok r) :
      ReadsValue depth fuel ('n' :: s) .null r
  | true {s r : List Char} (h : expectWord "rue".toList s = .ok r) :
      ReadsValue depth fuel ('t' :: s) (.bool true) r
  | false {s r : List Char} (h : expectWord "alse".toList s = .ok r) :
      ReadsValue depth fuel ('f' :: s) (.bool false) r
  | negative {n : Number} {s r : List Char} (h : readNumber true s = .ok (n, r)) :
      ReadsValue depth fuel ('-' :: s) (.number n) r
  | digit {c : Char} {n : Number} {s r : List Char} (hc : c.isDigit)
      (h : readNumber false (c :: s) = .ok (n, r)) :
      ReadsValue depth fuel (c :: s) (.number n) r
  | string {cs s r : List Char} (h : readString s.length s = .ok (cs, r)) :
      ReadsValue depth fuel ('"' :: s) (.string (String.ofList cs)) r
  | array {d : Nat} {items : List Json} {s r : List Char} (hd : depth = d + 1)
      (h : readItems d fuel true s = .ok (items, r)) :
      ReadsValue depth fuel ('[' :: s) (.array items) r
  | object {d : Nat} {pairs : List (String × Json)} {s r : List Char} (hd : depth = d + 1)
      (h : readMembers d fuel true s = .ok (pairs, r)) :
      ReadsValue depth fuel ('\x7b' :: s) (.object (ofPairs pairs)) r

section

variable {depth fuel : Nat}

theorem readValue_eq_ok_iff {s r : List Char} {v : Json} :
  readValue depth (fuel + 1) s = .ok (v, r) ↔ ReadsValue depth fuel (skipBlanks s) v r
  := by
  rw [readValue]
  constructor
  · intro h
    split at h
    · cases h
    · next s' heq =>
      obtain ⟨r', hword, h⟩ := bind_eq_ok_iff.mp h
      obtain ⟨rfl, rfl⟩ := ok_eq_ok_iff.mp h
      exact heq ▸ .null hword
    · next s' heq =>
      obtain ⟨r', hword, h⟩ := bind_eq_ok_iff.mp h
      obtain ⟨rfl, rfl⟩ := ok_eq_ok_iff.mp h
      exact heq ▸ .true hword
    · next s' heq =>
      obtain ⟨r', hword, h⟩ := bind_eq_ok_iff.mp h
      obtain ⟨rfl, rfl⟩ := ok_eq_ok_iff.mp h
      exact heq ▸ .false hword
    · next s' heq =>
      obtain ⟨⟨n, r'⟩, hnumber, h⟩ := bind_eq_ok_iff.mp h
      obtain ⟨rfl, rfl⟩ := ok_eq_ok_iff.mp h
      exact heq ▸ .negative hnumber
    · next s' heq =>
      obtain ⟨⟨cs, r'⟩, hstring, h⟩ := bind_eq_ok_iff.mp h
      obtain ⟨rfl, rfl⟩ := ok_eq_ok_iff.mp h
      exact heq ▸ .string hstring
    · next s' heq =>
      split at h
      · cases h
      · next hdepth =>
        obtain ⟨⟨items, r'⟩, hitems, h⟩ := bind_eq_ok_iff.mp h
        obtain ⟨rfl, rfl⟩ := ok_eq_ok_iff.mp h
        exact heq ▸ .array (Nat.succ_pred_eq_of_ne_zero hdepth).symm hitems
    · next s' heq =>
      split at h
      · cases h
      · next hdepth =>
        obtain ⟨⟨pairs, r'⟩, hpairs, h⟩ := bind_eq_ok_iff.mp h
        obtain ⟨rfl, rfl⟩ := ok_eq_ok_iff.mp h
        exact heq ▸ .object (Nat.succ_pred_eq_of_ne_zero hdepth).symm hpairs
    · next c s' _ _ _ _ _ _ _ heq =>
      split at h
      · next hdigit =>
        obtain ⟨⟨n, r'⟩, hnumber, h⟩ := bind_eq_ok_iff.mp h
        obtain ⟨rfl, rfl⟩ := ok_eq_ok_iff.mp h
        exact heq ▸ .digit hdigit hnumber
      · cases h
  · intro h
    generalize skipBlanks s = t at h
    cases h with
    | null h => simp only [h]; rfl
    | true h => simp only [h]; rfl
    | false h => simp only [h]; rfl
    | negative h => simp only [h]; rfl
    | string h => simp only [h]; rfl
    | array hd h => subst hd; simp only [Nat.add_sub_cancel, h]; rfl
    | object hd h => subst hd; simp only [Nat.add_sub_cancel, h]; rfl
    | digit hdigit h =>
      -- A digit is none of the other characters that a value begins with.
      split
      all_goals try next heq => cases heq <;> contradiction
      next heq =>
      obtain ⟨rfl, rfl⟩ := List.cons.inj heq
      rw [if_pos hdigit, h]
      rfl

/-! ### Items -/

/-- The ways in which items are read off a text that does not begin with a blank. -/
inductive ReadsItems (depth fuel : Nat) (isFirst : Bool) :
    List Char → List Json → List Char → Prop
  | close (s : List Char) : ReadsItems depth fuel isFirst (']' :: s) [] s
  | item {c : Char} {s start r r' : List Char} {v : Json} {vs : List Json} (hc : c ≠ ']')
      (hstart : itemStart isFirst (c :: s) = .ok start)
      (hv : readValue depth fuel start = .ok (v, r))
      (hvs : readItems depth fuel false r = .ok (vs, r')) :
      ReadsItems depth fuel isFirst (c :: s) (v :: vs) r'

theorem readItems_eq_ok_iff {isFirst : Bool} {s r : List Char} {vs : List Json} :
  readItems depth (fuel + 1) isFirst s = .ok (vs, r)
    ↔ ReadsItems depth fuel isFirst (skipBlanks s) vs r
  := by
  rw [readItems]
  generalize skipBlanks s = s
  cases s with
  | nil => constructor <;> rintro ⟨⟩
  | cons c s =>
    by_cases hc : c = ']'
    · subst hc
      apply ok_eq_ok_iff.trans
      constructor
      · rintro ⟨rfl, rfl⟩
        apply ReadsItems.close
      · rintro (_ | ⟨hc⟩)
        · exact ⟨rfl, rfl⟩
        · contradiction
    · have hhead : ¬ (c :: s).head? = some ']' := mt Option.some.inj hc
      simp only [List.isEmpty_cons, Bool.false_eq_true, if_false, if_neg hhead, bind_eq_ok_iff]
      constructor
      · rintro ⟨start, hstart, ⟨v, r'⟩, hv, ⟨vs, r''⟩, hvs, h⟩
        obtain ⟨rfl, rfl⟩ := ok_eq_ok_iff.mp h
        apply ReadsItems.item hc hstart hv hvs
      · rintro (_ | ⟨_, hstart, hv, hvs⟩)
        · contradiction
        · exact ⟨_, hstart, _, hv, _, hvs, rfl⟩

/-! ### Members -/

/-- The ways in which members are read off a text that does not begin with a blank. -/
inductive ReadsMembers (depth fuel : Nat) (isFirst : Bool) :
    List Char → List (String × Json) → List Char → Prop
  | close (s : List Char) : ReadsMembers depth fuel isFirst ('\x7d' :: s) [] s
  | member {c : Char} {s start key mid behind r r' : List Char} {v : Json}
      {ms : List (String × Json)} (hc : c ≠ '\x7d')
      (hstart : memberStart isFirst (c :: s) = .ok start)
      (hkey : readString start.length (start.drop 1) = .ok (key, mid))
      (hcolon : skipBlanks mid = ':' :: behind)
      (hv : readValue depth fuel behind = .ok (v, r))
      (hms : readMembers depth fuel false r = .ok (ms, r')) :
      ReadsMembers depth fuel isFirst (c :: s) ((String.ofList key, v) :: ms) r'

theorem readMembers_eq_ok_iff {isFirst : Bool} {s r : List Char} {ms : List (String × Json)} :
  readMembers depth (fuel + 1) isFirst s = .ok (ms, r)
    ↔ ReadsMembers depth fuel isFirst (skipBlanks s) ms r
  := by
  rw [readMembers]
  generalize skipBlanks s = s
  cases s with
  | nil => constructor <;> rintro ⟨⟩
  | cons c s =>
    by_cases hc : c = '\x7d'
    · subst hc
      apply ok_eq_ok_iff.trans
      constructor
      · rintro ⟨rfl, rfl⟩
        apply ReadsMembers.close
      · rintro (_ | ⟨hc⟩)
        · exact ⟨rfl, rfl⟩
        · contradiction
    · have hhead : ¬ (c :: s).head? = some '\x7d' := mt Option.some.inj hc
      simp only [List.isEmpty_cons, Bool.false_eq_true, if_false, if_neg hhead, bind_eq_ok_iff]
      constructor
      · rintro ⟨start, hstart, ⟨key, mid⟩, hkey, behind, hcolon, ⟨v, r'⟩, hv, ⟨ms, r''⟩, hms, h⟩
        obtain ⟨rfl, rfl⟩ := ok_eq_ok_iff.mp h
        apply ReadsMembers.member hc hstart hkey (expectColon_eq_ok_iff.mp hcolon) hv hms
      · rintro (_ | ⟨_, hstart, hkey, hcolon, hv, hms⟩)
        · contradiction
        · exact ⟨_, hstart, _, hkey, _, expectColon_eq_ok_iff.mpr hcolon, _, hv, _, hms, rfl⟩

end

/-! ### Texts -/

/-- A text is read as the value at its front if only blanks follow. -/
theorem ofText_eq_ok_iff {s : List Char} {v : Json} :
  ofText s = .ok v
    ↔ ∃ r, readValue maxDepth (s.length + 1) s = .ok (v, r) ∧ skipBlanks r = []
  := by
  have hall : ofText s = .ok v ↔ readAll s = .ok v := by
    unfold ofText
    cases readAll s <;> simp
  rw [hall, readAll, bind_eq_ok_iff]
  constructor
  · rintro ⟨⟨w, r⟩, hread, h⟩
    dsimp only at h
    split at h
    · next hblanks =>
      obtain rfl := Except.ok.inj h
      use r, hread, hblanks
    · cases h
  · rintro ⟨r, hread, hblanks⟩
    use (v, r), hread
    simp only [hblanks]
    rfl

/-- The empty text is no value. -/
theorem isEmpty_of_ofText {s : List Char} {v : Json} (h : ofText s = .ok v) :
  s.isEmpty = false
  := by
  cases s with
  | nil => cases h
  | cons c s => rfl

end FieldFormula.Json
