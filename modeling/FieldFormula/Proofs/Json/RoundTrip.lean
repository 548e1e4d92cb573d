import FieldFormula.Proofs.Json.Numbers
import FieldFormula.Proofs.Json.Strings

/-!
# Reading back what is written

A value that is read from a text nests to a limited depth, has different keys in each of its
objects, and has integers of 64 bits.  Such a value is read from its own text, so long as the floats
in it are.

* `wellFormed_of_ofText`: the values that are read.
* `isReadable_of_wellFormed`: a value is read from the front of a text, whatever follows it.
* `ofText_text`: a value is read from its text.
-/

namespace FieldFormula.Json

/-! ### Values that are read -/

mutual

theorem wellFormed_of_readValue {depth fuel : Nat} {s r : List Char} {v : Json}
    (h : readValue depth fuel s = .ok (v, r)) :
  WellFormed depth v
  := by
  match fuel with
  | 0 => cases h
  | fuel + 1 =>
    have h := readValue_eq_ok_iff.mp h
    generalize skipBlanks s = t at h
    cases h with
    | null => apply wellFormed_null
    | true => apply wellFormed_bool
    | false => apply wellFormed_bool
    | string => apply wellFormed_string
    | negative hnumber | digit _ hnumber =>
      apply wellFormed_number
      rintro k rfl
      apply is64Bit_of_readNumber hnumber
    | array hd hitems =>
      subst hd
      rw [wellFormed_array_iff]
      apply wellFormed_of_readItems hitems
    | object hd hpairs =>
      subst hd
      rw [wellFormed_object_iff]
      use nodup_keys_ofPairs _
      intro m hm
      apply wellFormed_of_readMembers hpairs m (mem_of_mem_ofPairs hm)

theorem wellFormed_of_readItems {depth fuel : Nat} {isFirst : Bool} {s r : List Char}
    {vs : List Json} (h : readItems depth fuel isFirst s = .ok (vs, r)) :
  ∀ v ∈ vs, WellFormed depth v
  := by
  match fuel with
  | 0 => cases h
  | fuel + 1 =>
    have h := readItems_eq_ok_iff.mp h
    generalize skipBlanks s = t at h
    cases h with
    | close => apply List.forall_mem_nil
    | item _ _ hv hvs =>
      rw [List.forall_mem_cons]
      use wellFormed_of_readValue hv
      apply wellFormed_of_readItems hvs

theorem wellFormed_of_readMembers {depth fuel : Nat} {isFirst : Bool} {s r : List Char}
    {ms : List (String × Json)} (h : readMembers depth fuel isFirst s = .ok (ms, r)) :
  ∀ m ∈ ms, WellFormed depth m.2
  := by
  match fuel with
  | 0 => cases h
  | fuel + 1 =>
    have h := readMembers_eq_ok_iff.mp h
    generalize skipBlanks s = t at h
    cases h with
    | close => apply List.forall_mem_nil
    | member _ _ _ _ hv hms =>
      rw [List.forall_mem_cons]
      use wellFormed_of_readValue hv
      apply wellFormed_of_readMembers hms

end

/-- A value that is read is well-formed. -/
theorem wellFormed_of_ofText {s : List Char} {v : Json} (h : ofText s = .ok v) :
  WellFormed maxDepth v
  := by
  obtain ⟨r, hread, -⟩ := ofText_eq_ok_iff.mp h
  apply wellFormed_of_readValue hread

/-! ### Values at the front of a text -/

/-- The text of the value begins with neither a blank nor a closing bracket, and it is read as the
value before anything that does not continue a number. -/
structure IsReadable (depth : Nat) (v : Json) : Prop where
  head : ∃ c s, text v = c :: s ∧ c ∉ blanks ∧ c ≠ ']'
  read : ∀ fuel rest, (text v).length ≤ fuel → EndsNumber rest →
    readValue depth fuel (text v ++ rest) = .ok (v, rest)

/-- What follows an item or a member does not continue a number. -/
theorem endsNumber_separated {α : Type} (f : α → List Char) (xs : List α) {close : Char}
    (hclose : close ∈ [']', '\x7d']) (rest : List Char) :
  EndsNumber ((xs.flatMap fun x => ',' :: f x) ++ close :: rest)
  := by
  cases xs with
  | nil =>
    rintro c ⟨⟩
    simp only [List.mem_cons, List.not_mem_nil, or_false] at hclose
    obtain rfl | rfl := hclose <;> decide
  | cons x xs =>
    rintro c ⟨⟩
    decide

section

variable {depth fuel : Nat} (rest : List Char)

/-! ### Items -/

theorem textOfItems_cons (v : Json) (vs : List Json) :
  textOfItems (v :: vs) = text v ++ vs.flatMap fun w => ',' :: text w
  := by
  induction vs generalizing v with
  | nil => rw [textOfItems, List.flatMap_nil, List.append_nil]
  | cons w vs ih => rw [textOfItems, ih, List.flatMap_cons, List.cons_append]

theorem itemStart_comma {v : Json} (hv : IsReadable depth v) :
  itemStart false (',' :: (text v ++ rest)) = .ok (text v ++ rest)
  := by
  obtain ⟨c, s, htext, hblanks, hc⟩ := hv.head
  rw [htext, List.cons_append, itemStart, if_neg Bool.false_ne_true, List.head?_cons, if_pos rfl,
    List.drop_one, List.tail_cons, skipBlanks_cons hblanks]
  split
  · contradiction
  · next heq => cases hc (List.cons.inj heq).1
  · rfl

/-- Items behind commas are read up to the closing bracket. -/
theorem readItems_flatMap {vs : List Json} (h : ∀ v ∈ vs, IsReadable depth v)
    (hfuel : (vs.flatMap fun v => ',' :: text v).length < fuel) :
  readItems depth fuel false ((vs.flatMap fun v => ',' :: text v) ++ ']' :: rest)
    = .ok (vs, rest)
  := by
  induction vs generalizing fuel with
  | nil =>
    obtain ⟨fuel, rfl⟩ := Nat.exists_eq_add_one_of_ne_zero (Nat.ne_zero_of_lt hfuel)
    rw [readItems_eq_ok_iff]
    apply ReadsItems.close
  | cons v vs ih =>
    obtain ⟨fuel, rfl⟩ := Nat.exists_eq_add_one_of_ne_zero (Nat.ne_zero_of_lt hfuel)
    obtain ⟨hv, hvs⟩ := List.forall_mem_cons.mp h
    rw [List.flatMap_cons, List.length_append, List.length_cons] at hfuel
    rw [readItems_eq_ok_iff, List.flatMap_cons, List.append_assoc, List.cons_append,
      skipBlanks_cons (by decide)]
    apply ReadsItems.item (by decide) (itemStart_comma _ hv)
    · apply hv.read fuel _ (by omega)
      apply endsNumber_separated _ _ (by decide)
    · apply ih hvs
      omega

/-- Items are read up to the closing bracket. -/
theorem readItems_textOfItems {vs : List Json} (h : ∀ v ∈ vs, IsReadable depth v)
    (hfuel : (textOfItems vs).length < fuel) :
  readItems depth fuel true (textOfItems vs ++ ']' :: rest) = .ok (vs, rest)
  := by
  obtain ⟨fuel, rfl⟩ := Nat.exists_eq_add_one_of_ne_zero (Nat.ne_zero_of_lt hfuel)
  rw [readItems_eq_ok_iff]
  cases vs with
  | nil => apply ReadsItems.close
  | cons v vs =>
    obtain ⟨hv, hvs⟩ := List.forall_mem_cons.mp h
    obtain ⟨c, s, htext, hblanks, hc⟩ := hv.head
    rw [textOfItems_cons, List.length_append] at hfuel
    rw [textOfItems_cons, List.append_assoc]
    have hread := hv.read fuel ((vs.flatMap fun v => ',' :: text v) ++ ']' :: rest) (by omega)
      (endsNumber_separated _ _ (by decide) _)
    rw [htext, List.length_cons] at hfuel
    rw [htext, List.cons_append] at hread ⊢
    rw [skipBlanks_cons hblanks]
    apply ReadsItems.item hc rfl hread
    apply readItems_flatMap rest hvs
    omega

/-! ### Members -/

/-- The text of a member. -/
def memberText (m : String × Json) : List Char :=
  quote m.1 ++ ':' :: text m.2

theorem textOfMembers_cons (m : String × Json) (ms : List (String × Json)) :
  textOfMembers (m :: ms) = memberText m ++ ms.flatMap fun n => ',' :: memberText n
  := by
  induction ms generalizing m with
  | nil => rw [textOfMembers, List.flatMap_nil, List.append_nil, memberText]
  | cons n ms ih =>
    rw [textOfMembers, ih, List.flatMap_cons, List.cons_append]
    rfl

/-- The key of a member is read up to the colon. -/
theorem readString_memberText (m : String × Json) :
  readString (memberText m ++ rest).length ((memberText m ++ rest).drop 1)
    = .ok (m.1.toList, ':' :: (text m.2 ++ rest))
  := by
  have htext : memberText m ++ rest
      = '"' :: (m.1.toList.flatMap escape ++ '"' :: ':' :: (text m.2 ++ rest)) := by
    simp [memberText, quote]
  have hlength := length_le_length_flatMap_escape m.1.toList
  rw [htext, List.drop_one, List.tail_cons]
  apply readString_of_lt
  simp only [List.length_cons, List.length_append]
  omega

/-- A member is read with the members behind it. -/
theorem ReadsMembers.memberText {isFirst : Bool} {c : Char} {s : List Char} (hc : c ≠ '\x7d')
    {m : String × Json} {tail : List Char}
    (hstart : memberStart isFirst (c :: s) = .ok (memberText m ++ tail))
    (hm : IsReadable depth m.2) (hfuel : (memberText m).length ≤ fuel)
    (htail : EndsNumber tail) {ms : List (String × Json)}
    (hms : readMembers depth fuel false tail = .ok (ms, rest)) :
  ReadsMembers depth fuel isFirst (c :: s) (m :: ms) rest
  := by
  have hkey : m = (String.ofList m.1.toList, m.2) := by rw [String.ofList_toList]
  rw [Json.memberText, List.length_append, List.length_cons] at hfuel
  rw [hkey]
  apply ReadsMembers.member hc hstart (readString_memberText tail m)
    (skipBlanks_cons (by decide) _) _ hms
  apply hm.read fuel tail (by omega) htail

/-- Members behind commas are read up to the closing brace. -/
theorem readMembers_flatMap {ms : List (String × Json)} (h : ∀ m ∈ ms, IsReadable depth m.2)
    (hfuel : (ms.flatMap fun m => ',' :: memberText m).length < fuel) :
  readMembers depth fuel false ((ms.flatMap fun m => ',' :: memberText m) ++ '\x7d' :: rest)
    = .ok (ms, rest)
  := by
  induction ms generalizing fuel with
  | nil =>
    obtain ⟨fuel, rfl⟩ := Nat.exists_eq_add_one_of_ne_zero (Nat.ne_zero_of_lt hfuel)
    rw [readMembers_eq_ok_iff]
    apply ReadsMembers.close
  | cons m ms ih =>
    obtain ⟨fuel, rfl⟩ := Nat.exists_eq_add_one_of_ne_zero (Nat.ne_zero_of_lt hfuel)
    obtain ⟨hm, hms⟩ := List.forall_mem_cons.mp h
    rw [List.flatMap_cons, List.length_append, List.length_cons] at hfuel
    rw [readMembers_eq_ok_iff, List.flatMap_cons, List.append_assoc, List.cons_append,
      skipBlanks_cons (by decide)]
    apply ReadsMembers.memberText rest (by decide) rfl hm (by omega)
      (endsNumber_separated _ _ (by decide) _)
    apply ih hms
    omega

/-- Members are read up to the closing brace. -/
theorem readMembers_textOfMembers {ms : List (String × Json)}
    (h : ∀ m ∈ ms, IsReadable depth m.2) (hfuel : (textOfMembers ms).length < fuel) :
  readMembers depth fuel true (textOfMembers ms ++ '\x7d' :: rest) = .ok (ms, rest)
  := by
  obtain ⟨fuel, rfl⟩ := Nat.exists_eq_add_one_of_ne_zero (Nat.ne_zero_of_lt hfuel)
  rw [readMembers_eq_ok_iff]
  cases ms with
  | nil => apply ReadsMembers.close
  | cons m ms =>
    obtain ⟨hm, hms⟩ := List.forall_mem_cons.mp h
    obtain ⟨s, htext⟩ : ∃ s, memberText m = '"' :: s := ⟨_, rfl⟩
    have hlength : (memberText m).length = s.length + 1 := by rw [htext, List.length_cons]
    have hstart : ∀ tail, memberStart true ('"' :: (s ++ tail)) = .ok (memberText m ++ tail) := by
      rw [htext]
      exact fun _ => rfl
    rw [textOfMembers_cons, List.length_append] at hfuel
    rw [textOfMembers_cons, List.append_assoc, htext, List.cons_append,
      skipBlanks_cons (by decide)]
    apply ReadsMembers.memberText rest (by decide) (hstart _) hm (by omega)
      (endsNumber_separated _ _ (by decide) _)
    apply readMembers_flatMap rest hms
    omega

end

/-! ### Texts of values -/

/-- The floats in a value are read from their texts. -/
def FloatsReadBack (v : Json) : Prop :=
  ∀ x, IsPart (.number (.float x)) v → (Number.float x).ReadsBack

theorem floatsReadBack_array_iff {items : List Json} :
  FloatsReadBack (.array items) ↔ ∀ v ∈ items, FloatsReadBack v
  := by
  constructor
  · intro h v hv x hx
    apply h x (.item hv hx)
  · intro h x hx
    obtain heq | ⟨v, hv, hx⟩ := isPart_array_iff.mp hx
    · cases heq
    · apply h v hv x hx

theorem floatsReadBack_object_iff {ms : List (String × Json)} :
  FloatsReadBack (.object ms) ↔ ∀ m ∈ ms, FloatsReadBack m.2
  := by
  constructor
  · intro h m hm x hx
    apply h x (.member hm hx)
  · intro h x hx
    obtain heq | ⟨m, hm, hx⟩ := isPart_object_iff.mp hx
    · cases heq
    · apply h m hm x hx

theorem floatsReadBack_string (s : String) :
  FloatsReadBack (.string s)
  := by
  rintro x ⟨⟩

theorem floatsReadBack_bool (b : Bool) :
  FloatsReadBack (.bool b)
  := by
  rintro x ⟨⟩

theorem floatsReadBack_integer (k : Int) :
  FloatsReadBack (.number (.integer k))
  := by
  rintro x ⟨⟩

theorem FloatsReadBack.insert {ms : List (String × Json)} (h : FloatsReadBack (.object ms))
    (key : String) {value : Json} (hvalue : FloatsReadBack value) :
  FloatsReadBack (.object (insert key value ms))
  := by
  rw [floatsReadBack_object_iff] at h ⊢
  intro m hm
  obtain rfl | hm := mem_insert hm
  · apply hvalue
  · apply h m hm

theorem isReadable_of_readsValue {depth : Nat} {v : Json} {c : Char} {s : List Char}
    (htext : text v = c :: s) (hblanks : c ∉ blanks) (hc : c ≠ ']')
    (h : ∀ fuel rest, s.length ≤ fuel → EndsNumber rest →
      ReadsValue depth fuel (c :: (s ++ rest)) v rest) :
  IsReadable depth v
  := by
  use ⟨c, s, htext, hblanks, hc⟩
  intro fuel rest hfuel hrest
  rw [htext, List.length_cons] at hfuel
  obtain ⟨fuel, rfl⟩ := Nat.exists_eq_add_one_of_ne_zero (Nat.ne_zero_of_lt hfuel)
  rw [readValue_eq_ok_iff, htext, List.cons_append, skipBlanks_cons hblanks]
  apply h fuel rest (Nat.le_of_succ_le_succ hfuel) hrest

/-- A value is read from the front of a text, whatever follows it. -/
theorem isReadable_of_wellFormed {depth : Nat} {v : Json} (hv : WellFormed depth v)
    (hfloats : FloatsReadBack v) :
  IsReadable depth v
  := by
  induction v generalizing depth with
  | null =>
    apply isReadable_of_readsValue (s := "ull".toList) rfl (by decide) (by decide)
    intro fuel rest _ _
    apply ReadsValue.null rfl
  | bool b =>
    cases b with
    | true =>
      apply isReadable_of_readsValue (s := "rue".toList) rfl (by decide) (by decide)
      intro fuel rest _ _
      apply ReadsValue.true rfl
    | false =>
      apply isReadable_of_readsValue (s := "alse".toList) rfl (by decide) (by decide)
      intro fuel rest _ _
      apply ReadsValue.false rfl
  | string s =>
    apply isReadable_of_readsValue (s := s.toList.flatMap escape ++ ['"']) rfl (by decide)
      (by decide)
    intro fuel rest _ _
    nth_rewrite 2 [← String.ofList_toList (s := s)]
    rw [List.append_assoc]
    apply ReadsValue.string
    apply readString_quote
  | number n =>
    have hn : n.ReadsBack := by
      cases n with
      | integer k => apply readsBack_integer (hv.is64Bit k .refl)
      | float x => apply hfloats x .refl
    obtain ⟨c, s, htext, hblanks, hc, h⟩ := hn.readsValue
    apply isReadable_of_readsValue (v := .number n) htext hblanks hc
    intro fuel rest _ hrest
    apply h depth fuel rest hrest
  | array items ih =>
    obtain ⟨d, rfl⟩ : ∃ d, depth = d + 1 :=
      Nat.exists_eq_add_one_of_ne_zero (Nat.ne_zero_of_lt hv.depth_le)
    apply isReadable_of_readsValue (s := textOfItems items ++ [']']) rfl (by decide) (by decide)
    intro fuel rest hfuel _
    rw [List.length_append, List.length_singleton] at hfuel
    rw [List.append_assoc]
    apply ReadsValue.array rfl
    apply readItems_textOfItems rest _ hfuel
    intro v hitem
    apply ih v hitem (wellFormed_array_iff.mp hv v hitem)
    apply floatsReadBack_array_iff.mp hfloats v hitem
  | object ms ih =>
    obtain ⟨d, rfl⟩ : ∃ d, depth = d + 1 :=
      Nat.exists_eq_add_one_of_ne_zero (Nat.ne_zero_of_lt hv.depth_le)
    obtain ⟨hkeys, hmembers⟩ := wellFormed_object_iff.mp hv
    apply isReadable_of_readsValue (s := textOfMembers ms ++ ['\x7d']) rfl (by decide)
      (by decide)
    intro fuel rest hfuel _
    rw [List.length_append, List.length_singleton] at hfuel
    rw [List.append_assoc]
    nth_rewrite 2 [← ofPairs_eq_self hkeys]
    apply ReadsValue.object rfl
    apply readMembers_textOfMembers rest _ hfuel
    intro m hm
    apply ih m hm (hmembers m hm)
    apply floatsReadBack_object_iff.mp hfloats m hm

/-- A value is read from its text. -/
theorem ofText_text {v : Json} (hv : WellFormed maxDepth v) (hfloats : FloatsReadBack v) :
  ofText (text v) = .ok v
  := by
  rw [ofText_eq_ok_iff]
  use []
  have hread := (isReadable_of_wellFormed hv hfloats).read ((text v).length + 1) []
    (Nat.le_succ _) endsNumber_nil
  rw [List.append_nil] at hread
  use hread
  rfl

/-- An object with a single member is read from its text. -/
theorem ofText_text_member {v : Json} (hv : WellFormed (maxDepth - 1) v)
    (hfloats : FloatsReadBack v) (key : String) :
  ofText (text (.object [(key, v)])) = .ok (.object [(key, v)])
  := by
  apply ofText_text
  · apply wellFormed_object_iff.mpr
    use List.nodup_singleton key
    rwa [List.forall_mem_singleton]
  · apply floatsReadBack_object_iff.mpr
    rwa [List.forall_mem_singleton]

end FieldFormula.Json
