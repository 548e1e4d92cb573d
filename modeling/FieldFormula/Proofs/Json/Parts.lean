import FieldFormula.Json.Reading
import FieldFormula.Proofs.Json.Members
import Mathlib.Algebra.Ring.Int.Defs

/-!
# Parts of JSON values

A value is proved to have a property by induction on the items and the members in it.  The parts of
a value are the value itself and the parts of its items and members.  A value that is read from a
text is of limited depth, the keys in each of its objects are different, and its integers are of 64
bits.

* `Json.induction`: induction on the items and the members of a value.
* `IsPart`: the parts of a value.
* `WellFormed`: what holds of all values that are read.
* `WellFormed.of_isPart`: the parts of a well-formed value are well-formed.
* `wellFormed_array_iff`, `wellFormed_object_iff`: which arrays and objects are well-formed.
* `WellFormed.insert`: an object stays well-formed when the value of a key is replaced.
-/

namespace FieldFormula.Json

/-- Induction on the items and the members of a value. -/
@[elab_as_elim, induction_eliminator]
theorem induction {motive : Json → Prop} (null : motive .null) (bool : ∀ b, motive (.bool b))
    (number : ∀ n, motive (.number n)) (string : ∀ s, motive (.string s))
    (array : ∀ items, (∀ v ∈ items, motive v) → motive (.array items))
    (object : ∀ ms : List (String × Json), (∀ m ∈ ms, motive m.2) → motive (.object ms))
    (v : Json) :
  motive v
  := by
  match v with
  | .null => apply null
  | .bool b => apply bool
  | .number n => apply number
  | .string s => apply string
  | .array items =>
    apply array
    intro w hw
    apply induction null bool number string array object w
  | .object ms =>
    apply object
    intro m hm
    have hsize : sizeOf m.2 < 1 + sizeOf ms := by
      have hlt := List.sizeOf_lt_of_mem hm
      obtain ⟨k, w⟩ := m
      rw [Prod.mk.sizeOf_spec] at hlt
      dsimp only
      omega
    apply induction null bool number string array object m.2

/-! ### Depth -/

mutual

/-- The depth of nesting of a value. -/
def depth : Json → Nat
  | .array items => depthOfItems items + 1
  | .object ms => depthOfMembers ms + 1
  | _ => 0

/-- The greatest depth among items. -/
def depthOfItems : List Json → Nat
  | [] => 0
  | v :: vs => max (depth v) (depthOfItems vs)

/-- The greatest depth among members. -/
def depthOfMembers : List (String × Json) → Nat
  | [] => 0
  | (_, v) :: ms => max (depth v) (depthOfMembers ms)

end

theorem depth_array_le_iff {items : List Json} {d : Nat} :
  depth (.array items) ≤ d + 1 ↔ ∀ v ∈ items, depth v ≤ d
  := by
  rw [depth, Nat.add_le_add_iff_right]
  induction items with
  | nil => simp [depthOfItems]
  | cons v vs ih => rw [depthOfItems, Nat.max_le, ih, List.forall_mem_cons]

theorem depth_object_le_iff {ms : List (String × Json)} {d : Nat} :
  depth (.object ms) ≤ d + 1 ↔ ∀ m ∈ ms, depth m.2 ≤ d
  := by
  rw [depth, Nat.add_le_add_iff_right]
  induction ms with
  | nil => simp [depthOfMembers]
  | cons m ms ih =>
    obtain ⟨k, v⟩ := m
    rw [depthOfMembers, Nat.max_le, ih, List.forall_mem_cons]

/-! ### Parts -/

/-- The value is `j` or stands in `j`. -/
inductive IsPart (v : Json) : Json → Prop
  | refl : IsPart v v
  | item {w : Json} {items : List Json} (hw : w ∈ items) (h : IsPart v w) :
      IsPart v (.array items)
  | member {m : String × Json} {ms : List (String × Json)} (hm : m ∈ ms) (h : IsPart v m.2) :
      IsPart v (.object ms)

theorem isPart_array_iff {v : Json} {items : List Json} :
  IsPart v (.array items) ↔ v = .array items ∨ ∃ w ∈ items, IsPart v w
  := by
  constructor
  · intro h
    cases h with
    | refl => exact Or.inl rfl
    | item hw h => exact Or.inr ⟨_, hw, h⟩
  · rintro (rfl | ⟨w, hw, h⟩)
    · apply IsPart.refl
    · apply IsPart.item hw h

theorem isPart_object_iff {v : Json} {ms : List (String × Json)} :
  IsPart v (.object ms) ↔ v = .object ms ∨ ∃ m ∈ ms, IsPart v m.2
  := by
  constructor
  · intro h
    cases h with
    | refl => exact Or.inl rfl
    | member hm h => exact Or.inr ⟨_, hm, h⟩
  · rintro (rfl | ⟨m, hm, h⟩)
    · apply IsPart.refl
    · apply IsPart.member hm h

theorem IsPart.trans {u v w : Json} (huv : IsPart u v) (hvw : IsPart v w) :
  IsPart u w
  := by
  induction hvw with
  | refl => apply huv
  | item hmem _ ih => apply IsPart.item hmem ih
  | member hmem _ ih => apply IsPart.member hmem ih

theorem IsPart.depth_le {v w : Json} (h : IsPart v w) :
  depth v ≤ depth w
  := by
  induction h with
  | refl => apply Nat.le_refl
  | @item w items hw _ ih =>
    have hdepth : depth w ≤ depthOfItems items := depth_array_le_iff.mp (Nat.le_refl _) w hw
    rw [depth]
    omega
  | @member m ms hm _ ih =>
    have hdepth : depth m.2 ≤ depthOfMembers ms := depth_object_le_iff.mp (Nat.le_refl _) m hm
    rw [depth]
    omega

/-! ### Well-formed values -/

/-- An integer of 64 bits, signed or not. -/
def Is64Bit (k : Int) : Prop :=
  -2 ^ 63 ≤ k ∧ k < 2 ^ 64

/-- The value nests to a depth at most, the keys in each of its objects are different, and its
integers are of 64 bits. -/
structure WellFormed (d : Nat) (v : Json) : Prop where
  depth_le : depth v ≤ d
  nodup_keys : ∀ ms, IsPart (.object ms) v → (keys ms).Nodup
  is64Bit : ∀ k, IsPart (.number (.integer k)) v → Is64Bit k

theorem WellFormed.mono {d d' : Nat} {v : Json} (h : WellFormed d v) (hd : depth v ≤ d') :
  WellFormed d' v
  := ⟨hd, h.nodup_keys, h.is64Bit⟩

/-- The parts of a well-formed value are well-formed. -/
theorem WellFormed.of_isPart {d : Nat} {v w : Json} (hw : WellFormed d w) (h : IsPart v w) :
  WellFormed d v
  := by
  use Nat.le_trans h.depth_le hw.depth_le
  · intro ms hms
    apply hw.nodup_keys ms (hms.trans h)
  · intro k hk
    apply hw.is64Bit k (hk.trans h)

theorem wellFormed_null (d : Nat) :
  WellFormed d .null
  := by
  refine ⟨Nat.zero_le d, ?_, ?_⟩ <;> rintro _ ⟨⟩

theorem wellFormed_bool (d : Nat) (b : Bool) :
  WellFormed d (.bool b)
  := by
  refine ⟨Nat.zero_le d, ?_, ?_⟩ <;> rintro _ ⟨⟩

theorem wellFormed_string (d : Nat) (s : String) :
  WellFormed d (.string s)
  := by
  refine ⟨Nat.zero_le d, ?_, ?_⟩ <;> rintro _ ⟨⟩

theorem wellFormed_number (d : Nat) {n : Number} (h : ∀ k, n = .integer k → Is64Bit k) :
  WellFormed d (.number n)
  := by
  refine ⟨Nat.zero_le d, ?_, ?_⟩
  · rintro _ ⟨⟩
  · rintro k ⟨⟩
    apply h k rfl

theorem wellFormed_integer (d : Nat) {k : Int} (hk : Is64Bit k) :
  WellFormed d (.number (.integer k))
  := by
  apply wellFormed_number
  rintro _ ⟨⟩
  exact hk

theorem wellFormed_array_iff {d : Nat} {items : List Json} :
  WellFormed (d + 1) (.array items) ↔ ∀ v ∈ items, WellFormed d v
  := by
  constructor
  · rintro ⟨hdepth, hkeys, hbits⟩ v hv
    use depth_array_le_iff.mp hdepth v hv
    · intro ms hms
      apply hkeys ms (.item hv hms)
    · intro k hk
      apply hbits k (.item hv hk)
  · intro h
    use depth_array_le_iff.mpr fun v hv => (h v hv).depth_le
    · intro ms hms
      obtain heq | ⟨v, hv, hms⟩ := isPart_array_iff.mp hms
      · cases heq
      · apply (h v hv).nodup_keys ms hms
    · intro k hk
      obtain heq | ⟨v, hv, hk⟩ := isPart_array_iff.mp hk
      · cases heq
      · apply (h v hv).is64Bit k hk

theorem wellFormed_object_iff {d : Nat} {ms : List (String × Json)} :
  WellFormed (d + 1) (.object ms) ↔ (keys ms).Nodup ∧ ∀ m ∈ ms, WellFormed d m.2
  := by
  constructor
  · rintro ⟨hdepth, hkeys, hbits⟩
    use hkeys ms .refl
    intro m hm
    use depth_object_le_iff.mp hdepth m hm
    · intro ns hns
      apply hkeys ns (.member hm hns)
    · intro k hk
      apply hbits k (.member hm hk)
  · rintro ⟨hnodup, h⟩
    use depth_object_le_iff.mpr fun m hm => (h m hm).depth_le
    · intro ns hns
      obtain heq | ⟨m, hm, hns⟩ := isPart_object_iff.mp hns
      · obtain rfl := Json.object.inj heq
        apply hnodup
      · apply (h m hm).nodup_keys ns hns
    · intro k hk
      obtain heq | ⟨m, hm, hk⟩ := isPart_object_iff.mp hk
      · cases heq
      · apply (h m hm).is64Bit k hk

/-- An object stays well-formed when the value of a key is replaced. -/
theorem WellFormed.insert {d : Nat} {ms : List (String × Json)}
    (h : WellFormed (d + 1) (.object ms)) (key : String) {value : Json}
    (hvalue : WellFormed d value) :
  WellFormed (d + 1) (.object (insert key value ms))
  := by
  obtain ⟨hnodup, hms⟩ := wellFormed_object_iff.mp h
  apply wellFormed_object_iff.mpr
  use nodup_keys_insert hnodup
  intro m hm
  obtain rfl | hm := mem_insert hm
  · apply hvalue
  · apply hms m hm

end FieldFormula.Json
