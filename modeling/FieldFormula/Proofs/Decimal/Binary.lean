import FieldFormula.Decimal.Binary
import Mathlib

/-!
# Floats and their binary forms

A finite float and its binary form determine each other, as long as the mantissa is below
`2 ^ 53` and as large as the exponent allows.  Arithmetic on floats works on unpacked floats,
which the same forms describe.

* `ofFloat?_eq`: the binary form of a float is that of the unpacked float.
* `unpack_toFloat`: packing a canonical form and unpacking it gives it back.
* `ofFloat?_eq_some_iff`: a float has the given form exactly when it is the float of that form.
-/

namespace FieldFormula.Decimal.Binary

open Float.Model (UnpackedFloat)
open Float.Model.UnpackedFloat (Sign packComponents unpackMantissa unpackExponent unpackSign)

/-! ### Bit fields -/

theorem toNat_unpackMantissa (b : BitVec 64) :
  (@unpackMantissa .binary64 b).toNat = b.toNat % 2 ^ 52
  := by
  rw [UnpackedFloat.unpackMantissa_def, BitVec.extractLsb'_toNat, Nat.shiftRight_zero]

theorem toNat_unpackExponent (b : BitVec 64) :
  (@unpackExponent .binary64 b).toNat = b.toNat / 2 ^ 52 % 2 ^ 11
  := by
  rw [UnpackedFloat.unpackExponent_def, BitVec.extractLsb'_toNat, Nat.shiftRight_eq_div_pow]

theorem toNat_unpackSign (b : BitVec 64) :
  (@unpackSign .binary64 b).toNat = b.toNat / 2 ^ 63
  := by
  rw [UnpackedFloat.unpackSign_def, BitVec.extractLsb'_toNat, Nat.shiftRight_eq_div_pow]
  have hb := b.isLt
  apply Nat.mod_eq_of_lt
  apply Nat.div_lt_of_lt_mul
  omega

theorem toNat_one_append (m : BitVec 52) :
  (1#1 ++ m).toNat = 2 ^ 52 + m.toNat
  := by
  have h := Nat.two_pow_add_eq_or_of_lt m.isLt 1
  rw [BitVec.toNat_append]
  simpa [Nat.one_shiftLeft] using h.symm

/-! ### Unpacked floats -/

/-- Whether a sign is a minus. -/
def isMinus : Sign → Bool
  | .negative => true
  | .positive => false

theorem isMinus_ofBitVec (b : BitVec 1) :
  isMinus (.ofBitVec b) = (b.toNat == 1)
  := by
  decide +revert

/-- The binary form of an unpacked float that is finite. -/
def ofUnpacked? : UnpackedFloat → Option Binary
  | .zero s => some ⟨isMinus s, 0, -1074⟩
  | .finite s m e _ => some ⟨isMinus s, m, e⟩
  | .infinity _ | .notANumber => none

/-- The binary form that bits unpack to, in terms of the bit fields. -/
theorem ofUnpacked?_unpack (b : BitVec 64) :
  let field := (@unpackExponent .binary64 b).toNat
  let fraction := (@unpackMantissa .binary64 b).toNat
  let negative := (@unpackSign .binary64 b).toNat == 1
  ofUnpacked? (.unpack .binary64 b) =
    if field = 2047 then none
    else if field = 0 then some ⟨negative, fraction, -1074⟩
    else some ⟨negative, 2 ^ 52 + fraction, (field : Int) - 1075⟩
  := by
  intro field fraction negative
  have hones : field = 2047 ↔ @unpackExponent .binary64 b = -1#11 := by
    rw [← BitVec.toNat_inj]
    rfl
  have hzeros : field = 0 ↔ @unpackExponent .binary64 b = 0#11 := by
    rw [← BitVec.toNat_inj]
    rfl
  have hfraction : fraction = 0 ↔ @unpackMantissa .binary64 b = 0#52 := by
    rw [← BitVec.toNat_inj]
    rfl
  simp only [hones, hzeros]
  unfold UnpackedFloat.unpack
  by_cases h : @unpackExponent .binary64 b = -1#11
  · simp only [h, if_true]
    split <;> rfl
  · simp only [h, if_false]
    by_cases h : @unpackExponent .binary64 b = 0#11
    · simp only [h, if_true]
      split
      · next hzero =>
        simp only [ofUnpacked?, isMinus_ofBitVec, hfraction.mpr hzero]
        rfl
      · simp only [ofUnpacked?, isMinus_ofBitVec]
        rfl
    · simp only [h, if_false, ofUnpacked?, isMinus_ofBitVec]
      congr 2
      apply toNat_one_append

/-- The binary form of a float is that of the unpacked float. -/
theorem ofFloat?_eq (x : Float) :
  ofFloat? x = ofUnpacked? x.toModel.unpack
  := by
  have h := ofUnpacked?_unpack x.toModel.toBits.toBitVec
  rw [toNat_unpackMantissa, toNat_unpackExponent, toNat_unpackSign] at h
  apply h.symm

/-! ### Canonical forms -/

/-- The mantissa is below `2 ^ 53` and as large as the exponent allows. -/
structure IsCanonical (b : Binary) : Prop where
  mantissa_lt : b.mantissa < 2 ^ 53
  le_exponent : -1074 ≤ b.exponent
  exponent_le : b.exponent ≤ 971
  normal : 2 ^ 52 ≤ b.mantissa ∨ b.exponent = -1074

theorem isCanonical_of_ofFloat? {x : Float} {b : Binary} (h : ofFloat? x = some b) :
  b.IsCanonical
  := by
  rw [ofFloat?] at h
  dsimp only [Nat.pow_eq] at h
  have hfraction : x.toBits.toNat % 2 ^ 52 < 2 ^ 52 := Nat.mod_lt _ (by decide)
  have hfield : x.toBits.toNat / 2 ^ 52 % 2 ^ 11 < 2 ^ 11 := Nat.mod_lt _ (by decide)
  split at h
  · contradiction
  · split at h
    · obtain rfl := Option.some.inj h
      constructor <;> dsimp only <;> omega
    · obtain rfl := Option.some.inj h
      constructor <;> dsimp only <;> omega

/-- The sign of a binary number. -/
def sign (b : Binary) : Sign :=
  if b.negative then .negative else .positive

theorem isMinus_sign (b : Binary) :
  isMinus b.sign = b.negative
  := by
  cases h : b.negative <;> simp [sign, h, isMinus]

theorem sign_isMinus (s : Sign) (m : Nat) (e : Int) :
  sign ⟨isMinus s, m, e⟩ = s
  := by
  cases s <;> rfl

/-- The unpacked float of a binary form. -/
def unpacked (b : Binary) : UnpackedFloat :=
  if h : b.mantissa = 0 then .zero b.sign
  else .finite b.sign b.mantissa b.exponent (Nat.pos_of_ne_zero h)

/-- The float of a binary form. -/
def toFloat (b : Binary) : Float :=
  .ofModel (.pack b.unpacked)

theorem ofUnpacked?_unpacked {b : Binary} (hb : b.IsCanonical) :
  ofUnpacked? b.unpacked = some b
  := by
  obtain ⟨negative, mantissa, exponent⟩ := b
  unfold unpacked
  split
  · next h =>
    obtain rfl : mantissa = 0 := h
    obtain rfl : exponent = -1074 := by simpa using hb.normal
    simp only [ofUnpacked?, isMinus_sign]
  · simp only [ofUnpacked?, isMinus_sign]

theorem unpacked_of_ofUnpacked? {u : UnpackedFloat} {b : Binary} (h : ofUnpacked? u = some b) :
  u = b.unpacked
  := by
  cases u with
  | infinity s | notANumber => contradiction
  | zero s =>
    obtain rfl := Option.some.inj h
    simp only [unpacked, dif_pos, sign_isMinus]
  | finite s m e hm =>
    obtain rfl := Option.some.inj h
    simp only [unpacked, dif_neg hm.ne', sign_isMinus]

/-! ### Packing -/

theorem unpack_packComponents (s : Sign) (field : BitVec 11) (fraction : BitVec 52)
    (hones : field.toNat ≠ 2047) :
  ofUnpacked? (.unpack .binary64 (packComponents .binary64 s field fraction)) =
    if field.toNat = 0 then some ⟨isMinus s, fraction.toNat, -1074⟩
    else some ⟨isMinus s, 2 ^ 52 + fraction.toNat, (field.toNat : Int) - 1075⟩
  := by
  rw [ofUnpacked?_unpack, UnpackedFloat.unpackMantissa_packComponents,
    UnpackedFloat.unpackExponent_packComponents, UnpackedFloat.unpackSign_packComponents,
    ← isMinus_ofBitVec, UnpackedFloat.Sign.ofBitVec_toBitVec, if_neg hones]

theorem log2_eq_iff {m : Nat} (hm : 0 < m) (hlt : m < 2 ^ 53) :
  m.log2 + 1 = Float.Model.Format.binary64.mantissaBits ↔ 2 ^ 52 ≤ m
  := by
  have hle : 52 ≤ m.log2 ↔ 2 ^ 52 ≤ m := Nat.le_log2 hm.ne'
  have hlog : m.log2 < 53 := (Nat.log2_lt hm.ne').mpr hlt
  have hbits : Float.Model.Format.binary64.mantissaBits = 53 := rfl
  omega

/-- The bit fields of a canonical form that is not zero. -/
theorem pack_finite {s : Sign} {m : Nat} {e : Int} (hm : 0 < m) (hlt : m < 2 ^ 53)
    (hle : -1074 ≤ e) (hge : e ≤ 971) :
  UnpackedFloat.pack .binary64 (.finite s m e hm)
    = packComponents .binary64 s
      (if 2 ^ 52 ≤ m then .ofNat 11 (e + 1075).toNat else 0) (.ofNat 52 m)
  := by
  have hbias : (Float.Model.Format.binary64.exponentBias : Int) = 1023 := rfl
  have hfield : (e + (Float.Model.Format.binary64.exponentBias : Int) + (52 : Nat)).toNat
      = (e + 1075).toNat := by
    rw [hbias]
    congr 1
    omega
  have hsmall : ¬ 2 ^ 11 ≤ (e + 1075).toNat + 1 := by omega
  simp only [UnpackedFloat.pack, log2_eq_iff hm hlt]
  rw [hfield, if_neg hsmall]
  split <;> rfl

/-- Packing a canonical form and unpacking it gives it back. -/
theorem unpack_toFloat {b : Binary} (hb : b.IsCanonical) :
  b.toFloat.toModel.unpack = b.unpacked
  := by
  apply unpacked_of_ofUnpacked?
  obtain ⟨negative, mantissa, exponent⟩ := b
  obtain ⟨hlt, hle, hge, hnormal⟩ := hb
  dsimp only at hlt hle hge hnormal
  simp only [toFloat, unpacked, Float.Model.unpack, Float.Model.pack]
  split
  · next h =>
    obtain rfl : mantissa = 0 := h
    obtain rfl : exponent = -1074 := by simpa using hnormal
    have hpack := unpack_packComponents (sign ⟨negative, 0, -1074⟩) 0 0 (by decide)
    rw [isMinus_sign] at hpack
    apply hpack
  · next h =>
    have hpos : 0 < mantissa := Nat.pos_of_ne_zero h
    rw [pack_finite hpos hlt hle hge]
    by_cases hhigh : 2 ^ 52 ≤ mantissa
    · have hfield : (BitVec.ofNat 11 (exponent + 1075).toNat).toNat = (exponent + 1075).toNat := by
        rw [BitVec.toNat_ofNat]
        omega
      have hfraction : (BitVec.ofNat 52 mantissa).toNat = mantissa - 2 ^ 52 := by
        rw [BitVec.toNat_ofNat]
        omega
      have hones : (BitVec.ofNat 11 (exponent + 1075).toNat).toNat ≠ 2047 := by omega
      have hzeros : (BitVec.ofNat 11 (exponent + 1075).toNat).toNat ≠ 0 := by omega
      rw [if_pos hhigh]
      apply (unpack_packComponents _ _ _ hones).trans
      rw [if_neg hzeros, isMinus_sign, hfield, hfraction, Option.some.injEq, Binary.mk.injEq]
      refine ⟨rfl, ?_, ?_⟩ <;> omega
    · have hfraction : (BitVec.ofNat 52 mantissa).toNat = mantissa := by
        rw [BitVec.toNat_ofNat]
        omega
      rw [if_neg hhigh]
      obtain rfl := hnormal.resolve_left hhigh
      apply (unpack_packComponents _ 0 _ (by decide)).trans
      rw [isMinus_sign, hfraction]
      rfl

/-- A float has the given form exactly when the form is canonical and the float is that of the
form. -/
theorem ofFloat?_eq_some_iff {x : Float} {b : Binary} :
  ofFloat? x = some b ↔ b.IsCanonical ∧ x = b.toFloat
  := by
  constructor
  · intro h
    use isCanonical_of_ofFloat? h
    rw [ofFloat?_eq] at h
    have hbits := UnpackedFloat.pack_unpack_of_valid x.toModel.valid
    have hunpacked : UnpackedFloat.unpack .binary64 x.toModel.toBits.toBitVec = b.unpacked :=
      unpacked_of_ofUnpacked? h
    rw [hunpacked] at hbits
    apply Float.toBits_inj.mp
    apply UInt64.toBitVec_inj.mp
    apply hbits.symm
  · rintro ⟨hb, rfl⟩
    rw [ofFloat?_eq, unpack_toFloat hb, ofUnpacked?_unpacked hb]

end FieldFormula.Decimal.Binary
