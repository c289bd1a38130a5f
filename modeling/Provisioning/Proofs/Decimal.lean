import Mathlib
import Provisioning.Decimal.Binary

/-!
The double nearest to a whole number above zero is above zero as well, which takes a look at the
bits of the double. A pattern below that of infinity and other than that of zero is read as a finite
number above zero, whether its exponent field is zero (a subnormal double) or not.
-/

set_option autoImplicit false

namespace Provisioning.Decimal

open Float.Model.UnpackedFloat
open Float.Model (UnpackedFloat Format)
open Float.Model.Format (binary64)

/-- A finite number above zero. -/
def IsPositive (x : UnpackedFloat) : Prop :=
  ∃ mantissa exponent hmantissa, x = .finite .positive mantissa exponent hmantissa

private theorem unpackSign_packComponents {format : Format} {sign : Sign}
    {exponent : BitVec format.exponentBits} {mantissa : BitVec format.mantissaBitsWithoutImplicit} :
    unpackSign (packComponents format sign exponent mantissa) = sign.toBitVec := by
  ext i hi
  obtain rfl : i = 0 := by omega
  have h : ¬format.mantissaBitsWithoutImplicit + format.exponentBits <
      format.mantissaBitsWithoutImplicit := by omega
  simp [unpackSign, packComponents, BitVec.getLsbD_append, h, BitVec.getElem_append]

theorem isPositive_unpack_packComponents {exponent : BitVec 11} {mantissa : BitVec 52}
    (hfinite : exponent ≠ -1#11) (hzero : exponent = 0#11 → mantissa ≠ 0#52) :
    IsPositive (unpack binary64 (packComponents binary64 .positive exponent mantissa)) := by
  simp only [unpack, unpackMantissa_packComponents, unpackExponent_packComponents,
    unpackSign_packComponents]
  rw [if_neg hfinite]
  split
  · next hexponent =>
    rw [dif_neg (hzero hexponent)]
    exact ⟨_, _, _, rfl⟩
  · exact ⟨_, _, _, rfl⟩

theorem isPositive_unpack_pack_subnormal {m : Nat} (hpos : 0 < m) (hm : m < 2 ^ 52) :
    IsPositive (unpack binary64 (pack binary64 (.finite .positive m (-1074) hpos))) := by
  have hlog : m.log2 < 52 := (Nat.log2_lt (Nat.ne_of_gt hpos)).mpr hm
  have hpack : pack binary64 (.finite .positive m (-1074) hpos) =
      packComponents binary64 .positive 0#11 (BitVec.ofNat 52 m) := by
    rw [pack, if_neg (by decide), if_neg]
    exact fun heq ↦ absurd (Nat.succ.inj heq) (Nat.ne_of_lt hlog)
  rw [hpack]
  refine isPositive_unpack_packComponents (by decide) fun _ heq ↦ ?_
  have hzero := congrArg BitVec.toNat heq
  rw [BitVec.toNat_ofNat, Nat.mod_eq_of_lt hm] at hzero
  exact Nat.ne_of_gt hpos hzero

theorem isPositive_unpack_pack_normal {m field : Nat} (hpos : 0 < m) (hlog : m.log2 = 52)
    (hfield : 0 < field) (hfinite : field < 2047) :
    IsPositive (unpack binary64 (pack binary64 (.finite .positive m (field - 1075) hpos))) := by
  have hbiased : ((field : Int) - 1075 + binary64.exponentBias +
      binary64.mantissaBitsWithoutImplicit).toNat = field := by
    have hbias : binary64.exponentBias = 1023 := rfl
    have hbits : binary64.mantissaBitsWithoutImplicit = 52 := rfl
    omega
  have hpack : pack binary64 (.finite .positive m (field - 1075) hpos) =
      packComponents binary64 .positive (BitVec.ofNat 11 field) (BitVec.ofNat 52 m) := by
    have hsmall : ¬2 ^ binary64.exponentBits ≤ field + 1 := by
      change ¬2048 ≤ field + 1
      omega
    rw [pack, hbiased, if_neg hsmall, if_pos]
    rw [hlog]
    rfl
  have htoNat : (BitVec.ofNat 11 field).toNat = field := by
    rw [BitVec.toNat_ofNat]
    omega
  rw [hpack]
  refine isPositive_unpack_packComponents (fun heq ↦ ?_) fun heq ↦ ?_
  · rw [heq] at htoNat
    simp at htoNat
    omega
  · rw [heq] at htoNat
    exact absurd htoNat (Nat.ne_of_lt hfield)

theorem toNat_unpackMantissa (b : BitVec binary64.numBits) :
    (unpackMantissa b).toNat = b.toNat % 2 ^ 52 := by
  simp [unpackMantissa]

theorem toNat_unpackExponent (b : BitVec binary64.numBits) :
    (unpackExponent b).toNat = b.toNat / 2 ^ 52 % 2 ^ 11 := by
  simp [unpackExponent, Nat.shiftRight_eq_div_pow]

theorem isPositive_unpack_pack_unpack {b : BitVec binary64.numBits} (hpos : 0 < b.toNat)
    (hfinite : b.toNat < 2047 * 2 ^ 52) :
    IsPositive (unpack binary64 (pack binary64 (unpack binary64 b))) := by
  have hsign : unpackSign b = 0#1 := by
    apply BitVec.eq_of_toNat_eq
    simp [unpackSign, Nat.shiftRight_eq_div_pow]
    omega
  have hexponent : (unpackExponent b).toNat = b.toNat / 2 ^ 52 := by
    rw [toNat_unpackExponent]
    omega
  have hmantissa := toNat_unpackMantissa b
  have hne : unpackExponent b ≠ -1#11 := by
    intro h
    rw [h] at hexponent
    simp at hexponent
    omega
  by_cases hzero : unpackExponent b = 0#11
  · have hm : 0 < b.toNat % 2 ^ 52 := by
      rw [hzero] at hexponent
      simp at hexponent
      omega
    have hm0 : unpackMantissa b ≠ 0#52 := by
      intro h
      rw [h] at hmantissa
      exact absurd hmantissa (Nat.ne_of_lt hm)
    have hunpack : unpack binary64 b = .finite .positive (b.toNat % 2 ^ 52) (-1074) hm := by
      unfold unpack
      rw [if_neg hne, if_pos hzero, dif_neg hm0]
      simp only [hsign, hmantissa, hzero]
      rfl
    rw [hunpack]
    exact isPositive_unpack_pack_subnormal hm (Nat.mod_lt _ (Nat.two_pow_pos 52))
  · have hm : 0 < 2 ^ 52 + b.toNat % 2 ^ 52 := by omega
    have hunpack : unpack binary64 b = .finite .positive (2 ^ 52 + b.toNat % 2 ^ 52)
        ((b.toNat / 2 ^ 52 : Nat) - 1075) hm := by
      have himplicit : (1#1 ++ unpackMantissa b).toNat =
          2 ^ 52 + b.toNat % 2 ^ 52 := by
        rw [BitVec.toNat_append, hmantissa, Nat.shiftLeft_eq]
        exact (Nat.two_pow_add_eq_or_of_lt (Nat.mod_lt _ (Nat.two_pow_pos 52)) 1).symm
      unfold unpack
      rw [if_neg hne, if_neg hzero]
      simp only [hsign, hexponent, himplicit]
      rfl
    have hfield : (unpackExponent b).toNat ≠ 0 :=
      fun h ↦ hzero (BitVec.eq_of_toNat_eq h)
    rw [hunpack]
    refine isPositive_unpack_pack_normal hm ?_ (by omega) (by omega)
    exact (Nat.log2_eq_iff (by omega)).mpr ⟨by omega, by omega⟩

theorem ofBits_pos {bits : UInt64} (hpos : 0 < bits.toNat)
    (hfinite : bits.toNat < 2047 * 2 ^ 52) : 0 < Float.ofBits bits := by
  obtain ⟨m, e, hm, hunpack⟩ := isPositive_unpack_pack_unpack (b := bits.toBitVec) hpos hfinite
  have hx : (Float.ofBits bits).toModel.unpack = .finite .positive m e hm := hunpack
  have hlt : (zero .positive).lt (Float.ofBits bits).toModel.unpack = true := by
    rw [hx]
    rfl
  exact decide_eq_true_iff.mpr hlt

theorem nearestBits_le (num den : Nat) : nearestBits num den ≤ 2047 * 2 ^ 52 := by
  unfold nearestBits
  split
  · exact Nat.zero_le _
  · exact Nat.min_le_right _ _

/-- The exponent field of the double nearest to a whole number above zero is well above zero. -/
theorem nearestBits_pos {n : Nat} (hn : 0 < n) : 0 < nearestBits n 1 := by
  unfold nearestBits
  rw [if_neg (Nat.ne_of_gt hn)]
  extract_lets scaled least
  have hleast : -53 ≤ least := by
    have hlog : Nat.log2 1 = 0 := by decide
    omega
  obtain ⟨a, d⟩ := scaled least
  dsimp only
  have hk : -53 ≤ if Nat.pow 2 53 ≤ a / d then least + 1 else least := by
    split <;> omega
  generalize (if Nat.pow 2 53 ≤ a / d then least + 1 else least) = k at hk ⊢
  obtain ⟨a, d⟩ := scaled k
  have hfield : 1 * Nat.pow 2 52 ≤ (k + 1074).toNat * Nat.pow 2 52 :=
    Nat.mul_le_mul_right _ (by omega)
  have hbits : 0 < Nat.pow 2 52 := by decide
  exact Nat.lt_min.mpr ⟨by omega, by decide⟩

/-- The double nearest to a whole number above zero is above zero. -/
theorem pos_of_ofInt? {n : Int} {x : Float} (hn : 0 < n) (h : ofInt? n = some x) : 0 < x := by
  unfold ofInt? at h
  split at h
  · cases h
  · next hfinite =>
    have hpos : 0 < nearestBits n.natAbs 1 := nearestBits_pos (by omega)
    have hle := nearestBits_le n.natAbs 1
    have htoNat : (nearestBits n.natAbs 1).toUInt64.toNat = nearestBits n.natAbs 1 :=
      UInt64.toNat_ofNat_of_lt' (Nat.lt_of_le_of_lt hle (by decide))
    rw [decide_eq_false (by omega : ¬n < 0)] at h
    cases h
    refine ofBits_pos ?_ ?_
    · rw [htoNat]
      exact hpos
    · rw [htoNat]
      exact Nat.lt_of_le_of_ne hle hfinite

/-- What is not below or equal to zero is above zero or not a number. -/
theorem not_le_zero_iff {x : Float} : ¬x ≤ 0 ↔ 0 < x ∨ x.isNaN = true := by
  have hle : x ≤ 0 ↔ x.toModel.unpack.le (zero .positive) = true := decide_eq_true_iff
  have hlt : 0 < x ↔ (zero .positive).lt x.toModel.unpack = true := decide_eq_true_iff
  have hnan : x.isNaN = x.toModel.unpack.isNaN := rfl
  rw [hle, hlt, hnan]
  cases x.toModel.unpack with
  | notANumber | zero sign => decide +revert
  | infinity sign | finite sign m e hm =>
    cases sign <;>
      simp [UnpackedFloat.le, UnpackedFloat.lt, UnpackedFloat.compare, UnpackedFloat.isNaN]

theorem not_isNaN_of_pos {x : Float} (h : 0 < x) : ¬x.isNaN = true := by
  have hlt : (zero .positive).lt x.toModel.unpack = true := decide_eq_true_iff.mp h
  have hnan : x.isNaN = x.toModel.unpack.isNaN := rfl
  rw [hnan]
  generalize x.toModel.unpack = u at hlt
  cases u with
  | notANumber => cases hlt
  | _ => exact Bool.false_ne_true

theorem not_le_zero_of_pos {x : Float} (h : 0 < x) : ¬x ≤ 0 :=
  not_le_zero_iff.mpr (.inl h)

end Provisioning.Decimal
