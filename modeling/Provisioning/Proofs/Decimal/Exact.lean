import Mathlib
import Provisioning.Proofs.Decimal

/-!
Doubles as exact amounts. A finite double has one canonical mantissa and exponent, so two doubles are
equal if and only if they stand for the same rational number or the same infinity, and a whole number
equals a double if and only if the double stands for it. What is not a number stands for nothing.
-/

set_option autoImplicit false

namespace Provisioning.Decimal

open Float.Model.UnpackedFloat
open Float.Model (UnpackedFloat Format)
open Float.Model.Format (binary64)

theorem unpackSign_eq (b : BitVec binary64.numBits) :
    Sign.ofBitVec (unpackSign b) = if 2 ^ 63 ≤ b.toNat then .negative else .positive := by
  have hlt : b.toNat < 2 ^ 64 := b.isLt
  have htoNat : (unpackSign b).toNat = b.toNat / 2 ^ 63 := by
    simp [unpackSign, Nat.shiftRight_eq_div_pow]
    omega
  split
  · next h =>
    have hone : unpackSign b = 1#1 := BitVec.eq_of_toNat_eq (by rw [htoNat]; simp; omega)
    rw [hone]
    rfl
  · next h =>
    have hzero : unpackSign b = 0#1 := BitVec.eq_of_toNat_eq (by rw [htoNat]; simp; omega)
    rw [hzero]
    rfl

/-- The number that the parts of a double give. -/
def Binary.ofUnpacked? : UnpackedFloat → Option Binary
  | .finite sign mantissa exponent _ => some ⟨sign == .negative, mantissa, exponent⟩
  | .zero sign => some ⟨sign == .negative, 0, -1074⟩
  | .infinity _ | .notANumber => none

theorem Binary.ofFloat?_eq (x : Float) : ofFloat? x = ofUnpacked? x.toModel.unpack := by
  have hbits : x.toBits.toNat = x.toModel.toBits.toBitVec.toNat := rfl
  have hunpack : x.toModel.unpack = unpack binary64 x.toModel.toBits.toBitVec := rfl
  generalize x.toModel.toBits.toBitVec = b at hbits hunpack
  have hmantissa : (@unpackMantissa binary64 b).toNat = b.toNat % Nat.pow 2 52 :=
    toNat_unpackMantissa b
  have hexponent : (@unpackExponent binary64 b).toNat =
      b.toNat / Nat.pow 2 52 % Nat.pow 2 11 := toNat_unpackExponent b
  have hnegative : decide (Nat.pow 2 63 ≤ b.toNat) =
      (Sign.ofBitVec (@unpackSign binary64 b) == Sign.negative) := by
    rw [unpackSign_eq]
    by_cases h : 2 ^ 63 ≤ b.toNat
    · rw [if_pos h, decide_eq_true (by exact h)]
      rfl
    · rw [if_neg h, decide_eq_false (by exact h)]
      rfl
  have himplicit : (@unpackMantissa binary64 b).toNat + Nat.pow 2 52 =
      (1#1 ++ @unpackMantissa binary64 b).toNat := by
    rw [BitVec.toNat_append, Nat.shiftLeft_eq, Nat.add_comm]
    exact Nat.two_pow_add_eq_or_of_lt (@unpackMantissa binary64 b).isLt 1
  have hbias : ((binary64.exponentBias : Int) + binary64.mantissaBitsWithoutImplicit) = 1075 := rfl
  rw [hunpack, ofFloat?, hbits]
  unfold unpack
  simp only [hbias, ← hexponent, ← hmantissa, hnegative, himplicit]
  by_cases hlast : @unpackExponent binary64 b = -1#11
  · rw [if_pos hlast, hlast, if_pos (by decide)]
    split <;> rfl
  · have hne : (@unpackExponent binary64 b).toNat ≠ 2047 :=
      fun h ↦ hlast (BitVec.eq_of_toNat_eq h)
    rw [if_neg hlast, if_neg hne]
    by_cases hfirst : @unpackExponent binary64 b = 0#11
    · rw [if_pos hfirst, hfirst]
      by_cases hzero : @unpackMantissa binary64 b = 0#52
      · rw [dif_pos hzero, hzero]
        rfl
      · rw [dif_neg hzero]
        rfl
    · have hne : (@unpackExponent binary64 b).toNat ≠ 0 :=
        fun h ↦ hfirst (BitVec.eq_of_toNat_eq h)
      rw [if_neg hfirst, if_neg hne]
      rfl

/-- The number that is meant. -/
def Binary.value (b : Binary) : ℚ :=
  (if b.negative then -1 else 1) * (b.mantissa * 2 ^ b.exponent)

/-- Mantissa and exponent in the form that doubles have: at most 53 bits, the first of which is set
unless the exponent is the least one. -/
structure Binary.IsCanonical (b : Binary) : Prop where
  mantissa_lt : b.mantissa < 2 ^ 53
  le_exponent : -1074 ≤ b.exponent
  le_mantissa : -1074 < b.exponent → 2 ^ 52 ≤ b.mantissa

theorem Binary.isCanonical_of_ofFloat? {x : Float} {b : Binary} (h : ofFloat? x = some b) :
    b.IsCanonical := by
  have hfraction : x.toBits.toNat % Nat.pow 2 52 < 2 ^ 52 := Nat.mod_lt _ (Nat.two_pow_pos 52)
  rw [ofFloat?] at h
  split at h
  · cases h
  · split at h
    · cases h
      exact ⟨by dsimp only; omega, le_rfl, fun hlt ↦ absurd hlt (lt_irrefl _)⟩
    · next hfield =>
      cases h
      have hpow : Nat.pow 2 52 = 2 ^ 52 := rfl
      refine ⟨?_, ?_, fun _ ↦ ?_⟩ <;> dsimp only <;> omega

/-- Canonical forms of one absolute value are the same. -/
theorem Binary.IsCanonical.eq_of_mul_eq {b c : Binary} (hb : b.IsCanonical) (hc : c.IsCanonical)
    (hpos : 0 < b.mantissa) (hposc : 0 < c.mantissa)
    (h : (b.mantissa : ℚ) * 2 ^ b.exponent = c.mantissa * 2 ^ c.exponent) :
    b.mantissa = c.mantissa ∧ b.exponent = c.exponent := by
  wlog hle : b.exponent ≤ c.exponent generalizing b c
  · obtain ⟨hm, he⟩ := this hc hb hposc hpos h.symm (by omega)
    exact ⟨hm.symm, he.symm⟩
  obtain ⟨d, hd⟩ := Int.le.dest hle
  have hmul : b.mantissa = c.mantissa * 2 ^ d := by
    have hsplit : (2 : ℚ) ^ c.exponent = 2 ^ b.exponent * 2 ^ d := by
      rw [← hd, zpow_add₀ (by norm_num), zpow_natCast]
    have hne : (2 : ℚ) ^ b.exponent ≠ 0 := zpow_ne_zero _ (by norm_num)
    have hq : (b.mantissa : ℚ) = c.mantissa * 2 ^ d := by
      rw [hsplit] at h
      field_simp at h
      linarith
    exact_mod_cast hq
  cases d with
  | zero =>
    rw [pow_zero, mul_one] at hmul
    rw [Int.ofNat_zero, add_zero] at hd
    exact ⟨hmul, hd⟩
  | succ d =>
    have hlarge : 2 ^ 52 ≤ c.mantissa := hc.le_mantissa (by have := hb.le_exponent; omega)
    have hdouble : c.mantissa * 2 ≤ b.mantissa := by
      rw [hmul, pow_succ, ← mul_assoc]
      exact Nat.mul_le_mul_right 2 (Nat.le_mul_of_pos_right _ (Nat.two_pow_pos d))
    exact absurd hb.mantissa_lt (by omega)

theorem Binary.mul_pow_pos {b : Binary} (hpos : 0 < b.mantissa) :
    (0 : ℚ) < b.mantissa * 2 ^ b.exponent := by
  positivity

theorem Binary.value_ne_zero {b : Binary} (hpos : 0 < b.mantissa) : b.value ≠ 0 := by
  have hmag := mul_pow_pos hpos
  rw [value]
  split
  · linarith
  · linarith

theorem Binary.value_eq_iff {b c : Binary} (hb : b.IsCanonical) (hc : c.IsCanonical)
    (hpos : 0 < b.mantissa) (hposc : 0 < c.mantissa) : b.value = c.value ↔ b = c := by
  refine ⟨fun h ↦ ?_, congrArg value⟩
  have hmag := mul_pow_pos hpos
  have hmagc := mul_pow_pos hposc
  have hsame : b.negative = c.negative ∧
      (b.mantissa : ℚ) * 2 ^ b.exponent = c.mantissa * 2 ^ c.exponent := by
    rw [value, value] at h
    split at h <;> split at h
    · next hb hc => exact ⟨hb.trans hc.symm, by linarith⟩
    · linarith
    · linarith
    · next hb hc => exact ⟨Bool.eq_iff_iff.mpr (iff_of_false hb hc), by linarith⟩
  obtain ⟨hm, he⟩ := hb.eq_of_mul_eq hc hpos hposc hsame.2
  obtain ⟨negative, m, e⟩ := b
  rw [mk.injEq]
  exact ⟨hsame.1, hm, he⟩

/-- A number, or one of the two infinities. -/
inductive Amount
  | finite (q : ℚ)
  | infinite (negative : Bool)

/-- What a double stands for. -/
def amountOf? : UnpackedFloat → Option Amount
  | .finite sign mantissa exponent _ =>
    some (.finite (Binary.value ⟨sign == .negative, mantissa, exponent⟩))
  | .zero _ => some (.finite 0)
  | .infinity sign => some (.infinite (sign == .negative))
  | .notANumber => none

/-- What a double stands for, unless it is not a number. -/
def amount? (x : Float) : Option Amount :=
  amountOf? x.toModel.unpack

theorem amount?_eq_finite_iff {x : Float} {q : ℚ} :
    amount? x = some (.finite q) ↔ ∃ b, Binary.ofFloat? x = some b ∧ b.value = q := by
  rw [Binary.ofFloat?_eq, amount?]
  cases x.toModel.unpack with
  | finite sign m e h => simp [amountOf?, Binary.ofUnpacked?]
  | zero sign => simp [amountOf?, Binary.ofUnpacked?, Binary.value]
  | infinity sign => simp [amountOf?, Binary.ofUnpacked?]
  | notANumber => simp [amountOf?, Binary.ofUnpacked?]

theorem beq_finite_iff {s s' : Sign} {m m' : Nat} {e e' : Int} (hm : 0 < m) (hm' : 0 < m') :
    (finite s m e hm).beq (finite s' m' e' hm') = true ↔
      (⟨s == .negative, m, e⟩ : Binary) = ⟨s' == .negative, m', e'⟩ := by
  cases s <;> cases s' <;>
    simp [UnpackedFloat.beq, UnpackedFloat.compare, Ordering.then_eq_eq, and_comm]

/-- Two doubles are equal if they stand for the same. -/
theorem beq_iff_amount? {x y : Float} :
    (x == y) = true ↔ ∃ a, amount? x = some a ∧ amount? y = some a := by
  have hx := Binary.ofFloat?_eq x
  have hy := Binary.ofFloat?_eq y
  have hbeq : (x == y) = x.toModel.unpack.beq y.toModel.unpack := rfl
  rw [hbeq, amount?, amount?]
  generalize x.toModel.unpack = u at hx
  generalize y.toModel.unpack = v at hy
  cases u with
  | finite s m e hm =>
    cases v with
    | finite s' m' e' hm' =>
      have hiff := Binary.value_eq_iff (Binary.isCanonical_of_ofFloat? hx)
        (Binary.isCanonical_of_ofFloat? hy) hm hm'
      rw [beq_finite_iff, ← hiff]
      simp [amountOf?, eq_comm]
    | zero s' =>
      have hne := Binary.value_ne_zero (b := ⟨s == .negative, m, e⟩) hm
      cases s <;> simp_all [UnpackedFloat.beq, UnpackedFloat.compare, amountOf?, eq_comm]
    | infinity s' =>
      cases s <;> cases s' <;> simp [UnpackedFloat.beq, UnpackedFloat.compare, amountOf?]
    | notANumber => simp [UnpackedFloat.beq, UnpackedFloat.compare, amountOf?]
  | infinity s =>
    cases v with
    | infinity s' =>
      have hself (t : Sign) : compare t t = .eq := by cases t <;> rfl
      cases s <;> cases s' <;>
        simp [UnpackedFloat.beq, UnpackedFloat.compare, amountOf?, hself]
    | _ => cases s <;> simp [UnpackedFloat.beq, UnpackedFloat.compare, amountOf?]
  | notANumber => cases v <;> simp [UnpackedFloat.beq, UnpackedFloat.compare, amountOf?]
  | zero s =>
    cases v with
    | finite s' m' e' hm' =>
      have hne := Binary.value_ne_zero (b := ⟨s' == .negative, m', e'⟩) hm'
      cases s' <;> simp_all [UnpackedFloat.beq, UnpackedFloat.compare, amountOf?]
    | infinity s' => cases s' <;> simp [UnpackedFloat.beq, UnpackedFloat.compare, amountOf?]
    | zero s' => simp [UnpackedFloat.beq, UnpackedFloat.compare, amountOf?]
    | notANumber => simp [UnpackedFloat.beq, UnpackedFloat.compare, amountOf?]

theorem amount?_eq_none_iff {x : Float} : amount? x = none ↔ x.isNaN = true := by
  have hnan : x.isNaN = x.toModel.unpack.isNaN := rfl
  rw [amount?, hnan]
  cases x.toModel.unpack <;> simp [amountOf?, UnpackedFloat.isNaN]

theorem beq_self_iff {x : Float} : (x == x) = true ↔ ¬x.isNaN = true := by
  rw [beq_iff_amount?, ← amount?_eq_none_iff]
  cases amount? x <;> simp

theorem compareInt?_eq_eq_iff {n : Int} {x : Float} :
    compareInt? n x = some .eq ↔ amount? x = some (.finite n) := by
  rw [amount?_eq_finite_iff, compareInt?]
  cases h : Binary.ofFloat? x with
  | none =>
    simp only [reduceCtorEq, false_and, exists_false, iff_false]
    split
    · simp
    · split <;> simp
  | some b =>
    have hscale : (2 : ℚ) ^ b.exponent * 2 ^ (-b.exponent).toNat = 2 ^ b.exponent.toNat := by
      rw [← zpow_natCast, ← zpow_natCast, ← zpow_add₀ (by norm_num)]
      congr 1
      omega
    have hden : (0 : ℚ) < 2 ^ (-b.exponent).toNat := by positivity
    have hvalue : b.value * 2 ^ (-b.exponent).toNat =
        if b.negative then -((b.mantissa : ℚ) * 2 ^ b.exponent.toNat)
        else b.mantissa * 2 ^ b.exponent.toNat := by
      rw [Binary.value, ← hscale]
      split <;> ring
    have hiff : b.value = n ↔ (n : ℚ) * 2 ^ (-b.exponent).toNat =
        b.value * 2 ^ (-b.exponent).toNat :=
      ⟨fun hq ↦ by rw [hq], fun hq ↦ (mul_right_cancel₀ hden.ne' hq).symm⟩
    simp only [Option.some.injEq, exists_eq_left', Binary.ratio]
    rw [hiff, hvalue, Int.compare_eq_eq]
    split
    · norm_cast
    · norm_cast

end Provisioning.Decimal
