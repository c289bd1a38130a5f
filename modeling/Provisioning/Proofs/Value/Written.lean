import Mathlib.Algebra.Group.Nat.Defs
import Provisioning.Value.Written

/-!
Which values can be written as text: a value that holds whole numbers can if each of them has few
enough digits.
-/

set_option autoImplicit false

namespace Provisioning

theorem Decimal.fits_iff {d n : Nat} : fits d n = true ↔ n < 10 ^ d := by
  induction d generalizing n with
  | zero => simp [fits]
  | succ d ih =>
    have hpos : 0 < 10 ^ d := Nat.pow_pos (by decide)
    rw [fits, Bool.or_eq_true, ih, Nat.div_lt_iff_lt_mul (by decide), ← Nat.pow_succ,
      Nat.beq_eq_true_eq]
    exact ⟨fun h ↦ h.elim (fun hzero ↦ by omega) id, .inr⟩

namespace Value

theorem isWritable_int_iff {n : Int} :
    (int n).isWritable = true ↔ n.natAbs < 10 ^ Decimal.maxDigits :=
  Decimal.fits_iff

/-- In a dictionary that can be written, so can both parts of each entry. -/
theorem isWritable_of_mem_dict {es : List (Value × Value)} (h : (dict es).isWritable = true)
    {e : Value × Value} (he : e ∈ es) : e.1.isWritable = true ∧ e.2.isWritable = true := by
  replace h : areWritableEntries es = true := h
  induction es with
  | nil => cases he
  | cons e' rest ih =>
    simp only [areWritableEntries, Bool.and_eq_true] at h
    rcases List.mem_cons.mp he with rfl | he
    · exact h.1
    · exact ih he h.2

end Value
end Provisioning
