import Mathlib
import Provisioning.Text.Case

/-!
Letter case within ASCII. What does not tell the capital from the small letters of ASCII does not
depend on their case at all (`apply_toLower`). The small form of a text is of that kind.
-/

set_option autoImplicit false

namespace Provisioning.Text

/-- What is the same for the capital and the small letters of ASCII does not depend on the case: no
other characters are changed. -/
theorem apply_toLower {α : Type} {p : Char → α}
    (h : ∀ n < 26, p (Char.ofNat (97 + n)) = p (Char.ofNat (65 + n))) (c : Char) :
    p c.toLower = p c := by
  by_cases hupper : c.isUpper
  · have hbounds : 65 ≤ c.toNat ∧ c.toNat ≤ 90 := by
      simpa [Char.isUpper, UInt32.le_iff_toNat_le] using hupper
    obtain ⟨n, hn, rfl⟩ : ∃ n < 26, c = Char.ofNat (65 + n) :=
      ⟨c.toNat - 65, by omega, by rw [Nat.add_sub_cancel' hbounds.1, Char.ofNat_toNat]⟩
    have hlower : ∀ n < 26, (Char.ofNat (65 + n)).toLower = Char.ofNat (97 + n) := by decide
    rw [hlower n hn, h n hn]
  · rw [Char.toLower_eq_of_not_isUpper hupper]

theorem lowerChar_toLower (c : Char) : lowerChar c.toLower = lowerChar c :=
  apply_toLower (by decide +kernel) c

theorem hasCase_toLower (c : Char) : hasCase c.toLower = hasCase c :=
  apply_toLower (by decide +kernel) c

theorem isTransparent_toLower (c : Char) : isTransparent c.toLower = isTransparent c :=
  apply_toLower (by decide +kernel) c

theorem endsWord_toLower (before after : List Char) :
    endsWord (before.map Char.toLower) (after.map Char.toLower) = endsWord before after := by
  have hhead (cs : List Char) : ((cs.map Char.toLower).dropWhile isTransparent).head?.any hasCase =
      (cs.dropWhile isTransparent).head?.any hasCase := by
    have htransparent : isTransparent ∘ Char.toLower = isTransparent := funext isTransparent_toLower
    have hcase : (fun c : Char ↦ hasCase c.toLower) = hasCase := funext hasCase_toLower
    rw [List.dropWhile_map, List.head?_map, Option.any_map, htransparent, hcase]
  rw [endsWord, hhead, hhead, endsWord]

theorem lowerFrom_toLower (before cs : List Char) :
    lowerFrom (before.map Char.toLower) (cs.map Char.toLower) = lowerFrom before cs := by
  induction cs generalizing before with
  | nil => rfl
  | cons c cs ih =>
    have hsigma : (c.toLower == 'Σ') = (c == 'Σ') :=
      apply_toLower (p := (· == 'Σ')) (by decide) c
    rw [List.map_cons, lowerFrom, hsigma, endsWord_toLower, lowerChar_toLower, ← List.map_cons, ih,
      lowerFrom]

theorem toList_toLower (s : String) : s.toLower.toList = s.toList.map Char.toLower :=
  String.toList_map

/-- The small form of a text does not depend on the case of its ASCII letters. -/
theorem toLower_toLower (s : String) : toLower s.toLower = toLower s := by
  rw [toLower, toList_toLower, toLower]
  exact congrArg _ (lowerFrom_toLower [] s.toList)

/-- A text of characters that are their own small forms is its own small form. -/
theorem toLower_eq_self {s : String} (h : ∀ c ∈ s.toList, c ≠ 'Σ' ∧ lowerChar c = [c]) :
    toLower s = s := by
  have hlower (cs : List Char) (hcs : ∀ c ∈ cs, c ≠ 'Σ' ∧ lowerChar c = [c])
      (before : List Char) : lowerFrom before cs = cs := by
    induction cs generalizing before with
    | nil => rfl
    | cons c cs ih =>
      obtain ⟨⟨hsigma, hc⟩, hcs⟩ := List.forall_mem_cons.mp hcs
      have hsigma : (c == 'Σ') = false := beq_eq_false_iff_ne.mpr hsigma
      rw [lowerFrom, hsigma, Bool.false_and, if_neg Bool.false_ne_true, hc, ih hcs,
        List.singleton_append]
  rw [toLower, hlower _ h, String.ofList_toList]

end Provisioning.Text
