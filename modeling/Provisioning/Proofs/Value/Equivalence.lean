import Mathlib.Data.Fintype.EquivFin
import Provisioning.Proofs.Value.Merge

/-!
Sameness of sound values is symmetric, and so is their equality. Dictionaries are compared one way,
each entry of the first with all entries of the second; that the way back holds as well is a matter
of counting. No two entries of the first have the same partner, since their keys are not equal, so
among as many entries none of the second is left without one.
-/

set_option autoImplicit false

namespace Provisioning

section Partners

variable {α β : Type} {r : α → β → Prop} {xs : List α} {ys : List β}

/-- Items that each have a partner, and none the same, have partners at different places. -/
theorem exists_injective_of_partners (hfound : ∀ x ∈ xs, ∃ y ∈ ys, r x y)
    (hapart : xs.Pairwise fun x x' ↦ ∀ y ∈ ys, r x y → ¬r x' y) :
    ∃ partner : Fin xs.length → Fin ys.length,
      Function.Injective partner ∧ ∀ i, r (xs.get i) (ys.get (partner i)) := by
  have hplace (i : Fin xs.length) : ∃ j, r (xs.get i) (ys.get j) := by
    obtain ⟨y, hy, hxy⟩ := hfound (xs.get i) (xs.get_mem i)
    obtain ⟨j, rfl⟩ := List.get_of_mem hy
    exact ⟨j, hxy⟩
  choose partner hpartner using hplace
  refine ⟨partner, fun i j hij ↦ ?_, hpartner⟩
  have hapart' {i j : Fin xs.length} (hlt : i < j) : partner i ≠ partner j := by
    intro heq
    refine List.pairwise_iff_get.mp hapart i j hlt _ (ys.get_mem _) (hpartner i) ?_
    rw [heq]
    exact hpartner j
  rcases lt_trichotomy i j with hlt | heq | hlt
  · exact absurd hij (hapart' hlt)
  · exact heq
  · exact absurd hij.symm (hapart' hlt)

theorem length_le_of_partners (hfound : ∀ x ∈ xs, ∃ y ∈ ys, r x y)
    (hapart : xs.Pairwise fun x x' ↦ ∀ y ∈ ys, r x y → ¬r x' y) : xs.length ≤ ys.length := by
  obtain ⟨_, hinjective, _⟩ := exists_injective_of_partners hfound hapart
  simpa using Fintype.card_le_of_injective _ hinjective

/-- Where the items are as many as the partners, no partner is left over. -/
theorem exists_of_partners (hfound : ∀ x ∈ xs, ∃ y ∈ ys, r x y)
    (hapart : xs.Pairwise fun x x' ↦ ∀ y ∈ ys, r x y → ¬r x' y) (hlength : xs.length = ys.length)
    {y : β} (hy : y ∈ ys) : ∃ x ∈ xs, r x y := by
  obtain ⟨partner, hinjective, hpartner⟩ := exists_injective_of_partners hfound hapart
  have hbijective : Function.Bijective partner :=
    (Fintype.bijective_iff_injective_and_card partner).mpr ⟨hinjective, by simpa using hlength⟩
  obtain ⟨j, rfl⟩ := List.get_of_mem hy
  obtain ⟨i, rfl⟩ := hbijective.surjective j
  exact ⟨xs.get i, xs.get_mem i, hpartner i⟩

end Partners

namespace Value

/-- A value whose dictionaries have no two equal keys, at every depth. -/
inductive IsSound : Value → Prop
  | atom {v : Value} (h : v.isAtomic = true) : IsSound v
  | list {xs : List Value} (items : ∀ x ∈ xs, IsSound x) : IsSound (list xs)
  | tuple {xs : List Value} (items : ∀ x ∈ xs, IsSound x) : IsSound (tuple xs)
  | dict {es : List (Value × Value)} (keys : HasDistinctKeys es)
      (values : ∀ e ∈ es, IsSound e.2) : IsSound (dict es)
  | payload {b : Bytes} {c : Value} (contentType : IsSound c) : IsSound (payload b c)

theorem sameItems_symm_of_forall {xs ys : List Value}
    (h : ∀ x ∈ xs, ∀ {y}, same x y = true → same y x = true) (hsame : sameItems xs ys = true) :
    sameItems ys xs = true := by
  induction xs generalizing ys with
  | nil =>
    cases ys with
    | nil => rfl
    | cons y ys => cases hsame
  | cons x xs ih =>
    cases ys with
    | nil => cases hsame
    | cons y ys =>
      obtain ⟨hx, hxs⟩ := List.forall_mem_cons.mp h
      obtain ⟨hhead, htail⟩ := Bool.and_eq_true_iff.mp hsame
      exact Bool.and_eq_true_iff.mpr ⟨hx hhead, ih hxs htail⟩

/-- Among entries no two of which have equal keys, no two are equal to the same entry. -/
theorem HasDistinctKeys.pairwise_apart {es fs : List (Value × Value)} (h : HasDistinctKeys es) :
    es.Pairwise fun e e' ↦ ∀ f ∈ fs, same e.1 f.1 = true ∧ same e.2 f.2 = true →
      ¬(same e'.1 f.1 = true ∧ same e'.2 f.2 = true) := by
  refine (List.pairwise_map.mp h.distinct).imp_of_mem ?_
  rintro e e' - he' hne f - ⟨hkey, -⟩ ⟨hkey', -⟩
  have hback := same_symm (h.isKey e'.1 (List.mem_map_of_mem he')) hkey'
  exact hne (same_trans hkey hback)

/-- Sameness is symmetric where the first value is sound. -/
theorem IsSound.symm {v w : Value} (hv : IsSound v) (h : same v w = true) : same w v = true := by
  induction hv generalizing w with
  | atom hatom => exact same_symm_of_isAtomic hatom h
  | list _ ih =>
    obtain ⟨ys, rfl, hitems⟩ := same_list_iff.mp h
    exact same_list_iff.mpr ⟨_, rfl, sameItems_symm_of_forall ih hitems⟩
  | tuple _ ih =>
    obtain ⟨ys, rfl, hitems⟩ := same_tuple_iff.mp h
    exact same_tuple_iff.mpr ⟨_, rfl, sameItems_symm_of_forall ih hitems⟩
  | dict hkeys _ ih =>
    obtain ⟨fs, rfl, hlength, hentries⟩ := same_dict_iff.mp h
    refine same_dict_iff.mpr ⟨_, rfl, hlength.symm, sameEntries_iff.mpr fun f hf ↦ ?_⟩
    obtain ⟨e, he, hkey, hvalue⟩ :=
      exists_of_partners (sameEntries_iff.mp hentries) hkeys.pairwise_apart hlength hf
    exact ⟨e, he, same_symm (hkeys.isKey e.1 (List.mem_map_of_mem he)) hkey, ih e he hvalue⟩
  | payload _ ih =>
    obtain ⟨d, rfl, hc⟩ := same_payload_iff.mp h
    exact same_payload_iff.mpr ⟨_, rfl, ih hc⟩

theorem IsSound.equals_symm {v w : Value} (hv : IsSound v) (h : v.equals w = true) :
    w.equals v = true := by
  obtain ⟨hsame, hself⟩ := Bool.and_eq_true_iff.mp h
  exact Bool.and_eq_true_iff.mpr ⟨hv.symm hsame, (equalsItself_congr hsame).symm.trans hself⟩

theorem equals_trans {u v w : Value} (huv : u.equals v = true) (hvw : v.equals w = true) :
    u.equals w = true := by
  obtain ⟨hsame, hself⟩ := Bool.and_eq_true_iff.mp huv
  exact Bool.and_eq_true_iff.mpr ⟨same_trans hsame (Bool.and_eq_true_iff.mp hvw).1, hself⟩

end Value
end Provisioning
