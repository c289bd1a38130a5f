import Provisioning.Validation.Check

/-!
What a check is known to have let through. A check of several parts lets a value through just if the
check of every part does, so that an accepted record can be taken apart field by field.
-/

set_option autoImplicit false

namespace Provisioning.Validation

namespace Checked

variable {α β : Type}

theorem seq_eq_good_iff {f : Checked (α → β)} {x : Checked α} {b : β} :
    f <*> x = good b ↔ ∃ g a, f = good g ∧ x = good a ∧ g a = b := by
  change f.seq (fun _ ↦ x) = good b ↔ _
  cases f <;> cases x <;> simp [seq]

theorem map_eq_good_iff {f : α → β} {x : Checked α} {b : β} :
    f <$> x = good b ↔ ∃ a, x = good a ∧ f a = b := by
  change x.map f = good b ↔ _
  cases x <;> simp [map]

theorem under_eq_good_iff {s : Step} {x : Checked α} {a : α} :
    x.under s = good a ↔ x = good a := by
  cases x <;> simp [under]

theorem eq_good_of_also {x : Checked α} {u : Checked Unit} {a : α} (h : x.also u = good a) :
    x = good a := by
  obtain ⟨g, _, hg, _, rfl⟩ := seq_eq_good_iff.mp h
  obtain ⟨b, hb, rfl⟩ := map_eq_good_iff.mp hg
  exact hb

theorem eq_good_of_toExcept [Reader] {title : String} {x : Checked α} {a : α}
    (h : x.toExcept title = .ok a) : x = good a := by
  cases x with
  | good b =>
    cases h
    rfl
  | bad issues => cases h

end Checked

variable {α β : Type}

/-- What was accepted, if it was. -/
def Checked.good? : Checked α → Option α
  | .good a => some a
  | .bad _ => none

@[simp]
theorem Checked.good?_good (a : α) : (good a).good? = some a := rfl

theorem eq_good_of_field {c : Check α} {es : List (Value × Value)} {name : String} {default a : α}
    {v : Value} (h : field es name default c = .good a) (hv : find? es name = some v) :
    c v = .good a := by
  rw [field, hv] at h
  exact Checked.under_eq_good_iff.mp h

/-- A field that may be left out holds something if there is something. -/
theorem exists_good_of_field {c : Check α} {es : List (Value × Value)} {name : String}
    {x : Option α} {v : Value} (h : field es name none (optional c) = .good x)
    (hv : find? es name = some v) (hnull : v ≠ .null) : ∃ a, c v = .good a ∧ x = some a := by
  have hmap : optional c v = (c v).map some := by
    cases v with
    | null => exact absurd rfl hnull
    | _ => rfl
  obtain ⟨a, ha, rfl⟩ := Checked.map_eq_good_iff.mp (hmap.symm.trans (eq_good_of_field h hv))
  exact ⟨a, ha, rfl⟩

/-- What is made of a field that may be left out is made of its value, if there is one. -/
theorem exists_good?_map_of_field {c : Check α} {es : List (Value × Value)} {name : String}
    {x : Option α} {v : Value} {g : α → β} (hv : find? es name = some v) (hnull : v ≠ .null)
    (h : field es name none (optional c) = .good x) :
    ∃ y, (c v).good?.map g = some y ∧ x.map g = some y := by
  obtain ⟨a, ha, rfl⟩ := exists_good_of_field h hv hnull
  exact ⟨g a, by rw [ha]; rfl, rfl⟩

/-- A check lets through only what has a property. -/
def Check.Ensures (c : Check α) (P : α → Prop) : Prop :=
  ∀ v a, c v = .good a → P a

namespace Check.Ensures

variable {c : Check α} {P : α → Prop}

theorem andThen {f : α → Except Rule β} {Q : β → Prop} (hf : ∀ a b, f a = .ok b → Q b) :
    (c.andThen f).Ensures Q := by
  intro v b h
  simp only [Check.andThen] at h
  split at h
  · next a _ =>
    split at h
    · next b' hb =>
      cases h
      exact hf a b hb
    · cases h
  · cases h

theorem optional (hc : c.Ensures P) : (optional c).Ensures fun x ↦ ∀ a ∈ x, P a := by
  intro v x h a ha
  cases v with
  | null =>
    cases h
    cases ha
  | _ =>
    obtain ⟨b, hb, rfl⟩ := Checked.map_eq_good_iff.mp h
    cases ha
    exact hc _ a hb

theorem items (hc : c.Ensures P) {n : Nat} {vs : List Value} {xs : List α}
    (h : items c n vs = .good xs) : ∀ x ∈ xs, P x := by
  induction vs generalizing n xs with
  | nil =>
    cases h
    simp
  | cons v vs ih =>
    obtain ⟨g, rest, hg, hrest, rfl⟩ := Checked.seq_eq_good_iff.mp h
    obtain ⟨y, hy, rfl⟩ := Checked.map_eq_good_iff.mp hg
    exact List.forall_mem_cons.mpr ⟨hc v y (Checked.under_eq_good_iff.mp hy), ih hrest⟩

theorem list [Reader] (hc : c.Ensures P) : (list c).Ensures fun xs ↦ ∀ x ∈ xs, P x := by
  intro v xs h
  rw [Validation.list] at h
  split at h
  · exact hc.items h
  · cases h

/-- A dictionary that is let through has every key once. -/
theorem dict [Reader] (c : Check α) : (dict c).Ensures fun t ↦ t.keys.Nodup := by
  intro v t h
  rw [Validation.dict] at h
  split at h
  · obtain ⟨checked, _, rfl⟩ := Checked.map_eq_good_iff.mp h
    exact Table.nodup_keys_ofList checked
  · cases h

theorem record {title : String} {c : List (Value × Value) → Checked α}
    (hc : ∀ es a, c es = .good a → P a) : (record title c).Ensures P := by
  intro v a h
  cases v with
  | dict es => exact hc es a h
  | _ => cases h

theorem required (hc : c.Ensures P) {es : List (Value × Value)} {name : String} {a : α}
    (h : required es name c = .good a) : P a := by
  simp only [Validation.required] at h
  split at h
  · exact hc _ a (Checked.under_eq_good_iff.mp h)
  · cases h

/-- What holds of the default of a field and of whatever its check lets through holds of the field.
-/
theorem field (hc : c.Ensures P) {es : List (Value × Value)} {name : String} {default a : α}
    (hdefault : P default) (h : field es name default c = .good a) : P a := by
  simp only [Validation.field] at h
  split at h
  · exact hc _ a (Checked.under_eq_good_iff.mp h)
  · cases h
    exact hdefault

end Check.Ensures

theorem natural_ensures [Reader] {bound : Nat} : (natural (some bound)).Ensures fun n ↦ n ≤ bound := by
  refine Check.Ensures.andThen fun m n h ↦ ?_
  split at h
  · cases h
  · simp only at h
    split at h
    · cases h
      omega
    · cases h

/-- A number that is let through as positive is above zero. -/
theorem positive_ensures [Reader] : positive.Ensures fun x ↦ 0 < x := by
  refine Check.Ensures.andThen fun x y h ↦ ?_
  split at h
  · next hpos =>
    cases h
    exact hpos
  · cases h

end Provisioning.Validation
