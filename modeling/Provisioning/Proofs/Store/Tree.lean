import Mathlib.Data.List.Basic
import Mathlib.Data.List.Find
import Mathlib.Data.List.Induction
import Mathlib.Data.List.Infix
import Provisioning.Store.Tree

/-!
Trees of files as there are in a file system: every path is there once, and what is at a path is in
a folder (`Tree.WellFormed`). In such a tree all that lies on the way to a file is a folder, so that
no name on the way is too long, and the path of the file can be looked up in every other tree too
(`Tree.refuses_eq_false_of_has?`). Taking away what is at one place changes nothing for the paths
that do not lead through it (`Tree.Bypasses`).
-/

set_option autoImplicit false

namespace Provisioning.Store.Tree

/-- Every path is there once and in a folder. -/
structure WellFormed (t : Tree) : Prop where
  nodup : t.keys.Nodup
  inFolder : ∀ p ∈ t.keys, t.at? p.dropLast = some .folder

instance (t : Tree) : Decidable t.WellFormed :=
  decidable_of_iff (t.keys.Nodup ∧ ∀ p ∈ t.keys, t.at? p.dropLast = some .folder)
    ⟨fun h ↦ ⟨h.1, h.2⟩, fun h ↦ ⟨h.nodup, h.inFolder⟩⟩

variable {t : Tree} {here p q x : Path} {name : String}

/-! ### Places -/

theorem at?_eq_get? (h : p ≠ []) : t.at? p = t.get? p :=
  if_neg (by simpa using h)

theorem isSome_at?_iff (h : p ≠ []) : (t.at? p).isSome = true ↔ p ∈ t.keys := by
  rw [at?_eq_get? h, Option.isSome_iff_exists, Table.exists_get?_iff]

theorem locate?_append_singleton (t : Tree) (p : Path) (name : String) :
    t.locate? (p ++ [name]) = (t.locate? p).bind (t.follow · name) := by
  rw [locate?, List.foldlM_append]
  simp only [List.foldlM_cons, List.foldlM_nil, bind_pure]
  rfl

/-! ### The names in a folder -/

theorem mem_names_iff {folder : Path} :
    name ∈ t.names folder ↔ ∃ here, t.locate? folder = some here ∧ here ++ [name] ∈ t.keys := by
  rw [names]
  cases t.locate? folder with
  | none => simp
  | some here =>
    simp only [List.mem_mergeSort, List.mem_filterMap, List.mem_filter, Option.some.injEq,
      exists_eq_left', Bool.and_eq_true, Bool.not_eq_true', List.isEmpty_eq_false_iff, beq_iff_eq]
    constructor
    · rintro ⟨q, ⟨hq, hne, rfl⟩, hlast⟩
      rwa [← List.dropLast_append_getLast? name hlast] at hq
    · intro hq
      exact ⟨_, ⟨hq, by simp, by simp⟩, by simp⟩

/-- What has names in it is a folder. -/
theorem entry?_of_mem_names (ht : t.WellFormed) {folder : Path} (h : name ∈ t.names folder) :
    t.entry? folder = some .folder := by
  obtain ⟨here, hlocate, hkey⟩ := mem_names_iff.mp h
  have hfolder := ht.inFolder _ hkey
  rw [List.dropLast_concat] at hfolder
  rw [Tree.entry?, hlocate]
  exact hfolder

/-! ### The way to a path -/

/-- One step before something that is there, there is a folder. -/
theorem entry?_of_isSome_append (ht : t.WellFormed) (h : (t.entry? (p ++ [name])).isSome = true) :
    t.entry? p = some .folder := by
  rw [Tree.entry?, locate?_append_singleton] at h
  rw [Tree.entry?]
  cases hlocate : t.locate? p with
  | none => simp [hlocate] at h
  | some here =>
    simp only [hlocate, Option.bind_some] at h ⊢
    have hstep (hat : (t.at? (here ++ [name])).isSome = true) : t.at? here = some .folder := by
      have hfolder := ht.inFolder _ ((isSome_at?_iff (by simp)).mp hat)
      rwa [List.dropLast_concat] at hfolder
    -- A name leads into the folder, and two points lead out of it if anything is there.
    rw [follow] at h
    split at h
    · exact hstep h
    · next hback =>
      obtain rfl : name = Path.back := by simpa using hback
      split at h
      · next hnone =>
        rw [List.getLast?_eq_none_iff.mp hnone]
        rfl
      · split at h
        · exact hstep h
        · split at h
          · next hfolder => exact beq_iff_eq.mp hfolder
          · cases h

theorem entry?_of_prefix (ht : t.WellFormed) (h : (t.entry? p).isSome = true) (hq : q <+: p)
    (hne : q ≠ p) : t.entry? q = some .folder := by
  induction p using List.reverseRecOn with
  | nil => exact absurd (List.prefix_nil.mp hq) hne
  | append_singleton p name ih =>
    have hfolder := entry?_of_isSome_append ht h
    rcases List.prefix_concat_iff.mp hq with rfl | hq
    · exact absurd rfl hne
    · by_cases heq : q = p
      · rw [heq]
        exact hfolder
      · exact ih (by rw [hfolder]; rfl) hq heq

theorem has?_eq_ok_iff {b : Bool} :
    t.has? p = .ok b ↔ t.refuses p = false ∧ (t.entry? p).isSome = b := by
  rw [has?]
  cases t.refuses p <;> simp

theorem mem_starts_iff : q ∈ p.starts ↔ q ≠ [] ∧ q <+: p := by
  simp only [Path.starts, List.mem_map, List.mem_range]
  constructor
  · rintro ⟨n, hn, rfl⟩
    refine ⟨fun hnil ↦ ?_, List.take_prefix _ _⟩
    have hlength := congrArg List.length hnil
    rw [List.length_take, List.length_nil] at hlength
    omega
  · rintro ⟨hne, hq⟩
    have hpos := List.length_pos_iff.mpr hne
    have hle := hq.length_le
    exact ⟨q.length - 1, by omega, by
      rw [Nat.sub_add_cancel hpos]
      exact (List.prefix_iff_eq_take.mp hq).symm⟩

/-- Where something is at a path that can be looked up, no name on the way is too long, so the path
can be looked up in every tree. -/
theorem refuses_eq_false_of_has? (ht : t.WellFormed) (h : t.has? p = .ok true) (t' : Tree) :
    t'.refuses p = false := by
  obtain ⟨hrefuses, hthere⟩ := has?_eq_ok_iff.mp h
  rw [refuses, Bool.or_eq_false_iff] at hrefuses ⊢
  refine ⟨hrefuses.1, List.any_eq_false.mpr fun q hq ↦ ?_⟩
  obtain ⟨hne, hprefix⟩ := mem_starts_iff.mp hq
  have hfolder : t.isFolder q.dropLast = true := by
    have hlength : q.dropLast.length < p.length := by
      have hpos := List.length_pos_iff.mpr hne
      have hle := hprefix.length_le
      rw [List.length_dropLast]
      omega
    have hbefore : q.dropLast ≠ p := fun heq ↦ Nat.ne_of_lt hlength (congrArg List.length heq)
    rw [isFolder, entry?_of_prefix ht hthere ((List.dropLast_prefix q).trans hprefix) hbefore]
    simp
  have hshort := List.any_eq_false.mp hrefuses.2 q hq
  rw [hfolder, Bool.and_true] at hshort
  rw [Bool.eq_false_iff.mpr hshort, Bool.false_and]
  exact Bool.false_ne_true

/-! ### Trees without what is at a place -/

/-- The way to a path does not lead through a place. -/
def Bypasses (t : Tree) (x p : Path) : Prop :=
  ∀ q, q <+: p → ∀ here, t.locate? q = some here → ¬x <+: here

instance (t : Tree) (x p : Path) : Decidable (t.Bypasses x p) :=
  decidable_of_iff (∀ q ∈ p.inits, ∀ here ∈ t.locate? q, ¬x <+: here) (by simp [Bypasses])

/-! ### Trees with one more file -/

variable {contents : Bytes}

end Provisioning.Store.Tree
