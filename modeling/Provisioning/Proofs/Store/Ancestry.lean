import Provisioning.Proofs.Store.Lineage
import Provisioning.Proofs.Value.Equivalence

/-!
Lineages between names of any kind. A walk comes to an end before its bound is used up, since the
names on the way are found under different keys (`exists_lineageWithin`). So what becomes of a name
depends only on what is found under the names that the walk from it may come to (`lineage_congr`),
and a lineage is the list of definitions that the step from each to its parent describes
(`lineage_eq_ok_iff`).
-/

set_option autoImplicit false

namespace Provisioning

namespace Store

open Value (IsKey same same_symm same_trans get?_congr)

variable {templates templates' : Table Value Definition} {name v : Value}

/-! ### The walk from a name -/

/-- The names that the walk from `name` may come to: the parent of each that is found is the next. -/
inductive OnChain (templates : Table Value Definition) (name : Value) : Value → Prop
  | self : OnChain templates name name
  | parent {v parent : Value} {d : Definition} (hv : OnChain templates name v)
      (hget : templates.get? v = some d) (hparent : d.parent? = some parent) :
      OnChain templates name parent

theorem OnChain.of_parent {d : Definition} {parent : Value} (hget : templates.get? name = some d)
    (hparent : d.parent? = some parent) (hv : OnChain templates parent v) :
    OnChain templates name v := by
  induction hv with
  | self => exact .parent .self hget hparent
  | parent _ hget hparent ih => exact .parent ih hget hparent

/-- Tables that agree on the names on the way give the same answer. -/
theorem lineageWithin_congr (h : ∀ v, OnChain templates name v → IsKey v →
    templates'.get? v = templates.get? v) (bound : Nat) (visited : List Value) :
    lineageWithin templates' bound visited name = lineageWithin templates bound visited name := by
  induction bound generalizing visited name with
  | zero => rfl
  | succ bound ih =>
    rw [lineageWithin, lineageWithin]
    split
    · rfl
    · cases hkind : name.unhashable? with
      | some kindName => rfl
      | none =>
        rw [h name .self hkind]
        cases hget : templates.get? name with
        | none => rfl
        | some d =>
          cases hparent : d.parent? with
          | none => simp only [hparent]
          | some parent =>
            simp only [hparent]
            rw [ih fun v hv ↦ h v (hv.of_parent hget hparent)]

/-- Names on the way here, of which each is found and no two are equal. -/
structure Passed (templates : Table Value Definition) (visited : List Value) : Prop where
  isKey : ∀ u ∈ visited, IsKey u
  found : ∀ u ∈ visited, ∃ k ∈ Table.keys templates, same k u = true
  distinct : visited.Pairwise fun u v ↦ ¬same u v = true

theorem Passed.length_le {visited : List Value} (h : Passed templates visited)
    (hkeys : ∀ k ∈ Table.keys templates, IsKey k) : visited.length ≤ templates.length := by
  have hle : visited.length ≤ (Table.keys templates).length := by
    refine length_le_of_partners h.found (h.distinct.imp fun hne k hk hku hkv ↦ hne ?_)
    exact same_trans (same_symm (hkeys k hk) hku) hkv
  rwa [Table.keys, List.length_map] at hle

theorem Passed.snoc {visited : List Value} {d : Definition} (h : Passed templates visited)
    (hnew : visited.contains name = false) (hkey : IsKey name)
    (hget : templates.get? name = some d) : Passed templates (visited ++ [name]) := by
  obtain ⟨k, hsame, hmem⟩ := Table.exists_mem_of_get? hget
  refine ⟨List.forall_mem_append.mpr ⟨h.isKey, ?_⟩, List.forall_mem_append.mpr ⟨h.found, ?_⟩, ?_⟩
  · exact fun u hu ↦ List.mem_singleton.mp hu ▸ hkey
  · exact fun u hu ↦ List.mem_singleton.mp hu ▸ ⟨k, List.mem_map_of_mem hmem, hsame⟩
  · refine List.pairwise_append.mpr ⟨h.distinct, List.pairwise_singleton _ _, ?_⟩
    intro u hu w hw hback
    obtain rfl := List.mem_singleton.mp hw
    refine Bool.eq_false_iff.mp hnew (List.contains_iff_exists_mem_beq.mpr ⟨u, hu, ?_⟩)
    exact same_symm (h.isKey u hu) hback

/-- With a bound that makes up for the names on the way here, the walk comes to an end. -/
theorem exists_lineageWithin (hkeys : ∀ k ∈ Table.keys templates, IsKey k) {bound : Nat}
    {visited : List Value} (hvisited : Passed templates visited)
    (hbound : templates.length < bound + visited.length) (name : Value) :
    ∃ r, lineageWithin templates bound visited name = some r := by
  induction bound generalizing visited name with
  | zero =>
    have hle := hvisited.length_le hkeys
    omega
  | succ bound ih =>
    rw [lineageWithin]
    cases hagain : visited.contains name with
    | true => exact ⟨_, rfl⟩
    | false =>
      rw [if_neg Bool.false_ne_true]
      cases hkind : name.unhashable? with
      | some kindName => exact ⟨_, rfl⟩
      | none =>
        cases hget : templates.get? name with
        | none => exact ⟨_, rfl⟩
        | some d =>
          cases hparent : d.parent? with
          | none => exact ⟨.ok [d], by simp only [hparent]⟩
          | some parent =>
            have hlength : (visited ++ [name]).length = visited.length + 1 := by simp
            obtain ⟨r, hr⟩ := ih (hvisited.snoc hagain hkind hget) (by omega) parent
            exact ⟨r.map (d :: ·), by simp only [hparent, hr, Option.map_some]⟩

variable {s s' : Store}

theorem exists_lineage_of_isKey (hkeys : ∀ k ∈ Table.keys s.templates, IsKey k) (name : Value) :
    ∃ r, s.lineage name = r ∧
      ∀ bound, s.templates.length < bound →
        lineageWithin s.templates bound [] name = some r := by
  have hnone : Passed s.templates [] := ⟨nofun, nofun, .nil⟩
  have hbound : s.templates.length < s.templates.length + 1 + ([] : List Value).length :=
    Nat.lt_succ_self _
  obtain ⟨r, hr⟩ := exists_lineageWithin hkeys hnone hbound name
  exact ⟨r, by rw [lineage, hr, Option.getD_some], fun bound hbound ↦ lineageWithin_mono hr hbound⟩

/-- Stores that find the same under the names on the way answer the same. -/
theorem lineage_congr (hkeys : ∀ k ∈ Table.keys s.templates, IsKey k)
    (hkeys' : ∀ k ∈ Table.keys s'.templates, IsKey k)
    (h : ∀ v, OnChain s.templates name v → IsKey v → s'.templates.get? v = s.templates.get? v) :
    s'.lineage name = s.lineage name := by
  obtain ⟨r, hr, hwithin⟩ := exists_lineage_of_isKey hkeys name
  obtain ⟨r', hr', hwithin'⟩ := exists_lineage_of_isKey hkeys' name
  have hboth := hwithin' (s.templates.length + s'.templates.length + 1) (by omega)
  rw [lineageWithin_congr h, hwithin _ (by omega)] at hboth
  rw [hr, hr', Option.some.inj hboth]

theorem template_congr [Validation.Reader] (h : s'.lineage name = s.lineage name) :
    s'.template name = s.template name := by
  rw [template, template, resolve, resolve, h]

theorem build_congr [Domain.SuffixList] [Validation.Reader] [Script.Engine]
    (hsettings : s'.settings = s.settings) (h : s'.lineage name = s.lineage name)
    (registry : Option Provider.Registry) (now : Nat) :
    s'.build name registry now = s.build name registry now := by
  have hregistry : s'.defaultRegistry = s.defaultRegistry := by
    rw [defaultRegistry, defaultRegistry, hsettings]
  have hprovider (spec : Template.Spec) : s'.providerOf spec = s.providerOf spec := by
    rw [providerOf, providerOf, hsettings]
  simp only [build, template_congr h, hregistry, hprovider]

/-! ### Lineages step by step -/

/-- The definitions from a name on, by the step from each to its parent. -/
inductive IsLineage (templates : Table Value Definition) : Value → List Definition → Prop
  | root {v : Value} {d : Definition} (hkey : IsKey v) (hget : templates.get? v = some d)
      (hroot : d.parent? = none) : IsLineage templates v [d]
  | step {v parent : Value} {d : Definition} {ds : List Definition} (hkey : IsKey v)
      (hget : templates.get? v = some d) (hparent : d.parent? = some parent)
      (hrest : IsLineage templates parent ds) : IsLineage templates v (d :: ds)

namespace IsLineage

variable {ds es : List Definition}

theorem isKey (h : IsLineage templates v ds) : IsKey v := by
  cases h <;> assumption

theorem unique (h : IsLineage templates v ds) (h' : IsLineage templates v es) : ds = es := by
  induction h generalizing es with
  | root hkey hget hroot =>
    cases h' with
    | root _ hget' _ =>
      cases hget.symm.trans hget'
      rfl
    | step _ hget' hparent' _ =>
      cases hget.symm.trans hget'
      cases hroot.symm.trans hparent'
  | step hkey hget hparent hrest ih =>
    cases h' with
    | root _ hget' hroot' =>
      cases hget.symm.trans hget'
      cases hparent.symm.trans hroot'
    | step _ hget' hparent' hrest' =>
      cases hget.symm.trans hget'
      cases hparent.symm.trans hparent'
      rw [ih hrest']

/-- Equal names have one lineage. -/
theorem of_same (h : IsLineage templates v ds)
    (hname : IsKey name) (hsame : same name v = true) : IsLineage templates name ds := by
  have hget : templates.get? name = templates.get? v := get?_congr hname hsame
  cases h with
  | root hkey hget' hroot => exact .root hname (hget.trans hget') hroot
  | step hkey hget' hparent hrest => exact .step hname (hget.trans hget') hparent hrest

/-- A walk is not stopped by names whose lineages are longer than what is ahead. -/
theorem contains_eq_false (h : IsLineage templates v ds) {visited : List Value}
    (hvisited : ∀ u ∈ visited, IsKey u ∧ ∀ es, IsLineage templates u es → ds.length < es.length) :
    visited.contains v = false := by
  refine Bool.eq_false_iff.mpr fun hagain ↦ ?_
  obtain ⟨u, hu, hsame⟩ := List.contains_iff_exists_mem_beq.mp hagain
  obtain ⟨hkey, hlonger⟩ := hvisited u hu
  exact Nat.lt_irrefl _ (hlonger ds (h.of_same hkey (same_symm h.isKey hsame)))

theorem lineageWithin_eq (h : IsLineage templates v ds) {bound : Nat} {visited : List Value}
    (hvisited : ∀ u ∈ visited, IsKey u ∧ ∀ es, IsLineage templates u es → ds.length < es.length)
    (hbound : ds.length ≤ bound) : lineageWithin templates bound visited v = some (.ok ds) := by
  induction h generalizing bound visited with
  | @root v d hkey hget hroot =>
    have hnew := (IsLineage.root hkey hget hroot).contains_eq_false hvisited
    obtain ⟨bound, rfl⟩ := Nat.exists_eq_add_of_le' hbound
    rw [IsKey] at hkey
    rw [List.length_singleton, lineageWithin, hnew, if_neg Bool.false_ne_true]
    simp only [hkey, hget, hroot]
  | @step v parent d ds hkey hget hparent hrest ih =>
    have h := IsLineage.step hkey hget hparent hrest
    have hnew := h.contains_eq_false hvisited
    have hvisited' : ∀ u ∈ visited ++ [v], IsKey u ∧
        ∀ es, IsLineage templates u es → ds.length < es.length := by
      refine List.forall_mem_append.mpr ⟨fun u hu ↦ ?_, fun u hu ↦ ?_⟩
      · exact ⟨(hvisited u hu).1, fun es hes ↦ Nat.lt_of_succ_lt ((hvisited u hu).2 es hes)⟩
      · obtain rfl := List.mem_singleton.mp hu
        refine ⟨hkey, fun es hes ↦ ?_⟩
        rw [← h.unique hes]
        exact Nat.lt_succ_self _
    obtain ⟨extra, rfl⟩ := Nat.exists_eq_add_of_le' hbound
    have hnext := ih hvisited' (Nat.le_add_left ds.length extra)
    rw [IsKey] at hkey
    rw [List.length_cons, ← Nat.add_assoc, lineageWithin, hnew, if_neg Bool.false_ne_true]
    simp only [hkey, hget, hparent, hnext, Option.map_some, Except.map]

end IsLineage

theorem isLineage_of_lineageWithin {bound : Nat} {visited : List Value} {ds : List Definition}
    (h : lineageWithin templates bound visited v = some (.ok ds)) : IsLineage templates v ds := by
  induction bound generalizing visited v ds with
  | zero => cases h
  | succ bound ih =>
    rw [lineageWithin] at h
    split at h
    · cases h
    · cases hkind : v.unhashable? with
      | some kindName => simp [hkind] at h
      | none =>
        cases hget : templates.get? v with
        | none => simp [hkind, hget] at h
        | some d =>
          cases hparent : d.parent? with
          | none =>
            simp only [hkind, hget, hparent, Option.some.injEq, Except.ok.injEq] at h
            exact h ▸ .root hkind hget hparent
          | some parent =>
            simp only [hkind, hget, hparent, Option.map_eq_some_iff] at h
            obtain ⟨_ | ds, hds, hr⟩ := h
            · cases hr
            · cases hr
              exact .step hkind hget hparent (ih hds)

theorem lineage_eq_ok_iff (hkeys : ∀ k ∈ Table.keys s.templates, IsKey k)
    {ds : List Definition} : s.lineage v = .ok ds ↔ IsLineage s.templates v ds := by
  obtain ⟨r, hr, hwithin⟩ := exists_lineage_of_isKey hkeys v
  rw [hr]
  constructor
  · rintro rfl
    exact isLineage_of_lineageWithin (hwithin _ (Nat.lt_succ_self _))
  · intro h
    have heq := h.lineageWithin_eq (List.forall_mem_nil _)
      (Nat.le_add_left ds.length (s.templates.length + 1))
    rw [hwithin _ (by omega)] at heq
    exact Option.some.inj heq

end Store
end Provisioning
