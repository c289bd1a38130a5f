import Provisioning.Proofs.Store.Ancestry
import Provisioning.Proofs.Value.MergeLaws

/-!
Two templates of a lineage in one. A template can take over the fields of its parent, together with
the name of the parent's parent: since merging does not depend on the grouping, every template that
is resolved then has the fields it had before, and only the template itself names another parent
(`resolve_collapse`). The condition is that of the grouping law: where the ancestors of the parent and
the template hold dictionaries, the parent does not put anything else.
-/

set_option autoImplicit false

namespace Provisioning.Store

open Value (IsKey IsWellKeyed Bridges HasDistinctKeys same same_symm same_trans)

/-- The fields of a template and of its parent in one, with the parent that the parent names. -/
def collapsed (parent child : Definition) : Definition :=
  Table.put (Value.merge parent child) parentField (parent.parent?.getD .null)

/-- The store in which a template has taken over the fields of its parent. -/
def collapse (s : Store) (name : Value) (parent child : Definition) : Store :=
  { s with templates := s.templates.put name (collapsed parent child) }

variable {s : Store} {templates : Table Value Definition} {name v : Value}
  {parent child d : Definition} {above ds : List Definition}

/-! ### What is inherited -/

theorem merge_eq_overlay (base override : Definition) :
    Value.dict (Value.merge base override) = Value.overlay (.dict override) (some (.dict base)) := by
  rw [Value.overlay, Value.merge]

theorem merge_assoc {a b c : Definition} (ha : IsWellKeyed (.dict a)) (hb : IsWellKeyed (.dict b))
    (hc : IsWellKeyed (.dict c)) (hbridges : Bridges (.dict a) (.dict b) (.dict c)) :
    Value.merge (Value.merge a b) c = Value.merge a (Value.merge b c) := by
  have h := Value.overlay_assoc ha hb hc hbridges
  rw [← merge_eq_overlay, ← merge_eq_overlay, ← merge_eq_overlay, ← merge_eq_overlay] at h
  exact Value.dict.inj h

theorem inherited_cons (d : Definition) (hds : ds ≠ []) :
    inherited (d :: ds) = Value.merge (inherited ds) d := by
  cases ds with
  | nil => exact absurd rfl hds
  | cons e ds => rfl

theorem isWellKeyed_inherited (h : ∀ d ∈ ds, IsWellKeyed (.dict d)) :
    IsWellKeyed (.dict (inherited ds)) := by
  induction ds with
  | nil => exact .dict ⟨nofun, .nil⟩ nofun
  | cons d ds ih =>
    obtain ⟨hd, hds⟩ := List.forall_mem_cons.mp h
    by_cases hnil : ds = []
    · rw [hnil]
      exact hd
    · rw [inherited_cons d hnil, merge_eq_overlay]
      exact hd.overlay (ih hds)

theorem isLeaf_of_isKey (h : IsKey v) : v.isLeaf = true := by
  cases v with
  | dict es => cases h
  | _ => rfl

/-- A template that names a parent has the field for it, and so has everything that inherits it. -/
theorem get?_of_parent? {u : Value} (h : d.parent? = some u) : d.get? parentField = some u :=
  (Option.filter_eq_some_iff.mp h).1

theorem has_of_parent? {u : Value} (h : d.parent? = some u) : d.has parentField = true := by
  rw [Value.has_eq_isSome_get?, get?_of_parent? h]
  rfl

theorem has_inherited {u : Value} (hds : ∀ d ∈ ds, IsWellKeyed (.dict d))
    (hd : IsWellKeyed (.dict d)) (h : d.parent? = some u) :
    (inherited (d :: ds)).has parentField = true := by
  by_cases hnil : ds = []
  · rw [hnil]
    exact has_of_parent? h
  · rw [inherited_cons d hnil, Value.merge, Value.has_mergeEntries
      (isWellKeyed_inherited hds).hasDistinctKeys.isKey hd.hasDistinctKeys, has_of_parent? h,
      Bool.or_true]

theorem isKey_parentField : IsKey parentField := rfl

theorem parent?_collapsed (hparent : IsWellKeyed (.dict parent))
    (hchild : IsWellKeyed (.dict child)) :
    (collapsed parent child).parent? = parent.parent? := by
  have hkeys := hparent.hasDistinctKeys.mergeEntries hchild.hasDistinctKeys
  have hself : same parentField parentField = true := rfl
  rw [Definition.parent?, collapsed, Value.merge, Value.get?_put hkeys.isKey isKey_parentField,
    if_pos hself]
  cases h : parent.parent? with
  | none => rfl
  | some u =>
    rw [Option.getD_some, Option.filter_eq_some_iff]
    exact ⟨rfl, (Option.filter_eq_some_iff.mp h).2⟩

/-- The template with the fields of its parent inherits from the ancestors of the parent what it
inherited from the parent. -/
theorem inherited_collapsed {u : Value} (hchild : IsWellKeyed (.dict child))
    (hparent : IsWellKeyed (.dict parent)) (habove : ∀ d ∈ above, IsWellKeyed (.dict d))
    (hnamed : child.parent? = some u) (hleaf : (parent.parent?.getD .null).isLeaf = true)
    (hbridges : Bridges (.dict (inherited above)) (.dict parent) (.dict child)) :
    inherited (collapsed parent child :: above) =
      (inherited (child :: parent :: above)).put parentField (parent.parent?.getD .null) := by
  by_cases hnil : above = []
  · rw [hnil]
    rfl
  · have htop := isWellKeyed_inherited habove
    have hhas : Table.has (Value.merge parent child) parentField = true := by
      rw [Value.merge, Value.has_mergeEntries hparent.hasDistinctKeys.isKey hchild.hasDistinctKeys,
        has_of_parent? hnamed, Bool.or_true]
    rw [inherited_cons _ hnil, inherited_cons child (List.cons_ne_nil _ _),
      inherited_cons parent hnil, merge_assoc htop hparent hchild hbridges]
    exact Value.mergeEntries_put htop.hasDistinctKeys
      (hparent.hasDistinctKeys.mergeEntries hchild.hasDistinctKeys) isKey_parentField hhas hleaf

/-! ### The lineages of the store -/

theorem IsLineage.mem {u : Value} (h : IsLineage templates u ds) :
    ∀ d ∈ ds, ∃ e ∈ templates, e.2 = d := by
  have hfound {u : Value} {d : Definition} (hget : templates.get? u = some d) :
      ∃ e ∈ templates, e.2 = d := by
    obtain ⟨k, -, hmem⟩ := Table.exists_mem_of_get? hget
    exact ⟨(k, d), hmem, rfl⟩
  induction h with
  | root _ hget _ => exact List.forall_mem_singleton.mpr (hfound hget)
  | step _ hget _ _ ih => exact List.forall_mem_cons.mpr ⟨hfound hget, ih⟩

section Put

variable {new : Definition} {old : List Definition}

/-- A lineage that is shorter than the one of a name does not lead through the name. -/
theorem IsLineage.put_of_length_lt (hkeys : ∀ k ∈ Table.keys templates, IsKey k)
    (hold : IsLineage templates name old) (h : IsLineage templates v ds)
    (hlength : ds.length < old.length) : IsLineage (templates.put name new) v ds := by
  have hput {u : Value} {es : List Definition} (hu : IsLineage templates u es)
      (hlt : es.length < old.length) : (templates.put name new).get? u = templates.get? u := by
    rw [Value.get?_put hkeys hold.isKey, if_neg]
    intro hsame
    rw [hold.unique (hu.of_same hold.isKey hsame)] at hlt
    exact Nat.lt_irrefl _ hlt
  induction h with
  | root hkey hget hroot =>
    exact .root hkey ((hput (.root hkey hget hroot) hlength).trans hget) hroot
  | step hkey hget hparent hrest ih =>
    exact .step hkey ((hput (.step hkey hget hparent hrest) hlength).trans hget) hparent
      (ih (Nat.lt_of_succ_lt hlength))

end Put

/-- What is known of a store in which a template is to take over the fields of its parent. -/
structure Collapsible (s : Store) (name : Value) (parent child : Definition)
    (above : List Definition) : Prop where
  isKey : ∀ k ∈ Table.keys s.templates, IsKey k
  isWellKeyed : ∀ e ∈ s.templates, IsWellKeyed (.dict e.2)
  lineage : s.lineage name = .ok (child :: parent :: above)
  bridges : Bridges (.dict (inherited above)) (.dict parent) (.dict child)

namespace Collapsible

theorem isLineage (h : Collapsible s name parent child above) :
    IsLineage s.templates name (child :: parent :: above) :=
  (lineage_eq_ok_iff h.isKey).mp h.lineage

theorem isWellKeyed_of_isLineage (h : Collapsible s name parent child above)
    (hv : IsLineage s.templates v ds) : ∀ d ∈ ds, IsWellKeyed (.dict d) := by
  intro d hd
  obtain ⟨e, he, rfl⟩ := hv.mem d hd
  exact h.isWellKeyed e he

/-- The lineage of the template itself leads past its parent. -/
theorem isLineage_collapsed (h : Collapsible s name parent child above) (hv : IsKey v)
    (hsame : same name v = true) :
    IsLineage (s.collapse name parent child).templates v (collapsed parent child :: above) := by
  have hwell := h.isWellKeyed_of_isLineage h.isLineage
  have hparent? := parent?_collapsed (hwell parent (by simp)) (hwell child (by simp))
  have hget : (s.collapse name parent child).templates.get? v = some (collapsed parent child) := by
    rw [collapse, Value.get?_put h.isKey h.isLineage.isKey, if_pos hsame]
  cases h.isLineage with
  | step _ _ _ hrest =>
    cases hrest with
    | root _ _ hroot => exact .root hv hget (hparent?.trans hroot)
    | step _ _ hparent htop =>
      exact .step hv hget (hparent?.trans hparent)
        (h.isLineage.put_of_length_lt h.isKey htop (by simp))

theorem isLeaf_parent? (h : Collapsible s name parent child above) :
    (parent.parent?.getD .null).isLeaf = true := by
  cases h.isLineage with
  | step _ _ _ hrest =>
    cases hrest with
    | root _ _ hroot => rw [hroot]; rfl
    | step _ _ hparent htop => rw [hparent]; exact isLeaf_of_isKey htop.isKey

theorem eq_of_same (h : Collapsible s name parent child above) (hv : IsLineage s.templates v ds)
    (hsame : same name v = true) : ds = child :: parent :: above :=
  (hv.of_same h.isLineage.isKey hsame).unique h.isLineage

theorem get?_of_not_same (h : Collapsible s name parent child above)
    (hsame : ¬same name v = true) :
    (s.collapse name parent child).templates.get? v = s.templates.get? v := by
  rw [collapse, Value.get?_put h.isKey h.isLineage.isKey, if_neg hsame]

/-- Every lineage has one in its place, from which the same is inherited but for the parent of the
template itself. -/
theorem exists_isLineage (h : Collapsible s name parent child above)
    (hv : IsLineage s.templates v ds) :
    ∃ es, es ≠ [] ∧ IsLineage (s.collapse name parent child).templates v es ∧
      inherited es = if same name v = true then
        (inherited ds).put parentField (parent.parent?.getD .null) else inherited ds := by
  induction hv with
  | @root v d hkey hget hroot =>
    have hsame : ¬same name v = true := fun hsame ↦ by
      cases h.eq_of_same (.root hkey hget hroot) hsame
    refine ⟨[d], List.cons_ne_nil _ _, ?_, (if_neg hsame).symm⟩
    exact .root hkey ((h.get?_of_not_same hsame).trans hget) hroot
  | @step v u d ds hkey hget hparent hrest ih =>
    have hv : IsLineage s.templates v (d :: ds) := .step hkey hget hparent hrest
    have hwell := h.isWellKeyed_of_isLineage hv
    by_cases hsame : same name v = true
    · cases h.eq_of_same hv hsame
      refine ⟨_, List.cons_ne_nil _ _, h.isLineage_collapsed hkey hsame, ?_⟩
      rw [if_pos hsame]
      exact inherited_collapsed (hwell child (by simp)) (hwell parent (by simp))
        (fun d hd ↦ hwell d (by simp [hd])) hparent h.isLeaf_parent? h.bridges
    · obtain ⟨es, hes, hlineage, hinherited⟩ := ih
      refine ⟨d :: es, List.cons_ne_nil _ _, ?_, ?_⟩
      · exact .step hkey ((h.get?_of_not_same hsame).trans hget) hparent hlineage
      · have hds : ds ≠ [] := by cases hrest <;> simp
        rw [if_neg hsame, inherited_cons d hes, inherited_cons d hds, hinherited]
        split
        · next hparentSame =>
          -- The template overrides the field that has changed with its own parent.
          have hrestWell : ∀ d ∈ ds, IsWellKeyed (.dict d) := fun d hd ↦ hwell d (by simp [hd])
          have hhas : (inherited ds).has parentField = true := by
            cases h.eq_of_same hrest hparentSame
            cases h.isLineage with
            | step _ _ hnamed _ =>
              exact has_inherited (List.forall_mem_cons.mp hrestWell).2
                (hrestWell child (by simp)) hnamed
          exact Value.mergeEntries_over_put (isWellKeyed_inherited hrestWell).hasDistinctKeys
            (hwell d (by simp)).hasDistinctKeys isKey_parentField hhas (get?_of_parent? hparent)
            (isLeaf_of_isKey hrest.isKey)
        · rfl

end Collapsible

/-- After a template has taken over the fields of its parent, every template that could be resolved
can be resolved still, and its fields are the same; only those of the template itself name another
parent. -/
theorem resolve_collapse (h : Collapsible s name parent child above) {merged : Definition}
    (hmerged : s.resolve v = .ok merged) :
    (s.collapse name parent child).resolve v = .ok (if same name v = true then
      merged.put parentField (parent.parent?.getD .null) else merged) := by
  have hkeys : ∀ k ∈ Table.keys (s.collapse name parent child).templates, IsKey k :=
    Value.isKey_of_mem_put h.isKey h.isLineage.isKey
  rw [resolve] at hmerged ⊢
  rcases hds : s.lineage v with e | ds
  · rw [hds] at hmerged
    cases hmerged
  · rw [hds] at hmerged
    cases hmerged
    obtain ⟨es, -, hes, hinherited⟩ := h.exists_isLineage ((lineage_eq_ok_iff h.isKey).mp hds)
    rw [(lineage_eq_ok_iff hkeys).mpr hes, Except.map, hinherited]

/-- Merging in what was merged in last changes nothing, and neither does merging a dictionary with
itself. Three dictionaries merge to the same in either grouping unless the middle one puts something
else where the two others hold dictionaries; so every template keeps its fields when a template takes
over those of its parent. -/
theorem merge_laws :
    (∀ a b, IsWellKeyed (.dict a) → IsWellKeyed (.dict b) →
      Value.merge (Value.merge a b) b = Value.merge a b) ∧
    (∀ a, IsWellKeyed (.dict a) → Value.merge a a = a) ∧
    (∀ a b c, IsWellKeyed (.dict a) → IsWellKeyed (.dict b) → IsWellKeyed (.dict c) →
      Bridges (.dict a) (.dict b) (.dict c) →
        Value.merge (Value.merge a b) c = Value.merge a (Value.merge b c)) ∧
    ∀ (s : Store) (name : Value) (parent child : Definition) (above : List Definition),
      Collapsible s name parent child above → ∀ v merged, s.resolve v = .ok merged →
        (s.collapse name parent child).resolve v = .ok (if same name v = true then
          merged.put parentField (parent.parent?.getD .null) else merged) := by
  refine ⟨fun a b ha hb ↦ ?_, fun a ha ↦ ?_, fun a b c ha hb hc hbridges ↦ ?_,
    fun s name parent child above h v merged ↦ resolve_collapse h⟩
  · have h := Value.overlay_overlay_self ha hb
    rw [← merge_eq_overlay, ← merge_eq_overlay] at h
    exact Value.dict.inj h
  · have h := Value.overlay_self ha
    rw [← merge_eq_overlay] at h
    exact Value.dict.inj h
  · exact merge_assoc ha hb hc hbridges

/-- A lineage of three templates that all hold a dictionary under one key. -/
def threeLevels : Store :=
  { home := []
    templates :=
      [(.text "base", [(.text "tags", .dict [(.text "x", .int 1)])]),
        (.text "middle", [(.text "extends", .text "base"),
          (.text "tags", .dict [(.text "y", .int 2)])]),
        (.text "web", [(.text "extends", .text "middle"),
          (.text "tags", .dict [(.text "x", .int 3)])])] }

/-- The lowest of three levels takes over the middle one, which holds a dictionary where the others
do. -/
theorem merge_laws_threeLevels :
    ∃ base middle web : Definition,
      threeLevels.lineage (.text "web") = .ok [web, middle, base] ∧
      Value.merge (Value.merge base middle) middle = Value.merge base middle ∧
      Value.merge middle middle = middle ∧
      Value.merge (Value.merge base middle) web = Value.merge base (Value.merge middle web) ∧
      (threeLevels.collapse (.text "web") middle web).resolve (.text "web") =
        .ok [(.text "tags", .dict [(.text "x", .int 3), (.text "y", .int 2)]),
          (.text "extends", .text "base")] := by
  let base : Definition := [(.text "tags", .dict [(.text "x", .int 1)])]
  let middle : Definition :=
    [(.text "extends", .text "base"), (.text "tags", .dict [(.text "y", .int 2)])]
  let web : Definition :=
    [(.text "extends", .text "middle"), (.text "tags", .dict [(.text "x", .int 3)])]
  have hinner (k : String) (n : Int) : IsWellKeyed (.dict [(.text k, .int n)]) := by
    refine .dict ⟨List.forall_mem_singleton.mpr rfl, List.pairwise_singleton _ _⟩ ?_
    exact List.forall_mem_singleton.mpr (.leaf rfl)
  have hbase : IsWellKeyed (.dict base) :=
    .dict ⟨by decide, by decide⟩ (List.forall_mem_singleton.mpr (hinner "x" 1))
  have hmiddle : IsWellKeyed (.dict middle) :=
    .dict ⟨by decide, by decide⟩
      (List.forall_mem_cons.mpr ⟨.leaf rfl, List.forall_mem_singleton.mpr (hinner "y" 2)⟩)
  have hweb : IsWellKeyed (.dict web) :=
    .dict ⟨by decide, by decide⟩
      (List.forall_mem_cons.mpr ⟨.leaf rfl, List.forall_mem_singleton.mpr (hinner "x" 3)⟩)
  have hsingle {t : String} {inside u k : Value} (h : Table.get? [(.text t, inside)] k = some u) :
      k = .text t ∧ u = inside := by
    rw [Value.get?_cons] at h
    split at h
    · next hsame =>
      exact ⟨Value.atom?_text_iff.mp ((Value.same_iff_of_atom? rfl).mp hsame),
        (Option.some.inj h).symm⟩
    · cases h
  have hbridges : Bridges (.dict base) (.dict middle) (.dict web) := by
    intro path us ws v hus _ hv
    match path, hus, hv with
    | [], _, hv =>
      cases hv
      rfl
    | k :: path, hus, hv =>
      obtain ⟨u, hu, hus⟩ := Option.bind_eq_some_iff.mp hus
      obtain ⟨rfl, rfl⟩ := hsingle hu
      match path, hus, hv with
      | [], _, hv =>
        cases hv
        rfl
      | k' :: path, hus, _ =>
        -- The base holds no dictionary further down.
        obtain ⟨u', hu', hus⟩ := Option.bind_eq_some_iff.mp hus
        obtain ⟨-, rfl⟩ := hsingle hu'
        cases path <;> cases hus
  have hcollapsible : Collapsible threeLevels (.text "web") middle web [base] :=
    { isKey := by decide
      isWellKeyed := List.forall_mem_cons.mpr ⟨hbase, List.forall_mem_cons.mpr
        ⟨hmiddle, List.forall_mem_singleton.mpr hweb⟩⟩
      lineage := rfl
      bridges := hbridges }
  obtain ⟨habsorb, hidem, hassoc, hcollapse⟩ := merge_laws
  refine ⟨base, middle, web, rfl, habsorb _ _ hbase hmiddle, hidem _ hmiddle,
    hassoc _ _ _ hbase hmiddle hweb hbridges, ?_⟩
  exact hcollapse threeLevels (.text "web") middle web [base] hcollapsible (.text "web") _ rfl

end Provisioning.Store
