import Mathlib.Data.List.Nodup
import Provisioning.Store.Lineage
import Provisioning.Validation.Lax

/-!
Lineages. From a name on, each template names the next as its parent, until one has no parent, or a
name is missing, or a name comes again. No name comes twice before the walk ends, and each is that of
a template, so a bound above the number of templates is never used up.
-/

set_option autoImplicit false

namespace Provisioning

namespace Value

/-- Only the same text equals a text. -/
theorem beq_text_iff {v : Value} {t : String} : (v == text t) = true ↔ v = text t := by
  change v.same (text t) = true ↔ v = text t
  cases v <;> simp [same, sameAtom, whole?, octets?]

theorem contains_map_text {ts : List String} {t : String} :
    (ts.map text).contains (text t) = true ↔ t ∈ ts := by
  rw [List.contains_iff_exists_mem_beq]
  constructor
  · rintro ⟨v, hv, hsame⟩
    obtain ⟨u, hu, rfl⟩ := List.mem_map.mp hv
    obtain rfl : t = u := text.inj (beq_text_iff.mp hsame)
    exact hu
  · intro ht
    exact ⟨text t, List.mem_map_of_mem ht, beq_text_iff.mpr rfl⟩

end Value

namespace Store

variable {s : Store} {name : String}

/-- The names from `name` on, each the parent of the one before. -/
def ancestor (s : Store) (name : String) : Nat → Option String
  | 0 => some name
  | i + 1 => do
    let d ← s.templates.get? (.text (← s.ancestor name i))
    textOf? (← d.parent?)

/-- The definitions of these names. -/
def raw (s : Store) (name : String) (i : Nat) : Option Definition := do
  s.templates.get? (.text (← s.ancestor name i))

/-- The first `k` of these names. -/
def path (s : Store) (name : String) (k : Nat) : List String :=
  (List.range k).filterMap (s.ancestor name)

/-- Among these names is one that no template has. -/
def Misses (s : Store) (name missing : String) : Prop :=
  ∃ i, s.ancestor name i = some missing ∧ s.templates.get? (.text missing) = none

/-- Among these names is one that comes twice. -/
def Repeats (s : Store) (name : String) : Prop :=
  ∃ i j t, i < j ∧ s.ancestor name i = some t ∧ s.ancestor name j = some t

/-- What a template names as its parent is a text. -/
def TextParents (s : Store) : Prop :=
  ∀ e ∈ s.templates, ∀ parent, e.2.parent? = some parent → ∃ t, parent = .text t

theorem path_succ {k : Nat} {t : String} (h : s.ancestor name k = some t) :
    s.path name (k + 1) = s.path name k ++ [t] := by
  simp [path, List.range_succ, h]

theorem ancestor_succ {i : Nat} {u : String} (h : s.ancestor name (i + 1) = some u) :
    ∃ t d, s.ancestor name i = some t ∧ s.templates.get? (.text t) = some d ∧
      d.parent? = some (.text u) := by
  obtain ⟨t, ht, h⟩ := Option.bind_eq_some_iff.mp h
  obtain ⟨d, hd, h⟩ := Option.bind_eq_some_iff.mp h
  obtain ⟨parent, hparent, h⟩ := Option.bind_eq_some_iff.mp h
  cases parent <;> cases h
  exact ⟨t, d, ht, hd, hparent⟩

/-- The names before one that is reached are reached as well. -/
theorem exists_ancestor_of_le {i j : Nat} {u : String} (hj : s.ancestor name j = some u)
    (hle : i ≤ j) : ∃ t, s.ancestor name i = some t := by
  induction j generalizing u with
  | zero =>
    obtain rfl : i = 0 := Nat.le_zero.mp hle
    exact ⟨u, hj⟩
  | succ j ih =>
    rcases Nat.le_succ_iff.mp hle with hle | rfl
    · obtain ⟨t, _, ht, _⟩ := ancestor_succ hj
      exact ih ht hle
    · exact ⟨u, hj⟩

theorem length_path {k : Nat} {t : String} (h : s.ancestor name k = some t) :
    (s.path name k).length = k := by
  induction k generalizing t with
  | zero => rfl
  | succ k ih =>
    obtain ⟨u, _, hu, _⟩ := ancestor_succ h
    rw [path_succ hu, List.length_append, ih hu, List.length_singleton]

theorem mem_path_iff {k : Nat} {t : String} :
    t ∈ s.path name k ↔ ∃ i < k, s.ancestor name i = some t := by
  simp only [path, List.mem_filterMap, List.mem_range]

/-- As long as no name has come twice, there are at least as many templates as names so far. -/
theorem le_length_templates {k : Nat} {t : String} (h : s.ancestor name k = some t)
    (hnodup : (s.path name k).Nodup) : k ≤ s.templates.length := by
  have hsubset : (s.path name k).map Value.text ⊆ s.templates.keys := by
    intro v hv
    obtain ⟨u, hu, rfl⟩ := List.mem_map.mp hv
    obtain ⟨i, hi, hreached⟩ := mem_path_iff.mp hu
    obtain ⟨w, hw⟩ := exists_ancestor_of_le h (Nat.succ_le_of_lt hi)
    obtain ⟨u', d, hu', hd, _⟩ := ancestor_succ hw
    obtain rfl : u = u' := Option.some.inj (hreached.symm.trans hu')
    obtain ⟨key, hkey, hmem⟩ := Table.exists_mem_of_get? hd
    obtain rfl := Value.beq_text_iff.mp hkey
    exact List.mem_map_of_mem hmem
  have hinjective : Function.Injective Value.text := fun _ _ heq ↦ Value.text.inj heq
  have hle := (hnodup.map hinjective).length_le_of_subset hsubset
  rwa [List.length_map, length_path h, Table.keys, List.length_map] at hle

/-! ### How the walk ends -/

/-- What becomes of a walk from the `k`-th name on. -/
inductive Verdict (s : Store) (name : String) (k : Nat) : Except Error (List Definition) → Prop
  | cycle (j : Nat) (t : String) (hnodup : (s.path name j).Nodup)
      (hreached : s.ancestor name j = some t) (hagain : t ∈ s.path name j) :
      Verdict s name k (.error (.inheritanceCycle (s.path name j ++ [t])))
  | missing (j : Nat) (t : String) (hreached : s.ancestor name j = some t)
      (hmissing : s.templates.get? (.text t) = none) :
      Verdict s name k (.error (.templateNotFound (.text t)))
  | root (n : Nat) (d : Definition) (hle : k ≤ n) (hraw : s.raw name n = some d)
      (hroot : d.parent? = none) :
      Verdict s name k (.ok ((List.range' k (n + 1 - k)).filterMap (s.raw name)))

theorem Verdict.step {k : Nat} {d : Definition} {r : Except Error (List Definition)}
    (hd : s.raw name k = some d) (h : Verdict s name (k + 1) r) :
    Verdict s name k (r.map (d :: ·)) := by
  cases h with
  | cycle j t hnodup hreached hagain => exact .cycle j t hnodup hreached hagain
  | missing j t hreached hmissing => exact .missing j t hreached hmissing
  | root n e hle hraw hroot =>
    have hrange : List.range' k (n + 1 - k) = k :: List.range' (k + 1) (n + 1 - (k + 1)) := by
      have hlength : n + 1 - k = (n + 1 - (k + 1)) + 1 := by omega
      rw [hlength, List.range'_succ]
    have hlist : (List.range' k (n + 1 - k)).filterMap (s.raw name) =
        d :: (List.range' (k + 1) (n + 1 - (k + 1))).filterMap (s.raw name) := by
      rw [hrange, List.filterMap_cons, hd]
    rw [Except.map, ← hlist]
    exact .root n e (by omega) hraw hroot

theorem mapM_textOf?_map_text (ts : List String) : (ts.map Value.text).mapM textOf? = some ts := by
  induction ts with
  | nil => rfl
  | cons t ts ih =>
    rw [List.map_cons, List.mapM_cons, ih]
    rfl

/-- A walk from the `k`-th name on, with a bound that makes up for the names before, comes to an
end. -/
theorem exists_verdict (hparents : s.TextParents) {bound k : Nat} {t : String}
    (hreached : s.ancestor name k = some t) (hnodup : (s.path name k).Nodup)
    (hbound : s.templates.length < bound + k) :
    ∃ r, lineageWithin s.templates bound ((s.path name k).map .text) (.text t) = some r ∧
      Verdict s name k r := by
  -- The names so far stay distinct, so the bound and their number together stay above that of the
  -- templates.
  induction bound generalizing k t with
  | zero =>
    have hle := le_length_templates hreached hnodup
    omega
  | succ bound ih =>
    rw [lineageWithin]
    by_cases hagain : t ∈ s.path name k
    · rw [if_pos (Value.contains_map_text.mpr hagain)]
      refine ⟨_, rfl, ?_⟩
      have hnames : (s.path name k).map Value.text ++ [.text t] =
          (s.path name k ++ [t]).map Value.text := by simp
      rw [cycle, hnames, mapM_textOf?_map_text]
      exact .cycle k t hnodup hreached hagain
    · rw [if_neg (mt Value.contains_map_text.mp hagain)]
      cases hget : s.templates.get? (.text t) with
      | none => exact ⟨_, rfl, .missing k t hreached hget⟩
      | some d =>
        have hraw : s.raw name k = some d := by
          rw [raw, hreached]
          exact hget
        dsimp only [Value.unhashable?]
        cases hparent : d.parent? with
        | none =>
          refine ⟨_, rfl, ?_⟩
          have hlist : [d] = (List.range' k (k + 1 - k)).filterMap (s.raw name) := by
            simp [hraw]
          rw [hlist]
          exact .root k d (Nat.le_refl k) hraw hparent
        | some parent =>
          obtain ⟨key, _, hmem⟩ := Table.exists_mem_of_get? hget
          obtain ⟨u, rfl⟩ := hparents _ hmem _ hparent
          have hnext : s.ancestor name (k + 1) = some u := by
            simp [ancestor, hreached, hget, hparent, textOf?]
          have hnodup' : (s.path name (k + 1)).Nodup := by
            rw [path_succ hreached, ← List.concat_eq_append, List.nodup_concat]
            exact ⟨hagain, hnodup⟩
          obtain ⟨r, hr, hverdict⟩ := ih hnext hnodup' (by omega)
          have hnames : (s.path name k).map Value.text ++ [.text t] =
              (s.path name (k + 1)).map Value.text := by
            rw [path_succ hreached, List.map_append, List.map_singleton]
          refine ⟨r.map (d :: ·), ?_, hverdict.step hraw⟩
          rw [hnames]
          exact congrArg (Option.map (Except.map (d :: ·))) hr

/-! ### The ways to end exclude each other -/

/-- The name `t` is reached, and no name after it. -/
def EndsAt (s : Store) (name : String) (i : Nat) (t : String) : Prop :=
  s.ancestor name i = some t ∧ ∀ u, s.ancestor name (i + 1) ≠ some u

theorem EndsAt.unique {i j : Nat} {t u : String} (hi : s.EndsAt name i t)
    (hj : s.EndsAt name j u) : i = j ∧ t = u := by
  have hle {i j : Nat} {t u : String} (hi : s.EndsAt name i t) (hj : s.EndsAt name j u) :
      j ≤ i := by
    by_contra hlt
    obtain ⟨w, hw⟩ := exists_ancestor_of_le hj.1 (Nat.lt_of_not_le hlt)
    exact hi.2 w hw
  obtain rfl : i = j := Nat.le_antisymm (hle hj hi) (hle hi hj)
  exact ⟨rfl, Option.some.inj (hi.1.symm.trans hj.1)⟩

theorem endsAt_of_missing {i : Nat} {t : String} (hreached : s.ancestor name i = some t)
    (hmissing : s.templates.get? (.text t) = none) : s.EndsAt name i t := by
  refine ⟨hreached, fun u hu ↦ ?_⟩
  obtain ⟨t', d, ht', hd, _⟩ := ancestor_succ hu
  obtain rfl : t = t' := Option.some.inj (hreached.symm.trans ht')
  rw [hmissing] at hd
  cases hd

theorem exists_endsAt_of_root {n : Nat} {d : Definition} (hraw : s.raw name n = some d)
    (hroot : d.parent? = none) :
    ∃ t, s.EndsAt name n t ∧ s.templates.get? (.text t) = some d := by
  obtain ⟨t, ht, hd⟩ := Option.bind_eq_some_iff.mp hraw
  refine ⟨t, ⟨ht, fun u hu ↦ ?_⟩, hd⟩
  obtain ⟨t', d', ht', hd', hparent⟩ := ancestor_succ hu
  obtain rfl : t = t' := Option.some.inj (ht.symm.trans ht')
  obtain rfl : d = d' := Option.some.inj (hd.symm.trans hd')
  rw [hroot] at hparent
  cases hparent

theorem ancestor_add_eq {i j : Nat} (h : s.ancestor name i = s.ancestor name j) (a : Nat) :
    s.ancestor name (i + a) = s.ancestor name (j + a) := by
  induction a with
  | zero => exact h
  | succ a ih => rw [← Nat.add_assoc, ← Nat.add_assoc, ancestor, ih, ancestor]

/-- A walk that comes to a name twice goes on for ever. -/
theorem Repeats.exists_ancestor (h : s.Repeats name) (m : Nat) :
    ∃ t, s.ancestor name m = some t := by
  obtain ⟨i, j, t, hij, hi, hj⟩ := h
  -- Beyond the second place of the name, what is reached was reached `j - i` names before.
  induction m using Nat.strongRecOn with
  | ind m ih =>
    rcases Nat.le_total m j with hle | hle
    · exact exists_ancestor_of_le hj hle
    · obtain ⟨a, rfl⟩ := Nat.exists_eq_add_of_le hle
      rw [← ancestor_add_eq (hi.trans hj.symm) a]
      exact ih (i + a) (by omega)

theorem EndsAt.not_repeats {i : Nat} {t : String} (h : s.EndsAt name i t) : ¬s.Repeats name := by
  intro hrepeats
  obtain ⟨u, hu⟩ := hrepeats.exists_ancestor (i + 1)
  exact h.2 u hu

/-! ### What the walk answers -/

/-- The fields of a lineage are those of its last definition, overridden by the others from the last
one back. -/
theorem inherited_append_singleton (ds : List Definition) (d : Definition) :
    inherited (ds ++ [d]) = ds.reverse.foldl Value.merge d := by
  induction ds with
  | nil => rfl
  | cons e ds ih =>
    have hcons : inherited (e :: (ds ++ [d])) = Value.merge (inherited (ds ++ [d])) e := by
      cases ds <;> rfl
    rw [List.cons_append, hcons, ih, List.reverse_cons, List.foldl_append]
    rfl

/-- A larger bound changes nothing about an answer. -/
theorem lineageWithin_mono {templates : Table Value Definition} {bound bound' : Nat}
    {visited : List Value} {v : Value} {r : Except Error (List Definition)}
    (h : lineageWithin templates bound visited v = some r) (hle : bound ≤ bound') :
    lineageWithin templates bound' visited v = some r := by
  induction bound generalizing bound' visited v r with
  | zero => cases h
  | succ bound ih =>
    obtain ⟨bound', rfl⟩ := Nat.exists_eq_add_of_le' (Nat.one_le_of_lt hle)
    rw [lineageWithin] at h ⊢
    split
    · next hagain => rwa [if_pos hagain] at h
    · next hagain =>
      rw [if_neg hagain] at h
      cases hkind : v.unhashable? with
      | some kindName => simpa only [hkind] using h
      | none =>
        cases hget : templates.get? v with
        | none => simpa only [hkind, hget] using h
        | some d =>
          simp only [hkind, hget] at h ⊢
          cases hparent : d.parent? with
          | none => simpa only [hparent] using h
          | some parent =>
            simp only [hparent] at h ⊢
            obtain ⟨q, hq, rfl⟩ := Option.map_eq_some_iff.mp h
            rw [ih hq (by omega), Option.map_some]

theorem exists_lineage (hparents : s.TextParents) (name : String) :
    ∃ r, (∀ bound, s.templates.length < bound →
        lineageWithin s.templates bound [] (.text name) = some r) ∧
      s.lineage (.text name) = r ∧ Verdict s name 0 r := by
  obtain ⟨r, hr, hverdict⟩ := exists_verdict (k := 0) hparents (t := name) rfl List.nodup_nil
    (Nat.lt_succ_self s.templates.length)
  refine ⟨r, fun bound hbound ↦ lineageWithin_mono hr hbound, ?_, hverdict⟩
  have hsome : lineageWithin s.templates (s.templates.length + 1) [] (.text name) = some r := hr
  rw [lineage, hsome, Option.getD_some]

/-- What becomes of a template and its ancestors, each the parent of the one before. The walk comes to
an end. It fails just if it comes to a name that no template has or to a name for the second time:
then the error names the one that is missing, or the names in order up to the one that came again.
Otherwise there is a last template, and the result is its definition overridden by those before it
back to that of the template itself; under the name that was asked for, this is what is checked. -/
theorem resolve_spec [Validation.Reader] (hparents : s.TextParents) (name : String) :
    (∃ r, ∀ bound, s.templates.length < bound →
      lineageWithin s.templates bound [] (.text name) = some r) ∧
    ((∃ e, s.resolve (.text name) = .error e ∧ e.isAmong [.template] = true) ↔
      (∃ t, s.Misses name t) ∨ s.Repeats name) ∧
    (∀ t, s.Misses name t → s.resolve (.text name) = .error (.templateNotFound (.text t))) ∧
    (s.Repeats name → ∃ j t, (s.path name j).Nodup ∧ s.ancestor name j = some t ∧
      t ∈ s.path name j ∧
      s.resolve (.text name) = .error (.inheritanceCycle (s.path name j ++ [t]))) ∧
    (¬((∃ t, s.Misses name t) ∨ s.Repeats name) → ∃ n d, ∃ merged : Definition,
      s.raw name n = some d ∧ d.parent? = none ∧
      merged = ((List.range n).reverse.filterMap (s.raw name)).foldl Value.merge d ∧
      s.resolve (.text name) = .ok merged ∧
      s.template (.text name) = Template.Spec.ofEntries (merged.put nameField (.text name))) := by
  obtain ⟨r, hwalk, hlineage, hverdict⟩ := exists_lineage hparents name
  refine ⟨⟨r, hwalk⟩, ?_⟩
  cases hverdict with
  | cycle j t hnodup hreached hagain =>
    have hresolve : s.resolve (.text name) = .error (.inheritanceCycle (s.path name j ++ [t])) := by
      rw [resolve, hlineage, Except.map]
    have hrepeats : s.Repeats name := by
      obtain ⟨i, hi, ht⟩ := mem_path_iff.mp hagain
      exact ⟨i, j, t, hi, ht, hreached⟩
    refine ⟨⟨fun _ ↦ .inr hrepeats, fun _ ↦ ⟨_, hresolve, rfl⟩⟩, ?_, ?_, ?_⟩
    · rintro u ⟨i, hi, hmissing⟩
      exact absurd hrepeats (endsAt_of_missing hi hmissing).not_repeats
    · exact fun _ ↦ ⟨j, t, hnodup, hreached, hagain, hresolve⟩
    · exact fun hneither ↦ absurd (.inr hrepeats) hneither
  | missing j t hreached hmissing =>
    have hresolve : s.resolve (.text name) = .error (.templateNotFound (.text t)) := by
      rw [resolve, hlineage, Except.map]
    have hends := endsAt_of_missing hreached hmissing
    have hmisses : s.Misses name t := ⟨j, hreached, hmissing⟩
    refine ⟨⟨fun _ ↦ .inl ⟨t, hmisses⟩, fun _ ↦ ⟨_, hresolve, rfl⟩⟩, ?_, ?_, ?_⟩
    · rintro u ⟨i, hi, hmissing'⟩
      obtain ⟨_, rfl⟩ := hends.unique (endsAt_of_missing hi hmissing')
      exact hresolve
    · exact fun hrepeats ↦ absurd hrepeats hends.not_repeats
    · exact fun hneither ↦ absurd (.inl ⟨t, hmisses⟩) hneither
  | root n d hle hraw hroot =>
    have hlist : (List.range' 0 (n + 1 - 0)).filterMap (s.raw name) =
        (List.range n).filterMap (s.raw name) ++ [d] := by
      rw [Nat.sub_zero, ← List.range_eq_range', List.range_succ, List.filterMap_append]
      simp [hraw]
    have hresolve : s.resolve (.text name) =
        .ok (((List.range n).reverse.filterMap (s.raw name)).foldl Value.merge d) := by
      rw [resolve, hlineage, Except.map, hlist, inherited_append_singleton, List.filterMap_reverse]
    obtain ⟨t, hends, hd⟩ := exists_endsAt_of_root hraw hroot
    have hnotMisses : ¬∃ t, s.Misses name t := by
      rintro ⟨u, i, hi, hmissing⟩
      obtain ⟨_, rfl⟩ := hends.unique (endsAt_of_missing hi hmissing)
      rw [hd] at hmissing
      cases hmissing
    refine ⟨⟨?_, ?_⟩, ?_, ?_, ?_⟩
    · rintro ⟨e, he, _⟩
      rw [hresolve] at he
      cases he
    · exact fun h ↦ absurd h (not_or.mpr ⟨hnotMisses, hends.not_repeats⟩)
    · exact fun u hu ↦ absurd ⟨u, hu⟩ hnotMisses
    · exact fun hrepeats ↦ absurd hrepeats hends.not_repeats
    · refine fun _ ↦ ⟨n, d, _, hraw, hroot, rfl, hresolve, ?_⟩
      rw [template, hresolve]
      rfl

/-- A cycle that is entered from outside, by a template that is not on it. -/
theorem resolve_entered_cycle :
    ∃ s : Store, s.templates = [(.text "a", [(parentField, .text "b")]),
        (.text "b", [(parentField, .text "c")]), (.text "c", [(parentField, .text "b")])] ∧
      s.TextParents ∧ ∃ e, s.resolve (.text "a") = .error e ∧ e.isAmong [.template] = true := by
  refine ⟨⟨[], none, _, [], []⟩, rfl, ?_⟩
  have hparents : TextParents ⟨[], none, [(.text "a", [(parentField, .text "b")]),
      (.text "b", [(parentField, .text "c")]), (.text "c", [(parentField, .text "b")])],
      [], []⟩ := by
    intro e he parent hparent
    simp only [List.mem_cons, List.not_mem_nil, or_false] at he
    rcases he with rfl | rfl | rfl
    · exact ⟨"b", (Option.some.inj hparent).symm⟩
    · exact ⟨"c", (Option.some.inj hparent).symm⟩
    · exact ⟨"b", (Option.some.inj hparent).symm⟩
  obtain ⟨_, herror, _⟩ := resolve_spec hparents "a"
  exact ⟨hparents, herror.mpr (.inr ⟨1, 3, "b", by decide, rfl, rfl⟩)⟩

end Store
end Provisioning
