import Provisioning.Proofs.Value.Equality
import Provisioning.Value.Merge

/-!
What a deep merge holds at every path of keys. The merge holds nothing below a leaf of the overriding
side; everywhere else it holds what the two sides hold there, one laid over the other
(`at?_overlay`, by induction on the path). Which leaves survive, and in which order the keys of a
level stand, follows from that one law.

Keys are compared by the sameness of values, which is not the identity of keys: `1`, `1.0` and
`True` are one key. A dictionary is taken to have no two equal keys, at every level.
-/

set_option autoImplicit false

namespace Provisioning.Value

/-- Entries whose keys can be keys and of which no two have equal keys. -/
structure HasDistinctKeys (es : List (Value × Value)) : Prop where
  isKey : ∀ k ∈ Table.keys es, IsKey k
  distinct : (Table.keys es).Pairwise fun k k' ↦ ¬same k k' = true

namespace HasDistinctKeys

variable {es : List (Value × Value)} {e : Value × Value}

theorem of_cons (h : HasDistinctKeys (e :: es)) :
    IsKey e.1 ∧ (∀ k ∈ Table.keys es, ¬same e.1 k = true) ∧ HasDistinctKeys es := by
  have hkeys := List.forall_mem_cons.mp h.isKey
  have hdistinct := List.pairwise_cons.mp h.distinct
  exact ⟨hkeys.1, hdistinct.1, hkeys.2, hdistinct.2⟩

end HasDistinctKeys

section Entries

variable {ν : Type} {es : List (Value × ν)} {k k' : Value} {v : ν}

theorem get?_cons (e : Value × ν) (es : List (Value × ν)) (k : Value) :
    Table.get? (e :: es) k = if same e.1 k = true then some e.2 else Table.get? es k := by
  have hbeq : (e.1 == k) = same e.1 k := rfl
  cases h : same e.1 k <;> simp [Table.get?, hbeq, h]

theorem put_cons (e : Value × ν) (es : List (Value × ν)) (k : Value) (v : ν) :
    Table.put (e :: es) k v =
      if same e.1 k = true then (e.1, v) :: es else e :: Table.put es k v :=
  rfl

theorem get?_eq_none_iff :
    Table.get? es k = none ↔ ∀ k' ∈ Table.keys es, ¬same k' k = true := by
  induction es with
  | nil => simp [Table.get?, Table.keys]
  | cons e es ih =>
    rw [get?_cons, Table.keys, List.map_cons, List.forall_mem_cons]
    split
    · next h => simp [h]
    · next h => exact ih.trans (and_iff_right h).symm

/-- Equal keys find the same value. -/
theorem get?_congr (hk : IsKey k) (h : same k k' = true) :
    Table.get? es k = Table.get? es k' := by
  induction es with
  | nil => rfl
  | cons e es ih =>
    have hiff : same e.1 k = true ↔ same e.1 k' = true :=
      ⟨fun hsame ↦ same_trans hsame h, fun hsame ↦ same_trans hsame (same_symm hk h)⟩
    rw [get?_cons, get?_cons, ih]
    simp only [hiff]

/-- What is found after a value was written to a key. -/
theorem get?_put (hes : ∀ k ∈ Table.keys es, IsKey k) (hk : IsKey k) :
    Table.get? (Table.put es k v) k' =
      if same k k' = true then some v else Table.get? es k' := by
  induction es with
  | nil => exact get?_cons (k, v) [] k'
  | cons e es ih =>
    obtain ⟨he, hes⟩ := List.forall_mem_cons.mp hes
    rw [put_cons, get?_cons e es]
    by_cases hek : same e.1 k = true
    · -- The key of the entry stands for the written one.
      have hiff : same e.1 k' = true ↔ same k k' = true :=
        ⟨fun h ↦ same_trans (same_symm he hek) h, fun h ↦ same_trans hek h⟩
      rw [if_pos hek, get?_cons]
      by_cases hkk' : same k k' = true
      · rw [if_pos (hiff.mpr hkk'), if_pos hkk']
      · rw [if_neg (mt hiff.mp hkk'), if_neg hkk', if_neg (mt hiff.mp hkk')]
    · rw [if_neg hek, get?_cons, ih hes]
      by_cases hek' : same e.1 k' = true
      · have hne : ¬same k k' = true :=
          fun h ↦ hek (same_trans hek' (same_symm hk h))
        rw [if_pos hek', if_neg hne, if_pos hek']
      · rw [if_neg hek', if_neg hek']

theorem isKey_of_mem_put (hes : ∀ k ∈ Table.keys es, IsKey k) (hk : IsKey k) :
    ∀ k' ∈ Table.keys (Table.put es k v), IsKey k' := by
  rw [Table.keys_put]
  split
  · exact hes
  · intro k' hk'
    rcases List.mem_append.mp hk' with h | h
    · exact hes k' h
    · exact List.mem_singleton.mp h ▸ hk

theorem isKey_of_mem_putAll {entries : List (Value × ν)} (hes : ∀ k ∈ Table.keys es, IsKey k)
    (hentries : ∀ e ∈ entries, IsKey e.1) : ∀ k ∈ Table.keys (Table.putAll es entries), IsKey k := by
  induction entries generalizing es with
  | nil => exact hes
  | cons e rest ih =>
    obtain ⟨he, hrest⟩ := List.forall_mem_cons.mp hentries
    exact ih (isKey_of_mem_put hes he) hrest

/-- Of the entries with a key, the last one that was written counts. -/
theorem get?_putAll {entries : List (Value × ν)} (hes : ∀ k ∈ Table.keys es, IsKey k)
    (hentries : ∀ e ∈ entries, IsKey e.1) (k : Value) :
    Table.get? (Table.putAll es entries) k =
      (Table.get? entries.reverse k).or (Table.get? es k) := by
  induction entries generalizing es with
  | nil => rfl
  | cons e rest ih =>
    obtain ⟨he, hrest⟩ := List.forall_mem_cons.mp hentries
    have hcons : Table.putAll es (e :: rest) = Table.putAll (Table.put es e.1 e.2) rest := rfl
    rw [hcons, ih (isKey_of_mem_put hes he) hrest, get?_put hes he, List.reverse_cons,
      Table.get?_append, get?_cons, Option.or_assoc]
    congr 1
    split <;> rfl

theorem get?_ofList {entries : List (Value × ν)} (hentries : ∀ e ∈ entries, IsKey e.1) (k : Value) :
    Table.get? (Table.ofList entries) k = Table.get? entries.reverse k :=
  (get?_putAll (List.forall_mem_nil _) hentries k).trans Option.or_none

theorem has_eq_any_keys (es : List (Value × ν)) (k : Value) :
    Table.has es k = (Table.keys es).any (same · k) := by
  rw [Table.keys, List.any_map]
  rfl

/-- A table has a key just if something is found there. -/
theorem has_congr {fs : List (Value × ν)} (h : Table.get? es k = Table.get? fs k) :
    Table.has es k = Table.has fs k := by
  have hiff (es : List (Value × ν)) : Table.has es k = false ↔ Table.get? es k = none := by
    rw [has_eq_any_keys, List.any_eq_false, get?_eq_none_iff]
  cases hfs : Table.has fs k with
  | false => rw [hiff, h, ← hiff, hfs]
  | true => rw [← Bool.not_eq_false, hiff, h, ← hiff, hfs]; exact Bool.noConfusion

/-- Writing to one key does not bring in another. -/
theorem has_put_of_not_same (h : ¬same k k' = true) :
    Table.has (Table.put es k v) k' = Table.has es k' := by
  rw [has_eq_any_keys, has_eq_any_keys, Table.keys_put]
  split
  · rfl
  · simp [h]

end Entries

/-- A value over what was there before, if anything is. -/
def overlay? (new old : Option Value) : Option Value :=
  match new with
  | none => old
  | some v => some (overlay v old)

@[simp] theorem overlay_none (v : Value) : overlay v none = v := by
  cases v <;> simp [overlay]

@[simp] theorem overlay?_none (new : Option Value) : overlay? new none = new := by
  cases new <;> simp [overlay?]

section Levels

variable {base override : List (Value × Value)}

/-- One level of a merge: each key holds what the two sides hold there, one over the other. -/
theorem get?_mergeEntries (hbase : ∀ k ∈ Table.keys base, IsKey k)
    (hoverride : HasDistinctKeys override) (k : Value) :
    Table.get? (mergeEntries override base) k =
      overlay? (Table.get? override k) (Table.get? base k) := by
  induction override generalizing base with
  | nil => rw [mergeEntries]; rfl
  | cons e rest ih =>
    obtain ⟨hkey, hdistinct, hrest⟩ := hoverride.of_cons
    obtain ⟨k₀, v⟩ := e
    rw [mergeEntries, ih (isKey_of_mem_put hbase hkey) hrest, get?_put hbase hkey, get?_cons]
    by_cases h : same k₀ k = true
    · have hnone : Table.get? rest k = none := get?_eq_none_iff.mpr fun k₁ hk₁ hsame ↦
        hdistinct k₁ hk₁ (same_symm (hrest.isKey k₁ hk₁) (same_trans hsame (same_symm hkey h)))
      rw [if_pos h, if_pos h, hnone, get?_congr hkey h]
      rfl
    · rw [if_neg h, if_neg h]

/-- The keys of the base keep their places, and the other ones follow in their order. -/
theorem keys_mergeEntries (hoverride : HasDistinctKeys override) :
    Table.keys (mergeEntries override base) =
      Table.keys base ++ (Table.keys override).filter fun k ↦ !Table.has base k := by
  induction override generalizing base with
  | nil => simp [mergeEntries, Table.keys]
  | cons e rest ih =>
    obtain ⟨-, hdistinct, hrest⟩ := hoverride.of_cons
    obtain ⟨k₀, v⟩ := e
    have hfilter (v : Value) :
        (Table.keys rest).filter (fun k ↦ !Table.has (Table.put base k₀ v) k) =
          (Table.keys rest).filter fun k ↦ !Table.has base k :=
      List.filter_congr fun k hk ↦ by rw [has_put_of_not_same (hdistinct k hk)]
    rw [mergeEntries, ih hrest, hfilter, Table.keys_put]
    cases hhas : Table.has base k₀ <;> simp [Table.keys, hhas]

end Levels

/-- Whether a value is no dictionary, so that no path leads further. -/
def isLeaf : Value → Bool
  | dict _ => false
  | _ => true

/-- What a value holds at a path of keys. -/
def at? : Value → List Value → Option Value
  | v, [] => some v
  | dict es, k :: path => (Table.get? es k).bind fun v ↦ v.at? path
  | _, _ :: _ => none

/-- A leaf stands at a proper prefix of the path. -/
def LeafAbove (v : Value) (path : List Value) : Prop :=
  ∃ front back leaf, path = front ++ back ∧ back ≠ [] ∧ v.at? front = some leaf ∧
    leaf.isLeaf = true

section Paths

variable {v : Value} {es : List (Value × Value)} {k : Value} {path : List Value}

theorem overlay_of_isLeaf (h : v.isLeaf = true) (old : Option Value) : overlay v old = v := by
  cases v with
  | dict es => cases h
  | _ => rfl

theorem overlay_over_leaf {old : Value} (h : old.isLeaf = true) : overlay v (some old) = v := by
  cases old with
  | dict es => cases h
  | _ => cases v <;> rfl

theorem isLeaf_overlay (v : Value) (old : Option Value) : (overlay v old).isLeaf = v.isLeaf := by
  cases v with
  | dict es =>
    rw [overlay.eq_def]
    split <;> simp_all [isLeaf]
  | _ => rfl

theorem at?_of_isLeaf (h : v.isLeaf = true) : v.at? (k :: path) = none := by
  cases v with
  | dict es => cases h
  | _ => rfl

theorem at?_dict_cons :
    (dict es).at? (k :: path) = (Table.get? es k).bind fun v ↦ v.at? path := rfl

theorem not_leafAbove_nil : ¬LeafAbove v [] := by
  rintro ⟨front, back, leaf, hpath, hback, -⟩
  exact hback (List.append_eq_nil_iff.mp hpath.symm).2

theorem leafAbove_of_isLeaf (h : v.isLeaf = true) : LeafAbove v (k :: path) :=
  ⟨[], k :: path, v, rfl, List.cons_ne_nil _ _, rfl, h⟩

theorem leafAbove_dict_cons_iff :
    LeafAbove (dict es) (k :: path) ↔ ∃ v, Table.get? es k = some v ∧ LeafAbove v path := by
  constructor
  · rintro ⟨front, back, leaf, hpath, hback, hleaf, hisLeaf⟩
    cases front with
    | nil =>
      cases hleaf
      cases hisLeaf
    | cons k' front =>
      obtain ⟨rfl, rfl⟩ := List.cons.inj hpath
      obtain ⟨v, hv, hleaf⟩ := Option.bind_eq_some_iff.mp hleaf
      exact ⟨v, hv, front, back, leaf, rfl, hback, hleaf, hisLeaf⟩
  · rintro ⟨v, hv, front, back, leaf, rfl, hback, hleaf, hisLeaf⟩
    exact ⟨k :: front, back, leaf, rfl, hback, by rw [at?_dict_cons, hv]; exact hleaf, hisLeaf⟩

theorem at?_of_leafAbove (h : LeafAbove v path) : v.at? path = none := by
  induction path generalizing v with
  | nil => exact absurd h not_leafAbove_nil
  | cons k path ih =>
    cases v with
    | dict es =>
      obtain ⟨v, hv, habove⟩ := leafAbove_dict_cons_iff.mp h
      rw [at?_dict_cons, hv]
      exact ih habove
    | _ => rfl

end Paths

/-- A value in which every dictionary that a path leads to has distinct keys. -/
inductive IsWellKeyed : Value → Prop
  | leaf {v : Value} (h : v.isLeaf = true) : IsWellKeyed v
  | dict {es : List (Value × Value)} (keys : HasDistinctKeys es)
      (values : ∀ e ∈ es, IsWellKeyed e.2) : IsWellKeyed (dict es)

namespace IsWellKeyed

variable {v w : Value} {es : List (Value × Value)}

theorem hasDistinctKeys (h : IsWellKeyed (.dict es)) : HasDistinctKeys es := by
  cases h with
  | leaf h => cases h
  | dict keys values => exact keys

theorem of_get? (h : IsWellKeyed (.dict es)) {k : Value} (hv : Table.get? es k = some v) :
    IsWellKeyed v := by
  cases h with
  | leaf h => cases h
  | dict keys values =>
    obtain ⟨k', -, hmem⟩ := Table.exists_mem_of_get? hv
    exact values _ hmem

theorem of_at? (h : IsWellKeyed v) {path : List Value} (hw : v.at? path = some w) :
    IsWellKeyed w := by
  induction path generalizing v with
  | nil =>
    cases hw
    exact h
  | cons k path ih =>
    cases v with
    | dict es =>
      obtain ⟨u, hu, hw⟩ := Option.bind_eq_some_iff.mp hw
      exact ih (h.of_get? hu) hw
    | _ => cases hw

end IsWellKeyed

/-- What one value over another holds at a path. -/
theorem at?_overlay {new old : Value} (hnew : IsWellKeyed new) (hold : IsWellKeyed old)
    (path : List Value) :
    (LeafAbove new path → (overlay new (some old)).at? path = none) ∧
      (¬LeafAbove new path →
        (overlay new (some old)).at? path = overlay? (new.at? path) (old.at? path)) := by
  induction path generalizing new old with
  | nil => exact ⟨fun h ↦ absurd h not_leafAbove_nil, fun _ ↦ rfl⟩
  | cons k path ih =>
    by_cases hleaf : new.isLeaf = true
    · rw [overlay_of_isLeaf hleaf]
      exact ⟨fun _ ↦ at?_of_isLeaf hleaf, fun h ↦ absurd (leafAbove_of_isLeaf hleaf) h⟩
    by_cases hleafOld : old.isLeaf = true
    · rw [overlay_over_leaf hleafOld, at?_of_isLeaf hleafOld, overlay?_none]
      exact ⟨at?_of_leafAbove, fun _ ↦ rfl⟩
    obtain ⟨override, rfl⟩ : ∃ override, new = dict override := by
      cases new <;> simp_all [isLeaf]
    obtain ⟨base, rfl⟩ : ∃ base, old = dict base := by
      cases old <;> simp_all [isLeaf]
    rw [overlay, at?_dict_cons, at?_dict_cons, at?_dict_cons, leafAbove_dict_cons_iff,
      get?_mergeEntries hold.hasDistinctKeys.isKey hnew.hasDistinctKeys]
    cases hget : Table.get? override k with
    | none => simp [overlay?]
    | some v =>
      cases hgetOld : Table.get? base k with
      | none =>
        simp only [overlay?_none, Option.bind_some, Option.bind_none, Option.some.injEq,
          exists_eq_left']
        exact ⟨at?_of_leafAbove, fun _ ↦ trivial⟩
      | some u => simpa [overlay?] using ih (hnew.of_get? hget) (hold.of_get? hgetOld)

/-- What it is for entries to be the deep merge of `base` and `override`. -/
structure IsMerge (base override merged : List (Value × Value)) : Prop where
  /-- A leaf of the overriding side is kept. -/
  leaf_of_override : ∀ path leaf, leaf.isLeaf = true → (dict override).at? path = some leaf →
    (dict merged).at? path = some leaf
  /-- A leaf of the base is kept where the overriding side holds nothing, here or as a leaf above. -/
  leaf_of_base : ∀ path leaf, leaf.isLeaf = true → (dict base).at? path = some leaf →
    (dict override).at? path = none → ¬LeafAbove (dict override) path →
    (dict merged).at? path = some leaf
  /-- There are no other leaves. -/
  leaf_cases : ∀ path leaf, leaf.isLeaf = true → (dict merged).at? path = some leaf →
    (dict override).at? path = some leaf ∨ (dict base).at? path = some leaf
  /-- Where both sides hold dictionaries, the keys of the base come first, then the new ones, and
  what is not a dictionary on both sides is taken over as it is. -/
  level : ∀ path old new, (dict base).at? path = some (dict old) →
    (dict override).at? path = some (dict new) →
    ∃ es, (dict merged).at? path = some (dict es) ∧
      Table.keys es = Table.keys old ++ (Table.keys new).filter (fun k ↦ !Table.has old k) ∧
      (∀ k, Table.get? new k = none → Table.get? es k = Table.get? old k) ∧
      ∀ k v, Table.get? new k = some v →
        (v.isLeaf = true ∨ ∀ u, Table.get? old k = some u → u.isLeaf = true) →
        Table.get? es k = some v

/-- A deep merge holds the leaves of both sides, of which those of the overriding side win, and
keeps the order of keys level by level. -/
theorem isMerge_merge {base override : List (Value × Value)} (hbase : IsWellKeyed (dict base))
    (hoverride : IsWellKeyed (dict override)) : IsMerge base override (merge base override) := by
  have hmerge : dict (merge base override) = overlay (dict override) (some (dict base)) := by
    rw [overlay, merge]
  have hnone (path : List Value) (h : LeafAbove (dict override) path) :
      (dict (merge base override)).at? path = none :=
    hmerge ▸ (at?_overlay hoverride hbase path).1 h
  have hsome (path : List Value) (h : ¬LeafAbove (dict override) path) :
      (dict (merge base override)).at? path =
        overlay? ((dict override).at? path) ((dict base).at? path) :=
    hmerge ▸ (at?_overlay hoverride hbase path).2 h
  have hclear {path : List Value} {v : Value} (h : (dict override).at? path = some v) :
      ¬LeafAbove (dict override) path :=
    fun habove ↦ Option.some_ne_none v (h.symm.trans (at?_of_leafAbove habove))
  refine ⟨fun path leaf hleaf hpath ↦ ?_, fun path leaf hleaf hpath hfree habove ↦ ?_,
    fun path leaf hleaf hpath ↦ ?_, fun path old new hold hnew ↦ ?_⟩
  · rw [hsome path (hclear hpath), hpath, overlay?, overlay_of_isLeaf hleaf]
  · rw [hsome path habove, hfree, hpath, overlay?]
  · by_cases habove : LeafAbove (dict override) path
    · rw [hnone path habove] at hpath
      cases hpath
    · rw [hsome path habove] at hpath
      cases hnew : (dict override).at? path with
      | none =>
        rw [hnew] at hpath
        exact .inr hpath
      | some v =>
        rw [hnew, overlay?, Option.some.injEq] at hpath
        have hv : v.isLeaf = true := by rw [← isLeaf_overlay v, hpath, hleaf]
        rw [← hpath, overlay_of_isLeaf hv]
        exact .inl rfl
  · have hkeys := (hbase.of_at? hold).hasDistinctKeys
    have hkeysNew := (hoverride.of_at? hnew).hasDistinctKeys
    refine ⟨mergeEntries new old, ?_, keys_mergeEntries hkeysNew, fun k hk ↦ ?_,
      fun k v hk hv ↦ ?_⟩
    · rw [hsome path (hclear hnew), hnew, hold, overlay?, overlay]
    · rw [get?_mergeEntries hkeys.isKey hkeysNew, hk, overlay?]
    · rw [get?_mergeEntries hkeys.isKey hkeysNew, hk, overlay?]
      rcases hv with hv | hv
      · rw [overlay_of_isLeaf hv]
      · cases hu : Table.get? old k with
        | none => rw [overlay_none]
        | some u => rw [overlay_over_leaf (hv u hu)]

/-- The keys `1`, `1.0` and `True` are one, so that a merge goes on below them. -/
theorem isMerge_of_equal_keys :
    let base := [(int 1, dict [(text "a", int 5), (text "b", text "old")]), (text "c", null)]
    let override := [(text "d", dict []), (float 1, dict [(text "b", text "new")])]
    let merged := merge base override
    IsMerge base override merged ∧ Table.keys merged = [int 1, text "c", text "d"] ∧
      (dict merged).at? [bool true, text "a"] = some (int 5) ∧
      (dict merged).at? [bool true, text "b"] = some (text "new") := by
  intro base override merged
  have hleaves (es : List (Value × Value)) (h : HasDistinctKeys es)
      (hes : ∀ e ∈ es, e.2.isLeaf = true) : IsWellKeyed (dict es) :=
    .dict h fun e he ↦ .leaf (hes e he)
  have hbase : IsWellKeyed (dict base) := by
    refine .dict ⟨by decide, by decide⟩ ?_
    simp only [base, List.forall_mem_cons]
    exact ⟨hleaves _ ⟨by decide, by decide⟩ (by decide), .leaf rfl, by simp⟩
  have hoverride : IsWellKeyed (dict override) := by
    refine .dict ⟨by decide, by decide⟩ ?_
    simp only [override, List.forall_mem_cons]
    exact ⟨hleaves _ ⟨by decide, by decide⟩ (by simp),
      hleaves _ ⟨by decide, by decide⟩ (by decide), by simp⟩
  exact ⟨isMerge_merge hbase hoverride, rfl, rfl, rfl⟩

end Provisioning.Value
