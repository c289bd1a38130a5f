import Provisioning.Proofs.Value.Merge

/-!
The laws of the deep merge. A merge is the base with every value laid over, followed by the entries
of the overriding side that have new keys (`mergeEntries_eq`). By this form three dictionaries merge
to the same in either grouping, unless the one in the middle puts something else where the two others
hold dictionaries (`overlay_assoc`), and a dictionary merged with itself stays as it is
(`overlay_self`). Results are the same entry by entry, so the order of the keys is part of the laws.
-/

set_option autoImplicit false

namespace Provisioning.Value

section Entries

variable {ν : Type} {es : List (Value × ν)} {k : Value} {v : ν}

theorem has_eq_isSome_get? : Table.has es k = (Table.get? es k).isSome := by
  rw [Table.has, Table.get?, Option.isSome_map, Bool.eq_iff_iff, List.find?_isSome, List.any_eq_true]

theorem has_eq_false_iff : Table.has es k = false ↔ ∀ k' ∈ Table.keys es, ¬same k' k = true := by
  rw [has_eq_isSome_get?, Option.isSome_eq_false_iff, Option.isNone_iff_eq_none, get?_eq_none_iff]

namespace HasDistinctKeys

variable {es : List (Value × Value)} {e : Value × Value} {v : Value}

/-- A key that equals that of the first entry equals none of those that follow. -/
theorem not_same_of_head (h : HasDistinctKeys (e :: es)) (hk : same e.1 k = true) :
    ∀ k' ∈ Table.keys es, ¬same k' k = true := by
  obtain ⟨hkey, hdistinct, hes⟩ := h.of_cons
  exact fun k' hk' hsame ↦
    hdistinct k' hk' (same_trans hk (same_symm (hes.isKey k' hk') hsame))

theorem put (h : HasDistinctKeys es) (hk : IsKey k) (v : Value) :
    HasDistinctKeys (Table.put es k v) := by
  refine ⟨isKey_of_mem_put h.isKey hk, ?_⟩
  rw [Table.keys_put]
  split
  · exact h.distinct
  · next hnew =>
    refine List.pairwise_append.mpr ⟨h.distinct, List.pairwise_singleton _ _, ?_⟩
    intro k' hk' k'' hk''
    rw [List.mem_singleton.mp hk'']
    exact has_eq_false_iff.mp (Bool.eq_false_iff.mpr hnew) k' hk'

/-- Writing to a key that is there changes the value of its one entry. -/
theorem put_eq_map (h : HasDistinctKeys es) (hhas : Table.has es k = true) :
    Table.put es k v = es.map fun e ↦ if same e.1 k = true then (e.1, v) else e := by
  induction es with
  | nil => cases hhas
  | cons e es ih =>
    rw [put_cons, List.map_cons]
    by_cases hsame : same e.1 k = true
    · have hrest : es.map (fun e ↦ if same e.1 k = true then (e.1, v) else e) = es := by
        refine (List.map_congr_left fun e' he' ↦ ?_).trans (List.map_id' es)
        rw [if_neg (h.not_same_of_head hsame e'.1 (List.mem_map_of_mem he'))]
      rw [if_pos hsame, if_pos hsame, hrest]
    · have hhas' : Table.has es k = true := by
        rw [has_eq_isSome_get?, get?_cons, if_neg hsame, ← has_eq_isSome_get?] at hhas
        exact hhas
      rw [if_neg hsame, if_neg hsame, ih h.of_cons.2.2 hhas']

theorem get?_of_mem (h : HasDistinctKeys es) (he : e ∈ es) : Table.get? es e.1 = some e.2 := by
  induction es with
  | nil => cases he
  | cons e' es ih =>
    rw [get?_cons]
    rcases List.mem_cons.mp he with rfl | he
    · rw [if_pos (same_refl _)]
    · rw [if_neg (h.of_cons.2.1 _ (List.mem_map_of_mem he)), ih h.of_cons.2.2 he]

end HasDistinctKeys

end Entries

/-- An old value with what the overriding side holds at its key, if anything, laid over it. -/
def laidOver (new : Option Value) (old : Value) : Value :=
  match new with
  | none => old
  | some v => overlay v (some old)

section Levels

variable {base override : List (Value × Value)}

theorem HasDistinctKeys.mergeEntries (hbase : HasDistinctKeys base)
    (hoverride : HasDistinctKeys override) : HasDistinctKeys (mergeEntries override base) := by
  induction override generalizing base with
  | nil => rwa [Value.mergeEntries]
  | cons e rest ih =>
    obtain ⟨hkey, -, hrest⟩ := hoverride.of_cons
    rw [Value.mergeEntries]
    exact ih (hbase.put hkey _) hrest

theorem has_mergeEntries (hbase : ∀ k ∈ Table.keys base, IsKey k)
    (hoverride : HasDistinctKeys override) (k : Value) :
    Table.has (mergeEntries override base) k = (Table.has base k || Table.has override k) := by
  rw [has_eq_isSome_get?, has_eq_isSome_get?, has_eq_isSome_get?,
    get?_mergeEntries hbase hoverride]
  cases Table.get? override k with
  | none => rw [overlay?, Option.isSome_none, Bool.or_false]
  | some v => rw [overlay?, Option.isSome_some, Option.isSome_some, Bool.or_true]

/-- The entries of a merge: those of the base with the values of the other side laid over, then
those that have new keys. -/
theorem mergeEntries_eq (hbase : HasDistinctKeys base) (hoverride : HasDistinctKeys override) :
    mergeEntries override base =
      base.map (fun e ↦ (e.1, laidOver (Table.get? override e.1) e.2)) ++
        override.filter fun e ↦ !Table.has base e.1 := by
  induction override generalizing base with
  | nil => simp [mergeEntries, Table.get?, laidOver]
  | cons e rest ih =>
    obtain ⟨hkey, hdistinct, hrest⟩ := hoverride.of_cons
    obtain ⟨k, v⟩ := e
    -- Keys of the other entries are as new after this entry was written as they were before.
    have hnew (u : Value) : rest.filter (fun e ↦ !Table.has (Table.put base k u) e.1) =
        rest.filter fun e ↦ !Table.has base e.1 :=
      List.filter_congr fun e he ↦ by
        rw [has_put_of_not_same (hdistinct e.1 (List.mem_map_of_mem he))]
    have hunfound {k' : Value} (h : same k k' = true) : Table.get? rest k' = none :=
      get?_eq_none_iff.mpr (hoverride.not_same_of_head h)
    rw [mergeEntries, ih (hbase.put hkey _) hrest, hnew]
    cases hhas : Table.has base k with
    | true =>
      rw [hbase.put_eq_map hhas, List.map_map, List.filter_cons_of_neg (by simp [hhas])]
      congr 1
      refine List.map_congr_left fun e he ↦ ?_
      have hold : same e.1 k = true → Table.get? base k = some e.2 := fun h ↦ by
        rw [← get?_congr (hbase.isKey e.1 (List.mem_map_of_mem he)) h]
        exact hbase.get?_of_mem he
      rw [Function.comp_apply, get?_cons]
      by_cases hsame : same e.1 k = true
      · have hback := same_symm (hbase.isKey e.1 (List.mem_map_of_mem he)) hsame
        rw [if_pos hsame, if_pos hback, hunfound hback, hold hsame]
        rfl
      · rw [if_neg hsame, if_neg fun h ↦ hsame (same_symm hkey h)]
    | false =>
      have hmap : base.map (fun e ↦ (e.1, laidOver (Table.get? rest e.1) e.2)) =
          base.map fun e ↦ (e.1, laidOver (Table.get? ((k, v) :: rest) e.1) e.2) := by
        refine List.map_congr_left fun e he ↦ ?_
        have hne : ¬same k e.1 = true := fun h ↦
          has_eq_false_iff.mp hhas e.1 (List.mem_map_of_mem he) (same_symm hkey h)
        rw [get?_cons, if_neg hne]
      have hnone : Table.get? base k = none := get?_eq_none_iff.mpr (has_eq_false_iff.mp hhas)
      have hself : laidOver (Table.get? rest k) v = v := by
        rw [hunfound (same_refl k), laidOver]
      rw [Table.put_of_has_eq_false hhas, hnone, overlay_none, List.map_append, hmap,
        List.filter_cons_of_pos (by simp [hhas]), List.append_assoc, List.map_singleton, hself,
        List.singleton_append]

/-- Writing a leaf to a key of the overriding side writes it to the merge. -/
theorem mergeEntries_put {k x : Value} (hbase : HasDistinctKeys base)
    (hoverride : HasDistinctKeys override) (hk : IsKey k) (hhas : Table.has override k = true)
    (hx : x.isLeaf = true) :
    mergeEntries (Table.put override k x) base = Table.put (mergeEntries override base) k x := by
  have hmerged : Table.has (mergeEntries override base) k = true := by
    rw [has_mergeEntries hbase.isKey hoverride, hhas, Bool.or_true]
  rw [(hbase.mergeEntries hoverride).put_eq_map hmerged, mergeEntries_eq hbase (hoverride.put hk x),
    mergeEntries_eq hbase hoverride, List.map_append, List.map_map]
  congr 1
  · refine List.map_congr_left fun e he ↦ ?_
    have hiff : same k e.1 = true ↔ same e.1 k = true :=
      ⟨same_symm hk, same_symm (hbase.isKey e.1 (List.mem_map_of_mem he))⟩
    rw [get?_put hoverride.isKey hk, Function.comp_apply]
    by_cases h : same e.1 k = true
    · rw [if_pos (hiff.mpr h), if_pos h, laidOver, overlay_of_isLeaf hx]
    · rw [if_neg (mt hiff.mp h), if_neg h]
  · rw [hoverride.put_eq_map hhas, List.filter_map]
    congr 1
    refine List.filter_congr fun e _ ↦ ?_
    rw [Function.comp_apply]
    split <;> rfl

/-- What was written to a key of the base is not there any more once a leaf was merged over it. -/
theorem mergeEntries_over_put {k x leaf : Value} (hbase : HasDistinctKeys base)
    (hoverride : HasDistinctKeys override) (hk : IsKey k) (hhas : Table.has base k = true)
    (hget : Table.get? override k = some leaf) (hleaf : leaf.isLeaf = true) :
    mergeEntries override (Table.put base k x) = mergeEntries override base := by
  have hsame (k' : Value) : Table.has (Table.put base k x) k' = Table.has base k' := by
    rw [has_eq_any_keys, has_eq_any_keys, Table.keys_put, if_pos hhas]
  rw [mergeEntries_eq (hbase.put hk x) hoverride, mergeEntries_eq hbase hoverride,
    hbase.put_eq_map hhas, List.map_map]
  congr 1
  · refine List.map_congr_left fun e he ↦ ?_
    rw [Function.comp_apply]
    split
    · next h =>
      have hfound : Table.get? override e.1 = some leaf := by
        rw [← hget]
        exact (get?_congr hk
          (same_symm (hbase.isKey e.1 (List.mem_map_of_mem he)) h)).symm
      rw [hfound, laidOver, laidOver, overlay_of_isLeaf hleaf, overlay_of_isLeaf hleaf]
    · rfl
  · refine List.filter_congr fun e _ ↦ ?_
    rw [← hbase.put_eq_map hhas, hsame]

end Levels

theorem IsWellKeyed.overlay {new old : Value} (hnew : IsWellKeyed new) (hold : IsWellKeyed old) :
    IsWellKeyed (overlay new (some old)) := by
  induction hnew generalizing old with
  | leaf h => exact (overlay_of_isLeaf h _).symm ▸ .leaf h
  | @dict es keys values ih =>
    cases hold with
    | leaf h => exact (overlay_over_leaf h).symm ▸ .dict keys values
    | dict keysOld valuesOld =>
      rw [Value.overlay]
      refine .dict (keysOld.mergeEntries keys) fun e he ↦ ?_
      rw [mergeEntries_eq keysOld keys] at he
      rcases List.mem_append.mp he with he | he
      · obtain ⟨e₀, he₀, rfl⟩ := List.mem_map.mp he
        cases hget : Table.get? es e₀.1 with
        | none => exact valuesOld e₀ he₀
        | some v =>
          obtain ⟨k, -, hmem⟩ := Table.exists_mem_of_get? hget
          exact ih _ hmem (valuesOld e₀ he₀)
      · exact values e (List.mem_filter.mp he).1

/-! ### Grouping -/

/-- Wherever `u` and `w` both hold dictionaries, `v` holds nothing or a dictionary. -/
def Bridges (u v w : Value) : Prop :=
  ∀ path us ws v', u.at? path = some (dict us) → w.at? path = some (dict ws) →
    v.at? path = some v' → v'.isLeaf = false

/-- One level of the grouping law. -/
theorem mergeEntries_assoc {a b c : List (Value × Value)} (ha : HasDistinctKeys a)
    (hb : HasDistinctKeys b) (hc : HasDistinctKeys c)
    (hvalues : ∀ e ∈ a, ∀ v w, Table.get? b e.1 = some v → Table.get? c e.1 = some w →
      overlay w (some (overlay v (some e.2))) = overlay (overlay w (some v)) (some e.2)) :
    mergeEntries c (mergeEntries b a) = mergeEntries (mergeEntries c b) a := by
  have hlaid (e : Value × Value) (he : e ∈ a) :
      laidOver (Table.get? c e.1) (laidOver (Table.get? b e.1) e.2) =
        laidOver (Table.get? (mergeEntries c b) e.1) e.2 := by
    rw [get?_mergeEntries hb.isKey hc]
    cases hw : Table.get? c e.1 with
    | none => rfl
    | some w =>
      cases hv : Table.get? b e.1 with
      | none => rw [overlay?_none]; rfl
      | some v => exact hvalues e he v w hv hw
  have hnew (e : Value × Value) :
      (!Table.has (mergeEntries b a) e.1) = (!Table.has a e.1 && !Table.has b e.1) := by
    rw [has_mergeEntries ha.isKey hb, Bool.not_or]
  -- The entries of `a`, then the new ones of `b`, then those of `c` that neither has.
  have hleft : mergeEntries c (mergeEntries b a) =
      a.map (fun e ↦ (e.1, laidOver (Table.get? (mergeEntries c b) e.1) e.2)) ++
        ((b.filter fun e ↦ !Table.has a e.1).map
            (fun e ↦ (e.1, laidOver (Table.get? c e.1) e.2)) ++
          c.filter fun e ↦ !Table.has a e.1 && !Table.has b e.1) := by
    rw [mergeEntries_eq (ha.mergeEntries hb) hc, List.filter_congr fun e _ ↦ hnew e,
      mergeEntries_eq ha hb, List.map_append, List.map_map, List.append_assoc]
    congr 1
    exact List.map_congr_left fun e he ↦ Prod.ext rfl (hlaid e he)
  have hright : (mergeEntries c b).filter (fun e ↦ !Table.has a e.1) =
      (b.filter fun e ↦ !Table.has a e.1).map (fun e ↦ (e.1, laidOver (Table.get? c e.1) e.2)) ++
        c.filter fun e ↦ !Table.has a e.1 && !Table.has b e.1 := by
    rw [mergeEntries_eq hb hc, List.filter_append, List.filter_map, List.filter_filter]
    rfl
  rw [hleft, mergeEntries_eq ha (hb.mergeEntries hc), hright]

theorem overlay_assoc {u v w : Value} (hu : IsWellKeyed u) (hv : IsWellKeyed v)
    (hw : IsWellKeyed w) (hbridges : Bridges u v w) :
    overlay w (some (overlay v (some u))) = overlay (overlay w (some v)) (some u) := by
  induction hu generalizing v w with
  | leaf h => rw [overlay_over_leaf h, overlay_over_leaf h]
  | @dict a ha values ih =>
    cases hw with
    | leaf h => rw [overlay_of_isLeaf h, overlay_of_isLeaf h, overlay_of_isLeaf h]
    | @dict c hc valuesC =>
      cases hv with
      | leaf h =>
        have hdict := hbridges [] a c v rfl rfl rfl
        rw [h] at hdict
        cases hdict
      | @dict b hb valuesB =>
        rw [overlay, overlay, overlay, overlay]
        refine congrArg dict (mergeEntries_assoc ha hb hc fun e he v w hv hw ↦ ?_)
        have hfound : Table.get? a e.1 = some e.2 := ha.get?_of_mem he
        refine ih e he ((IsWellKeyed.dict hb valuesB).of_get? hv)
          ((IsWellKeyed.dict hc valuesC).of_get? hw) fun path us ws v' hus hws hv' ↦ ?_
        refine hbridges (e.1 :: path) us ws v' ?_ ?_ ?_
        · rw [at?_dict_cons, hfound, Option.bind_some, hus]
        · rw [at?_dict_cons, hw, Option.bind_some, hws]
        · rw [at?_dict_cons, hv, Option.bind_some, hv']

/-- The grouping matters where a dictionary is replaced and then brought back: what was in it is gone
if the two lower ones are merged first. -/
example :
    let a := [(text "tags", dict [(text "x", int 1)])]
    let b := [(text "tags", null)]
    let c := [(text "tags", dict [(text "y", int 2)])]
    (dict (merge (merge a b) c)).at? [text "tags", text "x"] = none ∧
      (dict (merge a (merge b c))).at? [text "tags", text "x"] = some (int 1) :=
  ⟨rfl, rfl⟩

/-! ### Repetition -/

theorem overlay_self {v : Value} (hv : IsWellKeyed v) : overlay v (some v) = v := by
  induction hv with
  | leaf h => exact overlay_of_isLeaf h _
  | @dict es hes values ih =>
    have hmap : es.map (fun e ↦ (e.1, laidOver (Table.get? es e.1) e.2)) = es := by
      refine (List.map_congr_left fun e he ↦ ?_).trans (List.map_id' es)
      rw [hes.get?_of_mem he, laidOver, ih e he]
    have hfilter : es.filter (fun e ↦ !Table.has es e.1) = [] := by
      refine List.filter_eq_nil_iff.mpr fun e he ↦ ?_
      rw [has_eq_isSome_get?, hes.get?_of_mem he]
      simp
    rw [overlay, mergeEntries_eq hes hes, hmap, hfilter, List.append_nil]

/-- This goes for the key that is not a number, too, which is found though it equals nothing. -/
example :
    let nan := float (Float.ofBits 0x7FF8000000000000)
    merge [(nan, int 1)] [(nan, int 2)] = [(nan, int 2)] ∧ nan.equals nan = false :=
  ⟨rfl, rfl⟩

/-- What was laid over once is not laid over again. -/
theorem overlay_overlay_self {u v : Value} (hu : IsWellKeyed u) (hv : IsWellKeyed v) :
    overlay v (some (overlay v (some u))) = overlay v (some u) := by
  have hbridges : Bridges u v v := fun path us ws v' _ hws hv' ↦ by
    cases hws.symm.trans hv'
    rfl
  rw [overlay_assoc hu hv hv hbridges, overlay_self hv]

end Provisioning.Value
