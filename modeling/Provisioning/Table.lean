/-!
Tables in insertion order. Writing to a key that is present replaces the value and keeps both the
key and its place; writing to a new key adds it at the end.
-/

set_option autoImplicit false

namespace Provisioning

variable {κ ν : Type}

/-- Keys and values in the order in which the keys were first written. -/
abbrev Table (κ ν : Type) := List (κ × ν)

private theorem nodup_append_singleton {α : Type} {xs : List α} {x : α} (h : xs.Nodup)
    (hx : x ∉ xs) : (xs ++ [x]).Nodup := by
  rw [List.nodup_append]
  refine ⟨h, by simp, ?_⟩
  rintro a ha b hb rfl
  exact hx (List.mem_singleton.mp hb ▸ ha)

namespace Table

/-- The keys in order. -/
def keys (t : Table κ ν) : List κ :=
  t.map Prod.fst

variable [BEq κ]

/-- The value of a key. -/
def get? (t : Table κ ν) (k : κ) : Option ν :=
  (t.find? fun e ↦ e.1 == k).map Prod.snd

/-- Whether a key is present. -/
def has (t : Table κ ν) (k : κ) : Bool :=
  t.any fun e ↦ e.1 == k

/-- Writes a value to a key. -/
def put (t : Table κ ν) (k : κ) (v : ν) : Table κ ν :=
  match t with
  | [] => [(k, v)]
  | (k', v') :: rest => if k' == k then (k', v) :: rest else (k', v') :: put rest k v

/-- Writes every entry of a list, one after another. -/
def putAll (t : Table κ ν) (entries : List (κ × ν)) : Table κ ν :=
  entries.foldl (fun t e ↦ t.put e.1 e.2) t

/-- The table that a list of entries builds. -/
def ofList (entries : List (κ × ν)) : Table κ ν :=
  putAll [] entries

theorem keys_put (t : Table κ ν) (k : κ) (v : ν) :
    (t.put k v).keys = if t.has k then t.keys else t.keys ++ [k] := by
  induction t with
  | nil => rfl
  | cons e rest ih =>
    obtain ⟨k', v'⟩ := e
    by_cases h : k' == k
    · simp [put, has, keys, h]
    · simp only [keys, has] at ih
      cases hb : rest.any fun e ↦ e.1 == k <;>
        simp [put, keys, has, h, hb, ih, -List.any_eq_true, -List.any_eq_false]

theorem keys_prefix_put (t : Table κ ν) (k : κ) (v : ν) : t.keys <+: (t.put k v).keys := by
  rw [keys_put]
  split
  · exact List.prefix_rfl
  · exact List.prefix_append _ _

/-- Writing entries adds keys only after those that are there. -/
theorem keys_prefix_putAll (t : Table κ ν) (entries : List (κ × ν)) :
    t.keys <+: (t.putAll entries).keys := by
  induction entries generalizing t with
  | nil => exact List.prefix_rfl
  | cons e rest ih => exact (keys_prefix_put t e.1 e.2).trans (ih (t.put e.1 e.2))

theorem put_of_has_eq_false {t : Table κ ν} {k : κ} (h : t.has k = false) (v : ν) :
    t.put k v = t ++ [(k, v)] := by
  induction t with
  | nil => rfl
  | cons e rest ih =>
    rw [has, List.any_cons, Bool.or_eq_false_iff] at h
    rw [put, if_neg (Bool.eq_false_iff.mp h.1), ih h.2, List.cons_append]

theorem putAll_append (t : Table κ ν) (xs ys : List (κ × ν)) :
    t.putAll (xs ++ ys) = (t.putAll xs).putAll ys :=
  List.foldl_append

theorem ofList_append (xs ys : List (κ × ν)) : ofList (xs ++ ys) = (ofList xs).putAll ys :=
  putAll_append [] xs ys

theorem get?_append (xs ys : Table κ ν) (k : κ) :
    get? (xs ++ ys) k = (xs.get? k).or (ys.get? k) := by
  rw [get?, List.find?_append, Option.map_or]
  rfl

theorem get?_put_self [ReflBEq κ] (t : Table κ ν) (k : κ) (v : ν) :
    (t.put k v).get? k = some v := by
  induction t with
  | nil => simp [put, get?]
  | cons e rest ih =>
    obtain ⟨k', v'⟩ := e
    by_cases h : k' == k
    · simp [put, get?, h]
    · simp only [get?] at ih
      simp [put, get?, h, ih]

/-- What is found at a key is the value of an entry with an equal key. -/
theorem exists_mem_of_get? {t : Table κ ν} {k : κ} {v : ν} (h : t.get? k = some v) :
    ∃ k', (k' == k) = true ∧ (k', v) ∈ t := by
  obtain ⟨e, hfind, rfl⟩ := Option.map_eq_some_iff.mp h
  have hkey := List.find?_some hfind
  exact ⟨e.1, hkey, List.mem_of_find?_eq_some hfind⟩

variable [LawfulBEq κ]

/-- In a table that has every key once, an entry is what is found at its key. -/
theorem get?_of_mem {t : Table κ ν} (h : t.keys.Nodup) {e : κ × ν} (he : e ∈ t) :
    t.get? e.1 = some e.2 := by
  induction t with
  | nil => cases he
  | cons e' rest ih =>
    rw [keys, List.map_cons, List.nodup_cons] at h
    rcases List.mem_cons.mp he with rfl | he
    · simp [get?]
    · have hne : e'.1 ≠ e.1 := fun heq ↦ h.1 (heq ▸ List.mem_map_of_mem he)
      have hrest := ih h.2 he
      rw [get?] at hrest ⊢
      rwa [List.find?_cons_of_neg (by simpa using hne)]

theorem mem_iff_get? {t : Table κ ν} (h : t.keys.Nodup) {e : κ × ν} :
    e ∈ t ↔ t.get? e.1 = some e.2 := by
  refine ⟨get?_of_mem h, fun hget ↦ ?_⟩
  obtain ⟨k, hk, hmem⟩ := exists_mem_of_get? hget
  rwa [beq_iff_eq.mp hk] at hmem

theorem has_eq_true_iff {t : Table κ ν} {k : κ} : t.has k = true ↔ k ∈ t.keys := by
  simp only [has, keys, List.any_eq_true, beq_iff_eq, List.mem_map]

theorem exists_get?_iff {t : Table κ ν} {k : κ} : (∃ v, t.get? k = some v) ↔ k ∈ t.keys := by
  rw [← Option.isSome_iff_exists, get?, Option.isSome_map, List.find?_isSome]
  simp [keys]

theorem put_of_get? {t : Table κ ν} {k : κ} {v : ν} (h : t.get? k = some v) : t.put k v = t := by
  induction t with
  | nil => cases h
  | cons e rest ih =>
    obtain ⟨k', v'⟩ := e
    by_cases hk : k' = k
    · simp only [get?, hk, beq_self_eq_true, List.find?_cons_of_pos, Option.map_some,
        Option.some.injEq] at h
      simp [put, hk, h]
    · simp only [get?, beq_iff_eq, hk, not_false_eq_true, List.find?_cons_of_neg] at h ih
      simp [put, hk, ih h]

theorem mem_keys_put {t : Table κ ν} {k k' : κ} {v : ν} :
    k' ∈ (t.put k v).keys ↔ k' ∈ t.keys ∨ k' = k := by
  rw [keys_put]
  split
  · next h =>
    have hk := has_eq_true_iff.mp h
    exact ⟨Or.inl, fun h' ↦ h'.elim id fun heq ↦ heq ▸ hk⟩
  · rw [List.mem_append, List.mem_singleton]

theorem nodup_keys_put {t : Table κ ν} (h : t.keys.Nodup) (k : κ) (v : ν) :
    (t.put k v).keys.Nodup := by
  rw [keys_put]
  split
  · exact h
  · next hnew =>
    exact nodup_append_singleton h (mt has_eq_true_iff.mpr hnew)

theorem nodup_keys_putAll {t : Table κ ν} (h : t.keys.Nodup) (entries : List (κ × ν)) :
    (t.putAll entries).keys.Nodup := by
  induction entries generalizing t with
  | nil => exact h
  | cons e rest ih => exact ih (nodup_keys_put h e.1 e.2)

theorem mem_keys_putAll {t : Table κ ν} {entries : List (κ × ν)} {k : κ}
    (h : k ∈ (t.putAll entries).keys) : k ∈ t.keys ∨ ∃ e ∈ entries, e.1 = k := by
  induction entries generalizing t with
  | nil => exact Or.inl h
  | cons e rest ih =>
    rcases ih h with h | ⟨e', he', rfl⟩
    · rcases mem_keys_put.mp h with h | rfl
      · exact Or.inl h
      · exact Or.inr ⟨e, List.mem_cons_self, rfl⟩
    · exact Or.inr ⟨e', List.mem_cons_of_mem e he', rfl⟩

theorem get?_put_of_ne {t : Table κ ν} {k k' : κ} (h : k ≠ k') (v : ν) :
    (t.put k v).get? k' = t.get? k' := by
  induction t with
  | nil => simp [put, get?, h]
  | cons e rest ih =>
    obtain ⟨k₀, v₀⟩ := e
    simp only [get?] at ih
    by_cases hk : k₀ = k
    · simp [put, get?, hk, h]
    · by_cases hk' : k₀ = k'
      · simp [put, get?, hk', h.symm]
      · simp [put, get?, hk, hk', ih]

/-- Writing entries leaves the values of all other keys alone. -/
theorem get?_putAll_of_notMem {t : Table κ ν} {entries : List (κ × ν)} {k : κ}
    (h : k ∉ keys entries) : (t.putAll entries).get? k = t.get? k := by
  induction entries generalizing t with
  | nil => rfl
  | cons e rest ih =>
    rw [keys, List.map_cons, List.mem_cons, not_or] at h
    exact (ih h.2).trans (get?_put_of_ne (Ne.symm h.1) e.2)

theorem get?_putAll_of_mem {t : Table κ ν} {entries : List (κ × ν)}
    (hnodup : (keys entries).Nodup) {e : κ × ν} (he : e ∈ entries) :
    (t.putAll entries).get? e.1 = some e.2 := by
  induction entries generalizing t with
  | nil => cases he
  | cons e' rest ih =>
    rw [keys, List.map_cons, List.nodup_cons] at hnodup
    rcases List.mem_cons.mp he with rfl | he
    · exact (get?_putAll_of_notMem hnodup.1).trans (get?_put_self t e.1 e.2)
    · exact ih hnodup.2 he

/-- Entries that were written last are not written again. -/
theorem putAll_putAll_self {t : Table κ ν} {entries : List (κ × ν)}
    (hnodup : (keys entries).Nodup) :
    (t.putAll entries).putAll entries = t.putAll entries := by
  have hkeep {t : Table κ ν} {es : List (κ × ν)} (h : ∀ e ∈ es, t.get? e.1 = some e.2) :
      t.putAll es = t := by
    induction es with
    | nil => rfl
    | cons e rest ih =>
      have hfirst : t.put e.1 e.2 = t := put_of_get? (h e List.mem_cons_self)
      exact (congrArg (putAll · rest) hfirst).trans
        (ih fun e' he' ↦ h e' (List.mem_cons_of_mem e he'))
  exact hkeep fun e he ↦ get?_putAll_of_mem hnodup he

theorem keys_putAll_of_subset {t : Table κ ν} {entries : List (κ × ν)}
    (h : ∀ k ∈ keys entries, k ∈ t.keys) : (t.putAll entries).keys = t.keys := by
  induction entries generalizing t with
  | nil => rfl
  | cons e rest ih =>
    rw [keys, List.map_cons, List.forall_mem_cons] at h
    have hput : (t.put e.1 e.2).keys = t.keys := by
      rw [keys_put, if_pos (has_eq_true_iff.mpr h.1)]
    exact (ih fun k hk ↦ hput ▸ h.2 k hk).trans hput

theorem mem_put {t : Table κ ν} {k : κ} {v : ν} {e : κ × ν} (h : e ∈ t.put k v) :
    e ∈ t ∨ e = (k, v) := by
  induction t with
  | nil => exact Or.inr (List.mem_singleton.mp h)
  | cons e' rest ih =>
    obtain ⟨k', v'⟩ := e'
    by_cases hk : k' = k
    · simp only [put, hk, beq_self_eq_true, if_true, List.mem_cons] at h
      exact h.elim Or.inr fun h ↦ Or.inl (List.mem_cons_of_mem _ h)
    · simp only [put, beq_iff_eq, hk, if_false, List.mem_cons] at h
      rcases h with rfl | h
      · exact Or.inl List.mem_cons_self
      · exact (ih h).imp_left (List.mem_cons_of_mem _)

theorem mem_putAll {t : Table κ ν} {entries : List (κ × ν)} {e : κ × ν}
    (h : e ∈ t.putAll entries) : e ∈ t ∨ e ∈ entries := by
  induction entries generalizing t with
  | nil => exact Or.inl h
  | cons e' rest ih =>
    rcases ih h with h | h
    · rcases mem_put h with h | rfl
      · exact Or.inl h
      · exact Or.inr List.mem_cons_self
    · exact Or.inr (List.mem_cons_of_mem e' h)

theorem putAll_cons_of_notMem {t : Table κ ν} {entries : List (κ × ν)} {e : κ × ν}
    (h : e.1 ∉ keys entries) : Table.putAll (e :: t) entries = e :: t.putAll entries := by
  induction entries generalizing t with
  | nil => rfl
  | cons e' rest ih =>
    rw [keys, List.map_cons, List.mem_cons, not_or] at h
    have hput : Table.put (e :: t) e'.1 e'.2 = e :: t.put e'.1 e'.2 := by simp [put, h.1]
    calc Table.putAll (e :: t) (e' :: rest)
        = (Table.put (e :: t) e'.1 e'.2).putAll rest := rfl
      _ = e :: (t.put e'.1 e'.2).putAll rest := by rw [hput, ih h.2]
      _ = e :: t.putAll (e' :: rest) := rfl

/-- Entries whose keys begin with those of a table replace the table. -/
theorem putAll_eq_of_prefix {t : Table κ ν} {entries : List (κ × ν)}
    (hnodup : (keys entries).Nodup) (hfirst : t.keys <+: keys entries) :
    t.putAll entries = entries := by
  induction entries generalizing t with
  | nil => exact List.map_eq_nil_iff.mp (List.prefix_nil.mp hfirst)
  | cons e rest ih =>
    rw [keys, List.map_cons, List.nodup_cons] at hnodup
    have hcons (t' : Table κ ν) (ht' : t'.keys <+: keys rest) :
        Table.putAll (e :: t') rest = e :: rest := by
      rw [putAll_cons_of_notMem hnodup.1, ih hnodup.2 ht']
    cases t with
    | nil => exact hcons [] List.nil_prefix
    | cons e' t' =>
      rw [keys, keys, List.map_cons, List.map_cons, List.cons_prefix_cons] at hfirst
      have hput : Table.put (e' :: t') e.1 e.2 = e :: t' := by
        simp [put, hfirst.1]
      calc Table.putAll (e' :: t') (e :: rest)
          = (Table.put (e' :: t') e.1 e.2).putAll rest := rfl
        _ = e :: rest := by rw [hput, hcons t' hfirst.2]

/-- Of the entries of a key, the last one that was written counts. -/
theorem get?_putAll (t : Table κ ν) (entries : List (κ × ν)) (k : κ) :
    (t.putAll entries).get? k = (get? entries.reverse k).or (t.get? k) := by
  induction entries generalizing t with
  | nil => rfl
  | cons e rest ih =>
    have hcons : (t.putAll (e :: rest)).get? k = ((t.put e.1 e.2).putAll rest).get? k := rfl
    have hput : (t.put e.1 e.2).get? k = (get? [e] k).or (t.get? k) := by
      by_cases h : e.1 = k
      · subst h
        rw [get?_put_self]
        simp [get?]
      · rw [get?_put_of_ne h]
        simp [get?, h]
    rw [hcons, ih, hput, List.reverse_cons, get?_append, Option.or_assoc]

theorem get?_ofList (entries : List (κ × ν)) (k : κ) :
    (ofList entries).get? k = get? entries.reverse k :=
  (get?_putAll [] entries k).trans Option.or_none

/-- The table that a list of entries builds has every key once. -/
theorem nodup_keys_ofList (entries : List (κ × ν)) : (ofList entries).keys.Nodup :=
  nodup_keys_putAll (t := []) List.nodup_nil entries

theorem mem_keys_ofList {entries : List (κ × ν)} {k : κ} (h : k ∈ (ofList entries).keys) :
    ∃ e ∈ entries, e.1 = k :=
  (mem_keys_putAll h).resolve_left List.not_mem_nil

end Table

/-- The elements of a list without those that equal an earlier one. -/
def distinct {α : Type} [BEq α] (xs : List α) : List α :=
  xs.foldl (fun acc x ↦ if acc.contains x then acc else acc ++ [x]) []

section Distinct

variable {α : Type} [BEq α] [LawfulBEq α]

private theorem nodup_and_mem_foldl (xs acc : List α) (hacc : acc.Nodup) :
    (xs.foldl (fun acc x ↦ if acc.contains x then acc else acc ++ [x]) acc).Nodup ∧
      ∀ y, y ∈ xs.foldl (fun acc x ↦ if acc.contains x then acc else acc ++ [x]) acc ↔
        y ∈ acc ∨ y ∈ xs := by
  induction xs generalizing acc with
  | nil => exact ⟨hacc, fun y ↦ by simp⟩
  | cons x xs ih =>
    rw [List.foldl_cons]
    by_cases hx : acc.contains x = true
    · obtain ⟨hnodup, hmem⟩ := ih acc hacc
      rw [if_pos hx]
      refine ⟨hnodup, fun y ↦ (hmem y).trans ?_⟩
      have hin : x ∈ acc := by simpa using hx
      rw [List.mem_cons]
      exact ⟨fun h ↦ h.imp_right Or.inr,
        fun h ↦ h.elim Or.inl fun h ↦ h.elim (fun heq ↦ Or.inl (heq ▸ hin)) Or.inr⟩
    · have hnotin : x ∉ acc := by simpa using hx
      obtain ⟨hnodup, hmem⟩ := ih (acc ++ [x]) (nodup_append_singleton hacc hnotin)
      rw [if_neg hx]
      refine ⟨hnodup, fun y ↦ (hmem y).trans ?_⟩
      rw [List.mem_append, List.mem_singleton, List.mem_cons, or_assoc]

theorem nodup_distinct (xs : List α) : (distinct xs).Nodup :=
  (nodup_and_mem_foldl xs [] List.nodup_nil).1

theorem mem_distinct {xs : List α} {x : α} : x ∈ distinct xs ↔ x ∈ xs := by
  exact ((nodup_and_mem_foldl xs [] List.nodup_nil).2 x).trans (or_iff_right List.not_mem_nil)

/-- The keys of the table that a list of entries builds are in the order of their first entries. -/
theorem Table.keys_ofList (entries : List (α × ν)) :
    (ofList entries).keys = distinct (entries.map Prod.fst) := by
  suffices h : ∀ t : Table α ν, (t.putAll entries).keys =
      (entries.map Prod.fst).foldl (fun acc x ↦ if acc.contains x then acc else acc ++ [x]) t.keys
    from h []
  induction entries with
  | nil => exact fun t ↦ rfl
  | cons e rest ih =>
    intro t
    have hhas : t.has e.1 = t.keys.contains e.1 := by
      rw [Bool.eq_iff_iff, has_eq_true_iff, List.contains_iff_mem]
    rw [List.map_cons, List.foldl_cons, ← hhas, ← keys_put t e.1 e.2]
    exact ih (t.put e.1 e.2)

theorem distinct_of_nodup {xs : List α} (h : xs.Nodup) : distinct xs = xs := by
  -- The table in which all keys have the same value.
  let entries : Table α Unit := xs.map fun x ↦ (x, ())
  have hkeys : entries.keys = xs := by simp [entries, Table.keys, Function.comp_def]
  have hself : Table.ofList entries = entries :=
    Table.putAll_eq_of_prefix (hkeys.symm ▸ h) List.nil_prefix
  calc distinct xs
      = distinct entries.keys := by rw [hkeys]
    _ = (Table.ofList entries).keys := (Table.keys_ofList entries).symm
    _ = xs := by rw [hself, hkeys]

end Distinct

end Provisioning
