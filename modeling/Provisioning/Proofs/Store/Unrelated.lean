import Provisioning.Proofs.Markup.Document
import Provisioning.Proofs.Store.Ancestry
import Provisioning.Proofs.Store.Flaws
import Provisioning.Script.Template

/-!
Files that have nothing to do with a template. One more file in the folder, well-formed or not, adds
definitions somewhere among those of the others. From then on the table of templates is another one,
but only for names of that file (`AgreeOff`), and the files after it add the same to both tables: a
name makes a difference to them only if it has too many digits for the notice that it is there
already (`agreeOff_definitionsBy`). So a template is built as before if the file has none of the
names on its chain, the one included that is missing at its end (`unaffected_by_file`).
-/

set_option autoImplicit false

namespace Provisioning.Store

open Value (IsKey same)

variable {s : Store} {t : Tree} {settings : Settings} {folder here : Path} {file : String}

/-! ### The names of definitions -/

/-- The entries of the document that a file holds, if it is a dictionary. -/
def entriesOf [Markup.Decoder] (t : Tree) (p : Path) : List (Value × Value) :=
  match documentOf t p with
  | .ok (.dict es) => es
  | _ => []

theorem isKey_of_mem_entriesOf [Markup.Decoder] [Markup.LawfulDecoder] {p : Path}
    {e : Value × Value} (h : e ∈ entriesOf t p) : IsKey e.1 := by
  rw [entriesOf] at h
  split at h
  · next es hdocument =>
    obtain ⟨text, -, hread⟩ := bind_eq_ok_iff.mp hdocument
    have hdistinct := Markup.LawfulDecoder.hasDistinctKeys (mapError_eq_ok_iff.mp hread)
    exact hdistinct.isKey _ (List.mem_map_of_mem h)
  · cases h

theorem reached_contributionOf [Markup.Decoder] (t : Tree) (p : Path)
    (templates : Table Value Definition) :
    (contributionOf t p templates).reached = reachedIn p templates (entriesOf t p) := by
  rw [contributionOf, entriesOf]
  cases hdocument : documentOf t p with
  | error e => rfl
  | ok document =>
    cases document with
    | dict es => cases es <;> rfl
    | _ => simp only [reachedIn]; split <;> rfl

theorem mem_keys_of_mem_reachedIn {p : Path} {templates : Table Value Definition}
    {es : List (Value × Value)} {r : Reached} (h : r ∈ reachedIn p templates es) :
    r.name ∈ Table.keys es := by
  induction es generalizing templates with
  | nil => cases h
  | cons e rest ih =>
    obtain ⟨name, body⟩ := e
    rw [Table.keys, List.map_cons, List.mem_cons]
    cases hname : isUnspeakable templates name with
    | true =>
      rw [reachedIn_cons_unspeakable hname] at h
      cases h
    | false =>
      cases hbody : Definition.ofValue body with
      | error flaw =>
        rw [reachedIn_cons_error hname hbody, List.mem_singleton] at h
        exact .inl (congrArg Reached.name h)
      | ok d =>
        rw [reachedIn_cons_ok hname hbody, List.mem_cons] at h
        exact h.imp (congrArg Reached.name) ih

/-- The names that a file defines are keys of its document. -/
theorem exists_entry_of_mem_definitionsOf [Markup.Decoder] {p : Path}
    {templates : Table Value Definition} {d : Value × Definition}
    (h : d ∈ definitionsOf t p templates) :
    ∃ e ∈ entriesOf t p, e.1 = d.1 := by
  obtain ⟨r, hr, he⟩ := List.mem_filterMap.mp h
  obtain ⟨d, -, rfl⟩ := Option.map_eq_some_iff.mp he
  rw [reached_contributionOf] at hr
  exact List.mem_map.mp (mem_keys_of_mem_reachedIn hr)

theorem isKey_of_mem_definitionsOf [Markup.Decoder] [Markup.LawfulDecoder] {p : Path}
    {templates : Table Value Definition} {d : Value × Definition}
    (h : d ∈ definitionsOf t p templates) : IsKey d.1 := by
  obtain ⟨e, he, hname⟩ := exists_entry_of_mem_definitionsOf h
  exact hname ▸ isKey_of_mem_entriesOf he

/-! ### Tables that agree off some names -/

/-- Two tables in which the same is found under every name that is none of `names`. -/
structure AgreeOff (names : List Value) (templates templates' : Table Value Definition) : Prop where
  isKey : ∀ k ∈ Table.keys templates, IsKey k
  isKey' : ∀ k ∈ Table.keys templates', IsKey k
  found : ∀ v, (∀ k ∈ names, ¬same k v = true) → templates'.get? v = templates.get? v

namespace AgreeOff

variable {names : List Value} {templates templates' : Table Value Definition}

theorem empty (names : List Value) : AgreeOff names [] [] :=
  ⟨List.forall_mem_nil _, List.forall_mem_nil _, fun _ _ ↦ rfl⟩

/-- The same definition may be added to both. -/
theorem put {name : Value} (h : AgreeOff names templates templates') (hname : IsKey name)
    (d : Definition) : AgreeOff names (templates.put name d) (templates'.put name d) := by
  refine ⟨Value.isKey_of_mem_put h.isKey hname, Value.isKey_of_mem_put h.isKey' hname,
    fun v hv ↦ ?_⟩
  rw [Value.get?_put h.isKey hname, Value.get?_put h.isKey' hname, h.found v hv]

/-- Under the names themselves anything may be added to one of them. -/
theorem putAll_right {ds : List (Value × Definition)} (h : AgreeOff names templates templates')
    (hkeys : ∀ d ∈ ds, IsKey d.1) (hnames : ∀ d ∈ ds, d.1 ∈ names) :
    AgreeOff names templates (templates'.putAll ds) := by
  refine ⟨h.isKey, Value.isKey_of_mem_putAll h.isKey' hkeys, fun v hv ↦ ?_⟩
  have hnone : Table.get? ds.reverse v = none := by
    refine Value.get?_eq_none_iff.mpr fun k hk ↦ ?_
    obtain ⟨d, hd, rfl⟩ := List.mem_map.mp hk
    exact hv d.1 (hnames d (List.mem_reverse.mp hd))
  rw [Value.get?_putAll h.isKey' hkeys, hnone, Option.none_or, h.found v hv]

theorem isUnspeakable_eq {name : Value} (h : AgreeOff names templates templates')
    (hname : name.isWritable = false → ∀ k ∈ names, ¬same k name = true) :
    isUnspeakable templates' name = isUnspeakable templates name := by
  rw [isUnspeakable, isUnspeakable]
  cases hwritable : name.isWritable with
  | true => simp
  | false => rw [Value.has_congr (h.found name (hname hwritable))]

/-- A document comes to the same in both, and they still agree afterwards. -/
theorem reachedIn {p : Path} {es : List (Value × Value)} (h : AgreeOff names templates templates')
    (hkeys : ∀ e ∈ es, IsKey e.1)
    (hnames : ∀ e ∈ es, e.1.isWritable = false → ∀ k ∈ names, ¬same k e.1 = true) :
    Store.reachedIn p templates' es = Store.reachedIn p templates es ∧
      AgreeOff names (insertAll templates (Store.reachedIn p templates es))
        (insertAll templates' (Store.reachedIn p templates es)) := by
  induction es generalizing templates templates' with
  | nil => exact ⟨rfl, h⟩
  | cons e rest ih =>
    obtain ⟨name, body⟩ := e
    obtain ⟨hkey, hkeys⟩ := List.forall_mem_cons.mp hkeys
    obtain ⟨hfirst, hnames⟩ := List.forall_mem_cons.mp hnames
    have hsame := h.isUnspeakable_eq hfirst
    cases hname : isUnspeakable templates name with
    | true =>
      rw [hname] at hsame
      rw [reachedIn_cons_unspeakable hname, reachedIn_cons_unspeakable hsame]
      exact ⟨rfl, h⟩
    | false =>
      rw [hname] at hsame
      cases hbody : Definition.ofValue body with
      | error flaw =>
        rw [reachedIn_cons_error hname hbody, reachedIn_cons_error hsame hbody]
        exact ⟨rfl, h⟩
      | ok d =>
        obtain ⟨heq, hagree⟩ := ih (h.put hkey d) hkeys hnames
        rw [reachedIn_cons_ok hname hbody, reachedIn_cons_ok hsame hbody, heq]
        exact ⟨rfl, hagree⟩

theorem definitionsOf [Markup.Decoder] [Markup.LawfulDecoder] {p : Path}
    (h : AgreeOff names templates templates')
    (hnames : ∀ e ∈ entriesOf t p, e.1.isWritable = false → ∀ k ∈ names, ¬same k e.1 = true) :
    Store.definitionsOf t p templates' = Store.definitionsOf t p templates ∧
      AgreeOff names (templates.putAll (Store.definitionsOf t p templates))
        (templates'.putAll (Store.definitionsOf t p templates)) := by
  have hboth := h.reachedIn (p := p) (fun _ ↦ isKey_of_mem_entriesOf) hnames
  rw [Store.definitionsOf, Store.definitionsOf, reached_contributionOf, reached_contributionOf]
  rw [insertAll_eq_putAll, insertAll_eq_putAll] at hboth
  exact ⟨congrArg _ hboth.1, hboth.2⟩

end AgreeOff

/-! ### One file more -/

/-- No name with too many digits stands both in the file and in another one of its folder. -/
def SharesNoLongName [Markup.Decoder] (t : Tree) (folder : Path) (file : String) : Prop :=
  ∀ other ≠ file, ∀ e ∈ entriesOf t (folder ++ [other]), e.1.isWritable = false →
    ∀ e' ∈ entriesOf t (folder ++ [file]), ¬same e'.1 e.1 = true

/-- With the file and without it, what is found differs at most under the names of the file. -/
theorem agreeOff_definitionsBy [Markup.Decoder] [Markup.LawfulDecoder] {names : List Value}
    {templates templates' : Table Value Definition} (h : AgreeOff names templates templates')
    (hnames : names = (entriesOf t (folder ++ [file])).map Prod.fst)
    (hlong : SharesNoLongName t folder file) (files : List String) :
    AgreeOff names
      (templates.putAll (definitionsBy t folder templates (files.filter (· ≠ file))))
      (templates'.putAll (definitionsBy t folder templates' files)) := by
  induction files generalizing templates templates' with
  | nil => exact h
  | cons other rest ih =>
    rw [definitionsBy, Table.putAll_append]
    by_cases hother : other = file
    · subst hother
      rw [List.filter_cons_of_neg (by simp)]
      refine ih (h.putAll_right (fun _ ↦ isKey_of_mem_definitionsOf) fun d hd ↦ ?_)
      rw [hnames]
      exact List.mem_map.mpr (exists_entry_of_mem_definitionsOf hd)
    · have hapart : ∀ e ∈ entriesOf t (folder ++ [other]), e.1.isWritable = false →
          ∀ k ∈ names, ¬same k e.1 = true := by
        intro e he hwritable
        rw [hnames]
        exact List.forall_mem_map.mpr (hlong other hother e he hwritable)
      obtain ⟨hsame, hagree⟩ := h.definitionsOf hapart
      rw [List.filter_cons_of_pos (by simpa using hother), definitionsBy, Table.putAll_append, hsame]
      exact ih hagree

end Provisioning.Store
