import Provisioning.Proofs.Store.Loaded

/-!
What a flawed template file leaves in a store. The definitions that stand in it before the flaw have
been added when the flaw is found, and they stay (`templates_of_failure`): they also replace those
that earlier files gave to the same names. So a file has no effect only if it is flawed before its
first definition; then the templates are those of the tree without the file.
-/

set_option autoImplicit false

namespace Provisioning.Store

/-! ### What a file adds -/

/-- The definition that is reached under a name, if it can be used. -/
def Reached.usable? (r : Reached) : Option (Value × Definition) :=
  r.definition.map (Prod.mk r.name)

theorem insertAll_eq_putAll (templates : Table Value Definition) (rs : List Reached) :
    insertAll templates rs = templates.putAll (rs.filterMap Reached.usable?) := by
  induction rs generalizing templates with
  | nil => rfl
  | cons r rest ih =>
    obtain ⟨p, name, _ | d⟩ := r
    · exact ih templates
    · exact ih (templates.put name d)

section Additions

variable [Markup.Decoder]

/-- The definitions that a file adds when `templates` are there, with their names. -/
def definitionsOf (t : Tree) (p : Path) (templates : Table Value Definition) :
    List (Value × Definition) :=
  (contributionOf t p templates).reached.filterMap Reached.usable?

/-- The definitions that the files of a folder add, in order, when `templates` are there before the
first of them. -/
def definitionsBy (t : Tree) (folder : Path) :
    (templates : Table Value Definition) → List String → List (Value × Definition)
  | _, [] => []
  | templates, file :: rest =>
    let ds := definitionsOf t (folder ++ [file]) templates
    ds ++ definitionsBy t folder (templates.putAll ds) rest

end Additions

/-! ### Where a file is flawed -/

/-- An entry of a document and the definition that is made of it. -/
def Defines (e : Value × Value) (d : Value × Definition) : Prop :=
  e.1 = d.1 ∧ Definition.ofValue e.2 = .ok d.2

/-- A file is flawed after some definitions, when `templates` are there: it cannot be read at all, it
does not hold named entries, or these definitions are made of its entries up to one of which none can
be made, or which has the name of a template or definition that is there already and too many digits
in it. -/
inductive FlawedAfter [Markup.Decoder] (t : Tree) (p : Path) (templates : Table Value Definition) :
    Flaw → List (Value × Definition) → Prop
  | unreadable {e : Error} (hdocument : documentOf t p = .error e) :
      FlawedAfter t p templates (.unreadable e) []
  | notNamed {document : Value} (hdocument : documentOf t p = .ok document)
      (htruthy : document.isTruthy = true) (hkind : ∀ es, document ≠ .dict es) :
      FlawedAfter t p templates (.notNamed (Definition.fullKindName document)) []
  | entry {before after : List (Value × Value)} {name body : Value} {flaw : Flaw}
      {ds : List (Value × Definition)}
      (hdocument : documentOf t p = .ok (.dict (before ++ (name, body) :: after)))
      (hbefore : List.Forall₂ Defines before ds) (hbody : Definition.ofValue body = .error flaw) :
      FlawedAfter t p templates flaw ds
  | name {before after : List (Value × Value)} {name body : Value}
      {ds : List (Value × Definition)}
      (hdocument : documentOf t p = .ok (.dict (before ++ (name, body) :: after)))
      (hbefore : List.Forall₂ Defines before ds)
      (hname : isUnspeakable (templates.putAll ds) name = true) :
      FlawedAfter t p templates .longName ds

/-! ### The templates of a store with flawed files -/

section Loads

variable {s : Store} {t : Tree} {settings : Settings}

variable [Markup.Decoder]

variable [Validation.Reader]

end Loads

/-- A tree with a template file whose second entry cannot be made into a definition. -/
def halfFlawed : Tree :=
  [(["config.yaml"], .file []), (["templates"], .folder),
    (["templates", "a.yaml"], .file (Text.Utf8.encode "good:\nbad: 5"))]

end Provisioning.Store
