import Provisioning.Markup.Document
import Provisioning.Proofs.Store.Refusal
import Provisioning.Proofs.Store.Tree
import Provisioning.Validation.Lax

/-!
What a loading makes of the template files. `contributionOf` says what a single file comes to: the
definitions that are reached in it, and what is wrong with it, if anything is. Of the templates that
are there when the file is read it matters only whether they have one of its names, and only for a
name that has too many digits for the notice about this. From this and the order of the files all
else follows: the table of templates, the failures, and the notices about templates that are defined
again.
-/

set_option autoImplicit false

namespace Provisioning.Store

/-! ### What a file comes to -/

/-- A definition that is reached in a file. There is none if what stands under the name cannot be
made into one. -/
structure Reached where
  path : Path
  name : Value
  definition : Option Definition

/-- A table with one more definition, if there is one. -/
def Reached.insert (r : Reached) (templates : Table Value Definition) : Table Value Definition :=
  match r.definition with
  | some d => templates.put r.name d
  | none => templates

/-- A table with several more definitions, one after another. -/
def insertAll (templates : Table Value Definition) (rs : List Reached) : Table Value Definition :=
  rs.foldl (fun templates r ↦ r.insert templates) templates

/-- Whether a name is in the table already but has too many digits for the notice that says so. -/
def isUnspeakable (templates : Table Value Definition) (name : Value) : Bool :=
  templates.has name && !name.isWritable

/-- The definitions that are reached in the entries of a document when `templates` are there. The
first that cannot be used is the last one that is reached, nothing stands for an empty one, and one
is not reached at all if the notice that goes before it cannot be worded. -/
def reachedIn (p : Path) : (templates : Table Value Definition) → List (Value × Value) → List Reached
  | _, [] => []
  | templates, (name, body) :: rest =>
    if isUnspeakable templates name then []
    else if body.isTruthy then
      match Definition.ofValue body with
      | .ok d => ⟨p, name, some d⟩ :: reachedIn p (templates.put name d) rest
      | .error _ => [⟨p, name, none⟩]
    else ⟨p, name, some []⟩ :: reachedIn p (templates.put name []) rest

/-- Why the first definition that cannot be used cannot be used, when `templates` are there. -/
def flawIn : (templates : Table Value Definition) → List (Value × Value) → Option Flaw
  | _, [] => none
  | templates, (name, body) :: rest =>
    if isUnspeakable templates name then some .longName
    else
      match Definition.ofValue body with
      | .ok d => flawIn (templates.put name d) rest
      | .error flaw => some flaw

theorem Definition.ofValue_of_not_truthy {v : Value} (h : v.isTruthy = false) :
    ofValue v = .ok [] := by
  unfold ofValue
  rw [h]
  rfl

section Entries

variable {p : Path} {templates : Table Value Definition} {name body : Value}

theorem reachedIn_cons_unspeakable (h : isUnspeakable templates name = true)
    (rest : List (Value × Value)) : reachedIn p templates ((name, body) :: rest) = [] :=
  if_pos h

theorem reachedIn_cons_ok {d : Definition} (hname : isUnspeakable templates name = false)
    (h : Definition.ofValue body = .ok d) (rest : List (Value × Value)) :
    reachedIn p templates ((name, body) :: rest) =
      ⟨p, name, some d⟩ :: reachedIn p (templates.put name d) rest := by
  rw [reachedIn, hname, if_neg Bool.false_ne_true]
  cases hbody : body.isTruthy with
  | true => rw [if_pos rfl, h]
  | false =>
    cases h.symm.trans (Definition.ofValue_of_not_truthy hbody)
    rfl

theorem reachedIn_cons_error {flaw : Flaw} (hname : isUnspeakable templates name = false)
    (h : Definition.ofValue body = .error flaw) (rest : List (Value × Value)) :
    reachedIn p templates ((name, body) :: rest) = [⟨p, name, none⟩] := by
  rw [reachedIn, hname, if_neg Bool.false_ne_true]
  cases hbody : body.isTruthy with
  | true => rw [if_pos rfl, h]
  | false => cases h.symm.trans (Definition.ofValue_of_not_truthy hbody)

end Entries

/-- What a file comes to. -/
structure Contribution where
  reached : List Reached := []
  flaw : Option Flaw := none

section Contributions

variable [Markup.Decoder]

/-- The document that a file holds. -/
def documentOf (t : Tree) (p : Path) : Except Error Value := do
  (Markup.Decoder.decode (← t.readText p)).mapError .markup

/-- What a file comes to when `templates` are there: nothing at all if it cannot be read or its
document is something else than named entries; nothing either, but without a flaw, if the document
is empty. -/
def contributionOf (t : Tree) (p : Path) (templates : Table Value Definition) : Contribution :=
  match documentOf t p with
  | .error e => { flaw := some (.unreadable e) }
  | .ok document =>
    if document.isTruthy then
      match document with
      | .dict es => { reached := reachedIn p templates es, flaw := flawIn templates es }
      | v => { flaw := some (.notNamed (Definition.fullKindName v)) }
    else {}

/-- The definitions that are reached in the files of a folder, in order, when `templates` are there
before the first of them. -/
def reachedBy (t : Tree) (folder : Path) :
    (templates : Table Value Definition) → List String → List Reached
  | _, [] => []
  | templates, file :: rest =>
    let reached := (contributionOf t (folder ++ [file]) templates).reached
    reached ++ reachedBy t folder (insertAll templates reached) rest

/-- The failures of the files of a folder, in order, when `templates` are there before the first of
them. -/
def failuresBy (t : Tree) (folder : Path) :
    (templates : Table Value Definition) → List String → List Failure
  | _, [] => []
  | templates, file :: rest =>
    let c := contributionOf t (folder ++ [file]) templates
    (c.flaw.map (Failure.mk file)).toList ++
      failuresBy t folder (insertAll templates c.reached) rest

end Contributions

/-! ### What comes of several definitions -/

/-- The notices about definitions whose names are already in the table when they are reached. -/
def redefinitions : (templates : Table Value Definition) → List Reached → List Notice
  | _, [] => []
  | templates, r :: rest =>
    (if templates.has r.name then [.redefined r.name r.path] else []) ++
      redefinitions (r.insert templates) rest

/-- The names with the one of a definition, if there is one and its name is not among them. -/
def Reached.addName (names : List Value) (r : Reached) : List Value :=
  if r.definition.isNone || names.any (· == r.name) then names else names ++ [r.name]

theorem insertAll_append (templates : Table Value Definition) (rs more : List Reached) :
    insertAll templates (rs ++ more) = insertAll (insertAll templates rs) more :=
  List.foldl_append

theorem redefinitions_append (templates : Table Value Definition) (rs more : List Reached) :
    redefinitions templates (rs ++ more) =
      redefinitions templates rs ++ redefinitions (insertAll templates rs) more := by
  induction rs generalizing templates with
  | nil => rfl
  | cons r rest ih =>
    rw [List.cons_append, redefinitions, redefinitions, ih, List.append_assoc]
    rfl

namespace Loading

/-- The loading `l'` goes on from `l` by some definitions and failures. -/
structure Adds (l : Loading) (rs : List Reached) (failures : List Failure) (l' : Loading) : Prop
  where
  templates : l'.store.templates = insertAll l.store.templates rs
  failures : l'.store.failures = l.store.failures ++ failures
  notices : l'.notices = l.notices ++ redefinitions l.store.templates rs

theorem Adds.nothing {l l' : Loading} (htemplates : l'.store.templates = l.store.templates)
    (hfailures : l'.store.failures = l.store.failures) (hnotices : l'.notices = l.notices) :
    l.Adds [] [] l' :=
  ⟨htemplates, hfailures.trans (List.append_nil _).symm, hnotices.trans (List.append_nil _).symm⟩

theorem Adds.trans {l l' l'' : Loading} {rs more : List Reached} {failures others : List Failure}
    (h : l.Adds rs failures l') (h' : l'.Adds more others l'') :
    l.Adds (rs ++ more) (failures ++ others) l'' := by
  refine ⟨?_, ?_, ?_⟩
  · rw [h'.templates, h.templates, insertAll_append]
  · rw [h'.failures, h.failures, List.append_assoc]
  · rw [h'.notices, h.notices, h.templates, redefinitions_append, List.append_assoc]

/-! ### One definition, one file, all files -/

/-- A definition with the notice that goes before it. -/
def reach (l : Loading) (r : Reached) : Loading :=
  let l : Loading :=
    if l.store.templates.has r.name then
      { l with notices := l.notices ++ [.redefined r.name r.path] }
    else l
  { l with store := { l.store with templates := r.insert l.store.templates } }

section Definitions

variable {p : Path} {name body : Value} {l : Loading}

end Definitions

variable [Markup.Decoder]

end Loading

/-! ### The files of a folder -/

/-- The template files in a folder, if the folder is there. -/
def filesIn (t : Tree) (folder : Path) : List String :=
  if (t.entry? folder).isSome then templateFiles t folder else []

/-! ### The loading as a whole -/

section Loads

variable [Markup.Decoder]

variable [Validation.Reader]

end Loads

/-- A tree with two template files, of which one is not UTF-8. -/
def twoFiles : Tree :=
  [(["config.yaml"], .file []), (["templates"], .folder), (["templates", "b.yaml"], .file [255]),
    (["templates", "a.yaml"], .file (Text.Utf8.encode "a:"))]

end Provisioning.Store
