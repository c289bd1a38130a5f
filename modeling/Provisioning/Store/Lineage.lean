import Provisioning.Provider.Registry
import Provisioning.Store.Basic
import Provisioning.Template.Application
import Provisioning.Value.Merge

/-!
Inheritance. A template may name a parent, whose fields it overrides; the parent may name one in
turn. The lineage of a template are the definitions from its own to that of its last ancestor.
-/

set_option autoImplicit false

namespace Provisioning.Store

/-- The field that names the parent. -/
def parentField : Value := .text "extends"

/-- The field that holds the name. -/
def nameField : Value := .text "name"

/-- The parent that a definition names. -/
def Definition.parent? (d : Definition) : Option Value :=
  (d.get? parentField).filter Value.isTruthy

/-- The text of a name, if it is one. -/
def textOf? : Value → Option String
  | .text s => some s
  | _ => none

/-- The error for a lineage that comes back to a name. -/
def cycle (names : List Value) : Error :=
  match names.mapM textOf? with
  | some texts => .inheritanceCycle texts
  | none => .chainNotText

/-- The error for a name that no template has. Its text shows the name, if it can be made. -/
def notFound (name : Value) : Error :=
  if name.isWritable then .templateNotFound name else .numberTooLong

/-- The definitions from a name on, where `visited` are the names on the way here. There is no answer
when the bound on the number of names is used up. -/
def lineageWithin (templates : Table Value Definition) :
    (bound : Nat) → (visited : List Value) → Value → Option (Except Error (List Definition))
  | 0, _, _ => none
  | bound + 1, visited, name =>
    if visited.contains name then some (.error (cycle (visited ++ [name])))
    else
      match name.unhashable?, templates.get? name with
      | some kindName, _ => some (.error (.unhashable kindName))
      | none, none => some (.error (notFound name))
      | none, some d =>
        match d.parent? with
        | none => some (.ok [d])
        | some parent =>
          (lineageWithin templates bound (visited ++ [name]) parent).map fun r ↦ r.map (d :: ·)

/-- The definitions of a template and its ancestors. Every name but the last is that of a template
and stands in the lineage once, so the bound is not used up. -/
def lineage (s : Store) (name : Value) : Except Error (List Definition) :=
  (lineageWithin s.templates (s.templates.length + 1) [] name).getD (.error (notFound name))

/-- The fields of a lineage: those of the last ancestor, overridden by the others in turn. -/
def inherited : List Definition → Definition
  | [] => []
  | [d] => d
  | d :: ancestors => Value.merge (inherited ancestors) d

/-- The fields of a template with those it inherits. -/
def resolve (s : Store) (name : Value) : Except Error Definition :=
  (s.lineage name).map inherited

/-- The template of that name. -/
def template [Validation.Reader] (s : Store) (name : Value) : Except Error Template.Spec := do
  let d ← s.resolve name
  Template.Spec.ofEntries (d.put nameField name)

variable [Domain.SuffixList]

/-- The registry that is used where none is given: a new one, started with the settings. -/
def defaultRegistry (s : Store) : Except Error Provider.Registry :=
  match Provider.Registry.new.start s.settings with
  | (r, .ok ()) => .ok r
  | (_, .error e) => .error e

/-- The provider of a template: the one it names or the one that the settings name. -/
def providerOf (s : Store) (spec : Template.Spec) : Except Error String :=
  match spec.provider.filter (!·.isEmpty), s.settings with
  | some name, _ => .ok name
  | none, some settings => .ok settings.defaultProvider
  | none, none => .error .notConfigured

/-- The options that a template describes, made at some time: those of its provider, with its own
fields applied. -/
def build [Validation.Reader] [Script.Engine] (s : Store) (name : Value)
    (registry : Option Provider.Registry) (now : Nat) : Outcome Options := do
  let spec ← s.template name
  let registry ← match registry with
    | some r => (pure r : Except Error Provider.Registry)
    | none => s.defaultRegistry
  let provider ← s.providerOf spec
  let start ← registry.templateOptions provider
  let (options, outcome) := spec.applyTo start now
  outcome
  return options

end Provisioning.Store
