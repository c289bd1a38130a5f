import Provisioning.Store.Aftermath

/-!
The built-in aftermath. A template shares the values of its variables with the definitions that they
come from, so that a variable which its script has changed is changed there as well.
-/

set_option autoImplicit false

namespace Provisioning.Store

/-- The field that holds the variables. -/
def variablesField : Value := .text "variables"

/-- A definition in which a variable has another value, if the definition has the variable. -/
def Definition.assign? (d : Definition) (x : String × Value) : Option Definition :=
  match d.get? variablesField with
  | some (.dict es) =>
    if Table.has es (.text x.1) then
      some (d.put variablesField (.dict (Table.put es (.text x.1) x.2)))
    else none
  | _ => none

/-- The templates after a variable has been changed where it comes from: at a name or else at the
nearest ancestor that has the variable. -/
def assign (bound : Nat) (name : Value) (x : String × Value) (templates : Table Value Definition) :
    Table Value Definition :=
  match bound, templates.get? name with
  | bound + 1, some d =>
    match d.assign? x, d.parent? with
    | some d', _ => templates.put name d'
    | none, some parent => assign bound parent x templates
    | none, none => templates
  | _, _ => templates

/-- The variables of a specification that are not what they were once its script has been made. -/
def changes [Script.Engine] (spec : Template.Spec) (now : Nat) : Variables :=
  (spec.left now).bindings.filter fun x ↦ !(Table.get? spec.bindings x.1 == some x.2)

/-- The built-in aftermath. No script is made where there is no template or no provider for it. -/
instance builtIn [Domain.SuffixList] [Validation.Reader] [Script.Engine] : Aftermath where
  templates := fun s name r now ↦
    let start : Outcome Template.Spec := do
      let spec ← s.template name
      let provider ← s.providerOf spec
      let _ ← r.templateOptions provider
      return spec
    match start.result with
    | .ok spec => (changes spec now).foldl
        (fun templates x ↦ assign (s.templates.length + 1) name x templates) s.templates
    | .error _ => s.templates

end Provisioning.Store
