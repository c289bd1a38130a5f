import Provisioning.Payload
import Provisioning.Script.Engine

/-!
Scripts made from templates. The variables of a template are given by name, and a few names are
taken: a variable of such a name cannot be given.
-/

set_option autoImplicit false

namespace Provisioning

namespace Variables

/-- The variables that a dictionary holds, if all its keys are texts. -/
def ofEntries? (entries : List (Value × Value)) : Option Variables :=
  entries.mapM fun
    | (.text name, v) => some (name, v)
    | _ => none

/-- Refuses variables of one of the names. -/
def without (vs : Variables) (names : List String) : Except Error Unit :=
  if vs.any fun v ↦ names.contains v.1 then .error .callShape else .ok ()

end Variables

variable [Script.Engine]

/-- The text that a template gives at some time. The name `self` is only refused once the template
has been read. -/
def renderText (template : String) (bindings : Variables) (now : Nat) : Except Error String := do
  bindings.without ["template_str"]
  let t ← (Script.Engine.read template).mapError .script
  bindings.without ["self"]
  (Script.Engine.fill now t bindings).mapError .script

/-- The payload of a script that a template gives at some time. -/
def Payload.ofTemplate (template : String) (bindings : Variables) (now : Nat) :
    Except Error Payload := do
  bindings.without ["template", "cls"]
  return .ofText (← renderText template bindings now) shellScript

/-- What the variables of a script hold once it has been made. They are not touched if they cannot be
handed over or the template cannot be read. -/
def Variables.left (bindings : Variables) (template : String) (now : Nat) : Variables :=
  match bindings.without ["template", "cls", "template_str", "self"],
    Script.Engine.read template with
  | .ok (), .ok t => Script.Engine.leave now t bindings
  | _, _ => bindings

end Provisioning
