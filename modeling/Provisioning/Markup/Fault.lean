import Provisioning.Date
import Provisioning.Family
import Provisioning.Text.Quoted

/-!
Why a document cannot be read. Most documents that cannot be read break the grammar; the others
hold something of a certain form that has no value.
-/

set_option autoImplicit false

namespace Provisioning.Markup

/-- What is wrong with a document. -/
inductive Fault
  | grammar
  | date (fault : Date.Fault)
  | whole (base : Nat) (text : String)
  | fraction (text : String)
  | noDigits
  | flag (text : String)
  | unhashable (kindName : String)
  deriving DecidableEq, Repr

/-- The text of a fault; the wording of faults of grammar is not fixed. -/
def Fault.message : Fault → String
  | grammar => "<yaml error>"
  | date fault => fault.message
  | whole base text =>
    "invalid literal for int() with base " ++ toString base ++ ": " ++ Text.quote text
  | fraction text => "could not convert string to float: " ++ Text.quote text
  | noDigits => "string index out of range"
  | flag text => Text.quote text
  | unhashable kindName => "unhashable type: " ++ Text.quote kindName

/-- A fault as it is raised. -/
def Fault.raised (fault : Fault) : Foreign :=
  match fault with
  | grammar => ⟨"YAMLError", none, fault.message⟩
  | date _ | whole _ _ | fraction _ => ⟨"ValueError", some .value, fault.message⟩
  | noDigits => ⟨"IndexError", none, fault.message⟩
  | flag _ => ⟨"KeyError", some .key, fault.message⟩
  | unhashable _ => ⟨"TypeError", some .type, fault.message⟩

end Provisioning.Markup
