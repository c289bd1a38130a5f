import Provisioning.Family
import Provisioning.Value.Written

/-!
Why a script template cannot be read or filled in.
-/

set_option autoImplicit false

namespace Provisioning.Script

/-- A value that a template asks for and nothing provides. -/
inductive Missing
  | variable (name : String)
  | attribute (owner name : String)
  | element (owner : String) (key : Value)
  | first
  | last
  | other (hint : String)

/-- What is missing. -/
def Missing.message : Missing → String
  | .variable name => Text.quote name ++ " is undefined"
  | .attribute owner name => Text.quote owner ++ " has no attribute " ++ Text.quote name
  | .element owner key => owner ++ " has no element " ++ key.written
  | .first => "No first item, sequence was empty."
  | .last => "No last item, sequence was empty."
  | .other hint => hint

/-- Two families of helpers that a template can name. -/
inductive Helper
  | filter
  | test
  deriving DecidableEq, Repr

/-- The word for a helper. -/
def Helper.label : Helper → String
  | .filter => "filter"
  | .test => "test"

/-- An arithmetic result that no double can hold. -/
inductive Excess
  | conversion
  | quotient
  | power
  deriving DecidableEq, Repr

/-- What is too large. -/
def Excess.message : Excess → String
  | .conversion => "int too large to convert to float"
  | .quotient => "integer division result too large for a float"
  | .power => "(34, 'Numerical result out of range')"

/-- Why a template fails. The first four are faults of the template itself, a missing value is one
of the variables it was given, and the rest come from the values it computes with. -/
inductive Fault
  | malformed (reason : String)
  | unknownHelper (role : Helper) (name : String)
  | lateHelper (role : Helper) (name : String)
  | refused (reason : String)
  | missing (what : Missing)
  | zeroDivision (reason : String)
  | excess (what : Excess)
  | operand (reason : String)
  | value (reason : String)
  | member (reason : String)
  | arguments

/-- The text of a fault. -/
def Fault.message : Fault → String
  | .malformed reason => reason
  | .unknownHelper role name => "No " ++ role.label ++ " named '" ++ name ++ "'."
  | .lateHelper role name => "No " ++ role.label ++ " named '" ++ name ++ "' found."
  | .refused reason => reason
  | .missing what => what.message
  | .zeroDivision reason => reason
  | .excess what => what.message
  | .operand reason => reason
  | .value reason => reason
  | .member reason => reason
  | .arguments => "wrong arguments"

/-- A fault as it is raised. Faults of the template and of its variables make up a family. -/
def Fault.raised (fault : Fault) : Foreign :=
  match fault with
  | .malformed _ => ⟨"TemplateSyntaxError", some .script, fault.message⟩
  | .unknownHelper _ _ => ⟨"TemplateAssertionError", some .script, fault.message⟩
  | .lateHelper _ _ | .refused _ => ⟨"TemplateRuntimeError", some .script, fault.message⟩
  | .missing _ => ⟨"UndefinedError", some .script, fault.message⟩
  | .zeroDivision _ => ⟨"ZeroDivisionError", none, fault.message⟩
  | .excess _ => ⟨"OverflowError", none, fault.message⟩
  | .operand _ | .arguments => ⟨"TypeError", some .type, fault.message⟩
  | .value _ => ⟨"ValueError", some .value, fault.message⟩
  | .member _ => ⟨"AttributeError", none, fault.message⟩

end Provisioning.Script
