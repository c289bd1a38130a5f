import Provisioning.Script.Engine
import Provisioning.Script.Evaluation
import Provisioning.Table

/-!
The built-in engine for script templates. On the outermost level of a template a statement may append
to a list that a variable holds, which changes the variable; everything else leaves variables alone.
-/

set_option autoImplicit false

namespace Provisioning.Script

open Item

/-! ### Appending to lists -/

/-- The variable to which an expression appends, and the list that it holds then. -/
def Expr.appended? (scope : Scope) : Expr → Option (String × Value)
  | .call (.member (.name s) "append") [e] [] =>
    match scope.find s, e.eval scope with
    | .value (.list vs), .ok (.value v) => some (s, .list (vs ++ [v]))
    | _, _ => none
  | _ => none

/-- The variable that a statement of the outermost level changes, and what it holds then. -/
def Stmt.change? (scope : Scope) : Stmt → Option (String × Value)
  | .print e | .assign _ e => e.appended? scope
  | _ => none

/-- The scope after a statement of the outermost level and the text that it gives. -/
def Stmt.runOuter (s : Stmt) (scope : Scope) : Except Fault (Scope × String) :=
  match s.change? scope, s with
  | some (name, v), .print _ => do return ((name, value v) :: scope, ← nothing.display)
  | some (name, v), .assign target _ => do
    return (← target.bind ((name, value v) :: scope) nothing, "")
  | _, s => s.run scope

/-- The scope after several statements of the outermost level and the text that they give. -/
def runOuterAll : List Stmt → Scope → Except Fault (Scope × String)
  | [], scope => .ok (scope, "")
  | s :: rest, scope => do
    let (scope, here) ← s.runOuter scope
    let (scope, there) ← runOuterAll rest scope
    return (scope, here ++ there)

/-! ### Templates -/

/-- The scope in which a template is filled in. -/
def Scope.ofBindings (bindings : Variables) : Scope :=
  bindings.map fun e ↦ (e.1, value e.2)

namespace Template

/-- Refuses a template with unknown helpers. -/
def check (t : Template) : Except Fault Unit :=
  checkBody false false t.stmts

/-- The text of a template with the given variables. -/
def fill (t : Template) (bindings : Variables) : Except Fault String := do
  let (_, s) ← runOuterAll t.stmts (.ofBindings bindings)
  return s

/-- Reads a template and refuses one with unknown helpers. -/
def read (template : String) : Except Fault Template := do
  let t ← ofText template
  t.check
  return t

/-- The variables after several statements, up to the first that fails. A variable is no longer
changed once its name has been given to something else. -/
def leaveFrom (hidden : List String) : List Stmt → Scope → Variables → Variables
  | [], _, bindings => bindings
  | s :: rest, scope, bindings =>
    let changed := match s.change? scope with
      | some (name, v) => if hidden.contains name then bindings else Table.put bindings name v
      | none => bindings
    let hidden := match s with
      | .assign target _ | .capture target _ _ =>
        hidden ++ (Table.keys bindings).filter target.assigns
      | _ => hidden
    match s.runOuter scope with
    | .ok (scope, _) => leaveFrom hidden rest scope changed
    | .error _ => changed

/-- The variables once a template has been filled in. -/
def leave (t : Template) (bindings : Variables) : Variables :=
  leaveFrom [] t.stmts (.ofBindings bindings) bindings

end Template

/-- The built-in engine. A template gives the same text at all times. -/
instance builtIn : Engine where
  Template := Template
  read := fun template ↦ (Template.read template).mapError Fault.raised
  fill := fun _ t bindings ↦ (t.fill bindings).mapError Fault.raised
  leave := fun _ t bindings ↦ t.leave bindings

end Provisioning.Script
