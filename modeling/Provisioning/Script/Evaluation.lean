import Provisioning.Script.Filter
import Provisioning.Script.Grammar

/-!
Filling in a template. Expressions give items and statements give text. A conditional does not open
a scope; the body of a loop does, anew for each round, so what is assigned there is forgotten. A
filter or test that does not exist is a fault of the whole template, unless it stands inside a
conditional: then it is one only when it is reached.
-/

set_option autoImplicit false

namespace Provisioning.Script

open Item

/-- The variables of a template, later ones before those they hide. -/
abbrev Scope := List (String × Item)

/-- The name under which a captured text waits for its filters; no variable has it. -/
def capturedName : String := ""

/-- The item that a name stands for. -/
def Scope.find (scope : Scope) (name : String) : Item :=
  match scope.lookup name with
  | some i => i
  | none => if functions.contains name then .function name else .missing (.variable name)

mutual

/-- The item that an expression gives. -/
def Expr.eval (scope : Scope) : Expr → Except Fault Item
  | .const v => .ok (value v)
  | .name s => .ok (scope.find s)
  | .list items => do return ofItems false (← evalAll scope items)
  | .tuple items => do return ofItems true (← evalAll scope items)
  | .dict entries => do return value (.dict (Table.ofList (← evalEntries scope entries)))
  | .member e name => do (← e.eval scope).member name
  | .item e key => do
    let i ← e.eval scope
    i.item (← key.eval scope)
  | .slice e start stop step => do
    let i ← e.eval scope
    let start ← evalSome scope start
    let stop ← evalSome scope stop
    i.slice start stop (← evalSome scope step)
  | .call f positional named => do
    let f ← f.eval scope
    let positional ← evalAll scope positional
    f.call ⟨positional, ← evalNamed scope named⟩
  | .filter e name positional named => do
    let i ← e.eval scope
    let positional ← evalAll scope positional
    let named ← evalNamed scope named
    match Filter.ofName? name with
    | some f => f.apply i ⟨positional, named⟩
    | none => .error (.lateHelper .filter name)
  | .test e name positional named => do
    let i ← e.eval scope
    let positional ← evalAll scope positional
    let named ← evalNamed scope named
    match Test.ofName? name with
    | some t =>
      if named.isEmpty then return value (.bool (← t.holds i positional))
      else .error .arguments
    | none => .error (.lateHelper .test name)
  | .negative e => do (← e.eval scope).signed true
  | .positive e => do (← e.eval scope).signed false
  | .not e => do return value (.bool !(← (← e.eval scope).isTruthy))
  | .binary op l r => do
    let a ← l.eval scope
    a.operate op (← r.eval scope)
  | .concat parts => do return text (String.join (← displayAll (← evalAll scope parts)))
  | .compare first others => do
    evalComparisons scope (← first.eval scope) others
  | .and l r => do
    let a ← l.eval scope
    if ← a.isTruthy then r.eval scope else return a
  | .or l r => do
    let a ← l.eval scope
    if ← a.isTruthy then return a else r.eval scope
  | .choice condition yes no line => do
    if ← (← condition.eval scope).isTruthy then yes.eval scope
    else return (← evalSome scope no).getD (.absent line)
  | .filtered => .ok (scope.find capturedName)

/-- The item of an expression that may be left out. -/
def evalSome (scope : Scope) : Option Expr → Except Fault (Option Item)
  | none => .ok none
  | some e => do return some (← e.eval scope)

/-- The items of several expressions. -/
def evalAll (scope : Scope) : List Expr → Except Fault (List Item)
  | [] => .ok []
  | e :: es => do
    let i ← e.eval scope
    return i :: (← evalAll scope es)

/-- The items of named arguments. -/
def evalNamed (scope : Scope) : List (String × Expr) → Except Fault (List (String × Item))
  | [] => .ok []
  | (name, e) :: es => do
    let i ← e.eval scope
    return (name, i) :: (← evalNamed scope es)

/-- The entries of a dictionary; keys and values must be values. -/
def evalEntries (scope : Scope) : List (Expr × Expr) → Except Fault (List (Value × Value))
  | [] => .ok []
  | (k, v) :: es => do
    let key ← (← k.eval scope).present
    let val ← (← v.eval scope).present
    match key.value?, val.value? with
    | some key, some val =>
      match key.unhashable? with
      | some kindName => .error (.operand ("unhashable type: '" ++ kindName ++ "'"))
      | none => return (key, val) :: (← evalEntries scope es)
    | _, _ => .error (.operand "only values can be kept in a dictionary")

/-- A chain of comparisons; it ends with the first one that does not hold. -/
def evalComparisons (scope : Scope) (left : Item) :
    List (Comparison × Expr) → Except Fault Item
  | [] => .ok (value (.bool true))
  | (c, e) :: others => do
    let right ← e.eval scope
    if ← left.compare c right then evalComparisons scope right others
    else return value (.bool false)

end

mutual

/-- The scope after a target has been given an item. -/
def Target.bind (scope : Scope) (i : Item) : Target → Except Fault Scope
  | .name s => .ok ((s, i) :: scope)
  | .member _ _ => .error (.refused "cannot assign attribute on non-namespace object")
  | .tuple targets => do bindAll scope targets (← i.iterate)

/-- The scope after several targets have been given as many items. -/
def bindAll (scope : Scope) : List Target → List Item → Except Fault Scope
  | [], [] => .ok scope
  | [], _ :: _ => .error (.value "too many values to unpack")
  | _ :: _, [] => .error (.value "not enough values to unpack")
  | t :: ts, i :: is => do bindAll (← t.bind scope i) ts is

end

/-- The items that a loop goes through: those that satisfy its condition. -/
def kept (scope : Scope) (target : Target) (only : Option Expr) (items : List Item) :
    Except Fault (List Item) :=
  match only with
  | none => .ok items
  | some e => items.filterM fun i ↦ do (← e.eval (← target.bind scope i)).isTruthy

mutual

/-- The scope after a statement and the text that it gives. -/
def Stmt.run : Stmt → Scope → Except Fault (Scope × String)
  | .data s, scope => .ok (scope, s)
  | .print e, scope => do return (scope, ← (← e.eval scope).display)
  | .cond branches otherwise, scope => do
    match ← runBranches branches scope with
    | some result => return result
    | none => runAll otherwise scope
  | .loop target source only body otherwise, scope => do
    let items ← kept scope target only (← (← source.eval scope).iterate)
    if items.isEmpty then
      let (_, s) ← runAll otherwise scope
      return (scope, s)
    else
      let texts ← items.zipIdx.mapM fun (i, n) ↦ do
        let (_, s) ← runAll body (("loop", .loop n items) :: (← target.bind scope i))
        return s
      return (scope, String.join texts)
  | .assign target e, scope => do return (← target.bind scope (← e.eval scope), "")
  | .capture target through body, scope => do
    let (inner, s) ← runAll body scope
    let i ← match through with
      | none => pure (text s)
      | some e => e.eval ((capturedName, text s) :: inner)
    return (← target.bind scope i, "")

/-- The result of the first branch whose condition holds, if there is one. -/
def runBranches : List (Expr × List Stmt) → Scope → Except Fault (Option (Scope × String))
  | [], _ => .ok none
  | (condition, body) :: branches, scope => do
    if ← (← condition.eval scope).isTruthy then return some (← runAll body scope)
    else runBranches branches scope

/-- The scope after several statements and the text that they give. -/
def runAll : List Stmt → Scope → Except Fault (Scope × String)
  | [], scope => .ok (scope, "")
  | s :: rest, scope => do
    let (scope, here) ← s.run scope
    let (scope, there) ← runAll rest scope
    return (scope, here ++ there)

end

/-- Refuses an unknown helper, unless `soft` says that it may never be reached. -/
def checkHelper (soft known : Bool) (role : Helper) (name : String) : Except Fault Unit :=
  if soft || known then .ok () else .error (.unknownHelper role name)

mutual

/-- Refuses expressions with unknown helpers. The parts of a conditional expression are soft. -/
def Expr.check (soft : Bool) : Expr → Except Fault Unit
  | .const _ | .name _ | .filtered => .ok ()
  | .list items | .tuple items | .concat items => checkAll soft items
  | .dict entries => checkEntries soft entries
  | .member e _ | .negative e | .positive e | .not e => e.check soft
  | .item e key => do
    e.check soft
    key.check soft
  | .slice e start stop step => do
    e.check soft
    checkSome soft start
    checkSome soft stop
    checkSome soft step
  | .call f positional named => do
    f.check soft
    checkAll soft positional
    checkNamed soft named
  | .filter e name positional named => do
    checkHelper soft (Filter.ofName? name).isSome .filter name
    e.check soft
    checkAll soft positional
    checkNamed soft named
  | .test e name positional named => do
    checkHelper soft (Test.ofName? name).isSome .test name
    e.check soft
    checkAll soft positional
    checkNamed soft named
  | .binary _ l r | .and l r | .or l r => do
    l.check soft
    r.check soft
  | .compare first others => do
    first.check soft
    checkCompared soft others
  | .choice condition yes no _ => do
    condition.check true
    yes.check true
    checkSome true no

/-- Checks an expression that may be left out. -/
def checkSome (soft : Bool) : Option Expr → Except Fault Unit
  | none => .ok ()
  | some e => e.check soft

/-- Checks several expressions. -/
def checkAll (soft : Bool) : List Expr → Except Fault Unit
  | [] => .ok ()
  | e :: es => do
    e.check soft
    checkAll soft es

/-- Checks named arguments. -/
def checkNamed (soft : Bool) : List (String × Expr) → Except Fault Unit
  | [] => .ok ()
  | (_, e) :: es => do
    e.check soft
    checkNamed soft es

/-- Checks the entries of a dictionary. -/
def checkEntries (soft : Bool) : List (Expr × Expr) → Except Fault Unit
  | [] => .ok ()
  | (k, v) :: es => do
    k.check soft
    v.check soft
    checkEntries soft es

/-- Checks the later parts of a comparison. -/
def checkCompared (soft : Bool) : List (Comparison × Expr) → Except Fault Unit
  | [] => .ok ()
  | (_, e) :: es => do
    e.check soft
    checkCompared soft es

end

mutual

/-- Whether a name is among those that a target gives items to. -/
def Target.assigns (s : String) : Target → Bool
  | .name t => s == t
  | .member _ _ => false
  | .tuple targets => assignsAny s targets

/-- Whether a name is among those that several targets give items to. -/
def assignsAny (s : String) : List Target → Bool
  | [] => false
  | t :: ts => t.assigns s || assignsAny s ts

end

/-- Refuses to give the state of a loop another item. -/
def checkTarget (inLoop : Bool) (t : Target) : Except Fault Unit :=
  if inLoop && t.assigns "loop" then
    .error (.unknownHelper .test "loop")
  else .ok ()

mutual

/-- Refuses statements with unknown helpers. The parts of a conditional are soft; the body of a loop
or of a capture is not, even inside a conditional. -/
def Stmt.check (soft inLoop : Bool) : Stmt → Except Fault Unit
  | .data _ => .ok ()
  | .print e => e.check soft
  | .cond branches otherwise => do
    checkBranches inLoop branches
    checkBody true inLoop otherwise
  | .loop target source only body otherwise => do
    checkTarget true target
    checkSome false only
    source.check soft
    checkBody false true body
    checkBody false inLoop otherwise
  | .assign target e => do
    checkTarget inLoop target
    e.check soft
  | .capture target through body => do
    checkTarget inLoop target
    checkBody false inLoop body
    checkSome false through

/-- Checks the branches of a conditional. -/
def checkBranches (inLoop : Bool) : List (Expr × List Stmt) → Except Fault Unit
  | [] => .ok ()
  | (condition, body) :: branches => do
    condition.check true
    checkBody true inLoop body
    checkBranches inLoop branches

/-- Checks several statements. -/
def checkBody (soft inLoop : Bool) : List Stmt → Except Fault Unit
  | [] => .ok ()
  | s :: rest => do
    s.check soft inLoop
    checkBody soft inLoop rest

end

end Provisioning.Script
