import Provisioning.Script.Fault

/-!
Script templates as trees: expressions, statements and the targets that statements assign to.
-/

set_option autoImplicit false

namespace Provisioning.Script

/-- Operators on two operands that are both always evaluated. -/
inductive Operator
  | add
  | subtract
  | multiply
  | divide
  | floorDivide
  | remainder
  | power
  deriving DecidableEq, Repr

/-- Comparisons. -/
inductive Comparison
  | equal
  | notEqual
  | less
  | lessEqual
  | greater
  | greaterEqual
  | isIn
  | notIn
  deriving DecidableEq, Repr

/-- Expressions. A slice has optional bounds and an optional step; a conditional expression knows
its line, which its complaint about a missing alternative names. -/
inductive Expr
  | const (v : Value)
  | name (s : String)
  | list (items : List Expr)
  | tuple (items : List Expr)
  | dict (entries : List (Expr × Expr))
  | member (e : Expr) (name : String)
  | item (e key : Expr)
  | slice (e : Expr) (start stop step : Option Expr)
  | call (f : Expr) (positional : List Expr) (named : List (String × Expr))
  | filter (e : Expr) (name : String) (positional : List Expr) (named : List (String × Expr))
  | test (e : Expr) (name : String) (positional : List Expr) (named : List (String × Expr))
  | negative (e : Expr)
  | positive (e : Expr)
  | not (e : Expr)
  | binary (op : Operator) (l r : Expr)
  | concat (parts : List Expr)
  | compare (first : Expr) (others : List (Comparison × Expr))
  | and (l r : Expr)
  | or (l r : Expr)
  | choice (condition yes : Expr) (no : Option Expr) (line : Nat)
  | filtered

/-- What can be assigned to: a name, an attribute of a name, or several targets at once. -/
inductive Target
  | name (s : String)
  | member (owner name : String)
  | tuple (targets : List Target)

/-- Statements. A conditional has one or more guarded bodies and a last one without a guard. -/
inductive Stmt
  | data (s : String)
  | print (e : Expr)
  | cond (branches : List (Expr × List Stmt)) (otherwise : List Stmt)
  | loop (target : Target) (source : Expr) (only : Option Expr) (body otherwise : List Stmt)
  | assign (target : Target) (e : Expr)
  | capture (target : Target) (through : Option Expr) (body : List Stmt)

end Provisioning.Script
