import Provisioning.Value.Written

/-!
What is wrong with a document that was checked against a schema: a list of issues, each with the
place of the offending value, the rule it breaks and the value itself.
-/

set_option autoImplicit false

namespace Provisioning.Validation

/-- One step on the way to a value: the name of a field or the index of an item. -/
inductive Step
  | name (s : String)
  | index (n : Int)
  deriving DecidableEq, Repr

/-- The rules that a value can break. -/
inductive Rule
  | text
  | textBytes
  | whole
  | wholeText
  | wholeFraction
  | wholeSize
  | finite
  | atLeast (bound : Int)
  | atMost (bound : Int)
  | above (bound : Int)
  | number
  | numberText
  | flag
  | flagText
  | list
  | dict
  | keyText
  | record (title : String)
  | choice (options : List String)
  | required
  | unknown
  | custom (reason : String)
  deriving DecidableEq, Repr

/-- A value that breaks a rule, and where it stands. -/
structure Issue where
  path : List Step
  rule : Rule
  input : Value

/-- The issues of a document that should describe a `title`, and what is said of them. -/
structure Report where
  title : String
  issues : List Issue
  text : String

/-- The issue with one more step in front of its path. -/
def Issue.under (s : Step) (i : Issue) : Issue :=
  { i with path := s :: i.path }

end Provisioning.Validation
