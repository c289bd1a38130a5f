import Provisioning.Report
import Provisioning.Store.Aftermath

/-!
Reviews of a store: the options of one template, or whether all templates can be built. A template
that cannot be built is one line of the review, and the next one is tried. What the scripts of one
template have changed in the store is what the next one finds.
-/

set_option autoImplicit false

namespace Provisioning.Review

open Report (Console Item)

/-- What a review works on: the store, what has been printed so far, and the time. -/
structure State where
  store : Store
  printed : List Item := []
  clock : Nat := 0

/-- The errors of a template that a review reports. -/
def reported : List Family :=
  [.general, .value, .script]

section Printing

variable [Console]

/-- Prints something, unless the console refuses it. -/
def print (item : Item) : Action State Unit := do
  match Console.lines item with
  | .ok _ => Action.write fun s ↦ { s with printed := s.printed ++ [item] }
  | .error fault => Action.fail (.unprintable fault)

/-- Prints several things one after another. -/
def printAll : List Item → Action State Unit
  | [] => pure ()
  | item :: rest => do
    print item
    printAll rest

end Printing

section Building

variable [Domain.SuffixList] [Validation.Reader] [Script.Engine] [Store.Aftermath]

/-- Builds the options of a template. -/
def build (r : Provider.Registry) (name : Value) : Action State Options := do
  let s ← Action.state
  Action.write fun s ↦
    { s with store := s.store.afterBuild name r s.clock, clock := s.clock + 1 }
  s.store.build name (some r) s.clock

/-- The line for a template that cannot be built. -/
def lineOf (name : Value) (e : Error) : Except Error String := do
  return (← name.print) ++ ": " ++ e.message

/-- A line for each of several templates that cannot be built. -/
def failures (r : Provider.Registry) : List Value → Action State (List String)
  | [] => pure []
  | name :: rest => do
    match ← (build r name).catching reported with
    | .ok _ => failures r rest
    | .error e =>
      let line ← lineOf name e
      return line :: (← failures r rest)

variable [Console]

/-- Prints the options of one template. -/
def template (r : Provider.Registry) (name : Value) : Action State Unit := do
  let o ← build r name
  print (← Report.ofOptions (← name.print) o)

end Building

/-- What is printed for a store without failures. -/
def accepted (names providers : Nat) : List Item :=
  [.line "[green]✓[/green] Configuration is valid",
    .line ("  Templates: " ++ toString names),
    .line ("  Providers: " ++ toString providers)]

/-- What is printed for a store with failures. -/
def rejected (failures : List String) : List Item :=
  .line "[red]✗[/red] Configuration is invalid" :: failures.map fun f ↦ .line ("  Error: " ++ f)

/-- Whether all files of a store were read and all its templates can be built. What is wrong is
printed. -/
def validate [Domain.SuffixList] [Validation.Reader] [Script.Engine] [Store.Aftermath] [Console]
    (r : Provider.Registry) : Action State Bool := do
  let s := (← Action.state).store
  let lines := s.failures.map Store.Failure.message ++ (← failures r s.names)
  if lines.isEmpty then
    printAll (accepted s.names.length r.providers.length)
    return true
  else
    printAll (rejected lines)
    return false

end Provisioning.Review
