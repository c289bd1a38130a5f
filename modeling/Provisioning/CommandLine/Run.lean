import Provisioning.CommandLine.Reading
import Provisioning.LogSetup
import Provisioning.Review

/-!
The commands: listing the providers, showing the options of a template and validating all templates.
A run ends with an exit code and what was printed. Errors of the expected families are printed;
others end the run.
-/

set_option autoImplicit false

namespace Provisioning.CommandLine

open Report (Console Item)
open Review (State)
open Store (Path Tree)

/-- The end of a run. An error that no command handles is its cause. -/
structure Ending where
  code : Nat
  printed : List Item := []
  cause : Option Error := none

/-- A command with its arguments. -/
inductive Command
  | providers
  | template (name : String) (folder : Path)
  | validate (folder : Path)
  deriving DecidableEq, Repr

/-- The level of the log, where none is given. -/
def defaultLevel : String := "WARNING"

/-- The folder that commands work on, where none is given. -/
def defaultFolder : String := "./configs"

/-- The folder that is given. -/
def folderOf (folder : Option String) : Path :=
  Path.ofText (folder.getD defaultFolder)

/-- The command that is asked for. -/
def Request.command : Request → Command
  | .providers => .providers
  | .template name folder => .template name (folderOf folder)
  | .validate folder => .validate (folderOf folder)

/-- The command of a command line, or the end of the run. The log is set up between finding the name
of the command and reading the words after it. -/
def Reading.command : Reading → Except Ending Command
  | .ends code => .error { code }
  | .starts level request =>
    match (({} : LogSetup.Log).setUp (level.getD defaultLevel)).2, request with
    | .error e, _ => .error { code := 1, cause := some e }
    | .ok (), .error code => .error { code }
    | .ok (), .ok r => .ok r.command

/-- The errors of a command that are printed. -/
def reported : List Family :=
  [.general, .validation, .script, .missingFile]

/-- A command that gives a verdict, or prints an error of one of the families. -/
def reporting [Console] (x : Action State Bool) : Action State Bool := do
  match ← x.catching reported with
  | .ok valid => return valid
  | .error e =>
    Review.print (.line ("[red]Error:[/red] " ++ e.message))
    return false

/-- The end of a run that gives a verdict or fails. -/
def Ending.of (x : Action State Bool) (s : State) : Ending :=
  match x.result s with
  | .ok valid => { code := if valid then 0 else 1, printed := (x.after s).printed }
  | .error e => { code := 1, printed := (x.after s).printed, cause := some e }

section Loading

variable [Domain.SuffixList] [Markup.Decoder] [Validation.Reader]

/-- Loads a store from its folder, and starts a registry with its settings. -/
def load (t : Tree) : Action State Provider.Registry := do
  let (loading, result) := (← Action.state).store.load t
  Action.write fun s ↦ { s with store := loading.store }
  result
  let (registry, result) := Provider.Registry.new.start loading.store.settings
  result
  return registry

variable [Script.Engine] [Store.Aftermath] [Console]

/-- Prints the providers. -/
def printProviders : Action State Bool := do
  let (registry, result) := Provider.Registry.new.start (some {})
  result
  Review.print (← Report.ofRegistry registry)
  return true

/-- Runs a command on a tree of files. -/
def Command.run (t : Tree) : Command → Ending
  | .providers => .of printProviders { store := { home := [] } }
  | .template name folder =>
    .of (reporting do
      let registry ← load t
      Review.template registry (.text name)
      return true) { store := { home := folder } }
  | .validate folder =>
    .of (reporting do
      let registry ← load t
      Review.validate registry) { store := { home := folder } }

/-- Runs a command line on a tree of files. -/
def run [Reader] (t : Tree) (words : List String) : Ending :=
  match (Reader.read words).command with
  | .error ending => ending
  | .ok c => c.run t

end Loading

/-- The folder that a command works on. -/
def Command.folder? : Command → Option Path
  | .providers => none
  | .template _ folder | .validate folder => some folder

end Provisioning.CommandLine
