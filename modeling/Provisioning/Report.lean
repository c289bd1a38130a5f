import Provisioning.Options.Field
import Provisioning.Provider.Registry

/-!
What is shown to a user: lines, and tables of options and of provider modules. Keys are never shown;
of scripts and user data only the size is. What a console makes of a line or a table is for the
console to say, which may also refuse it.
-/

set_option autoImplicit false

namespace Provisioning.Report

/-- Something that is printed: a line of marked-up text, or a table. -/
inductive Item
  | line (s : String)
  | table (title : String) (columns : List String) (rows : List (List String))
  deriving DecidableEq, Repr

/-- A console: it gives the lines of something that is printed. -/
class Console where
  lines : Item → Except Foreign (List String)

/-- The lines of something that is printed as it is. The cells of a row have a bar between them. -/
def Item.lines : Item → List String
  | line s => [s]
  | table title columns rows => title :: (columns :: rows).map fun cells ↦ " | ".intercalate cells

/-- A console that knows no markup and prints everything as it is. -/
instance plain : Console where
  lines := fun item ↦ .ok item.lines

/-- What is shown where nothing is set. -/
def blank : String := "[dim]-[/dim]"

/-- The fields whose values are never shown. -/
def secretFields : List String :=
  ["private_key", "login_private_key"]

/-- Texts with commas between them; nothing is shown as blank. -/
def listed (parts : List String) : String :=
  let s := ", ".intercalate parts
  if s.isEmpty then blank else s

/-- A key and its value. -/
def pair (key value : String) : String :=
  key ++ "=" ++ value

/-- The value of a field as it is shown, if that can be made. -/
def formatValue (name : String) (v : Value) : Except Error String :=
  match v with
  | .null => .ok blank
  | v =>
    if secretFields.contains name then .ok "[dim]<redacted>[/dim]"
    else
      match v with
      | .payload data contentType => do
        return toString data.length ++ " bytes (" ++ (← contentType.print) ++ ")"
      | .bytes b => .ok (toString b.length ++ " bytes")
      | .tuple xs => do return listed (← xs.mapM Value.print)
      | .dict es => do
        return listed (← es.mapM fun e ↦ do return pair (← e.1.print) (← e.2.print))
      | .bool b => .ok (if b then "[green]yes[/green]" else "no")
      | v => v.print

/-- The row of a field. -/
def fieldRow (e : String × Value) : Except Error (List String) := do
  return [e.1, ← formatValue e.1 e.2]

/-- The table of options under a name. -/
def ofOptions (name : String) (o : Options) : Except Error Item := do
  return .table ("Template: " ++ name ++ " (" ++ o.kind.label ++ ")") ["Option", "Value"]
    (← o.fields.mapM fieldRow)

/-- The row of a provider module. -/
def moduleRow (e : String × Provider.Module) : Except Error (List String) := do
  let b := e.2.blueprint
  let defaults ← b.templateDefaults.mapM fun d ↦ do return pair d.1 (← d.2.print)
  let shown := ", ".intercalate defaults
  return [e.1, b.kind.label, if shown.isEmpty then "-" else shown]

/-- The table of the modules of a registry. -/
def ofRegistry (r : Provider.Registry) : Except Error Item := do
  return .table "Providers" ["Name", "Options", "Template Defaults"] (← r.modules.mapM moduleRow)

end Provisioning.Report
