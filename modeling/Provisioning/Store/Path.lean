import Provisioning.Text.Search

/-!
Paths of files. A path is a list of names from the outside in; in an absolute path the root comes
first. Single points and doubled slashes mean nothing, while two points lead back one step.
-/

set_option autoImplicit false

namespace Provisioning.Store

/-- The names on the way to a file. -/
abbrev Path := List String

namespace Path

/-- The name of the root. -/
def root : String := "/"

/-- The name that leads back. -/
def back : String := ".."

/-- The path that a text stands for. -/
def ofText (s : String) : Path :=
  let names := (Text.split root s).filter fun name ↦ name != "" && name != "."
  if s.startsWith root then root :: names else names

/-- A path as text. -/
def toText : Path → String
  | [] => "."
  | first :: names =>
    if first == root then root ++ root.intercalate names else root.intercalate (first :: names)

/-- The path of what another path leads to from here; an absolute path leads there from
everywhere. -/
def join (p q : Path) : Path :=
  if q.head? == some root then q else p ++ q

/-- The paths that a path starts with, itself last. -/
def starts (p : Path) : List Path :=
  (List.range p.length).map fun n ↦ p.take (n + 1)

end Path
end Provisioning.Store
