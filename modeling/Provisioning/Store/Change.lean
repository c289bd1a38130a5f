import Provisioning.Store.Basic

/-!
Whether the files of a store have changed since it was loaded: one has come or gone, or has another
text. Files that could not be read then count as new for as long as they are there.
-/

set_option autoImplicit false

namespace Provisioning.Store

/-- The files of a store that are there now. -/
def currentFiles (s : Store) (t : Tree) : Except Error (List Path) := do
  let main := if ← t.has? s.mainFile then [s.mainFile] else []
  match s.settings with
  | none => return main
  | some settings =>
    let folder := s.folder settings
    let _ ← t.has? folder
    return main ++ (templateFiles t folder).map fun name ↦ folder ++ [name]

/-- Whether one of several files has another text than before. -/
def hasOtherText (s : Store) (t : Tree) : List Path → Except Error Bool
  | [] => .ok false
  | p :: rest => do
    let text ← t.readText p
    if s.texts.get? p == some text then s.hasOtherText t rest else return true

/-- Whether the files of a store have changed. -/
def hasChanged (s : Store) (t : Tree) : Except Error Bool := do
  let files ← s.currentFiles t
  if files.all s.texts.has && s.texts.keys.all files.contains then s.hasOtherText t files
  else return true

end Provisioning.Store
