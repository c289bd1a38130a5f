import Provisioning.CommandLine.Run
import Provisioning.CommandLine.Words
import Provisioning.Markup.Document
import Provisioning.Script.Template
import Provisioning.Store.Sharing
import Provisioning.Validation.Lax

/-!
The program: reads the files that a command needs, runs the command on them and prints what it says.
-/

set_option autoImplicit false

namespace Provisioning

open CommandLine (Ending)
open Report (Console)
open Store (Path Tree)

/-- What the program prints when it is asked for help, or not understood. -/
def usage : List String :=
  ["usage: [--log-level LEVEL] COMMAND", "  providers", "  show NAME [--config-dir FOLDER]",
    "  validate [--config-dir FOLDER]"]

/-- The tree with the files of a folder; names in it that cannot be read as files are folders. -/
def readFolder (t : Tree) (folder : Path) : IO Tree := do
  let place := (← IO.currentDir) / Path.toText folder
  let entries ← try place.readDir catch _ => return t
  let mut tree := t.makeFolder folder
  for entry in entries do
    let path := folder ++ [entry.fileName]
    try
      let contents ← IO.FS.readBinFile (Path.toText path)
      tree := tree.write path contents.toList
    catch _ => tree := tree.makeFolder path
  return tree

/-- The tree with all files that a store in a folder needs: those of the folder, and those of the
folder that its main file names. -/
def readStore (folder : Path) : IO Tree := do
  let tree ← readFolder [] folder
  let store : Store := { home := folder }
  match (Store.readSettings tree { store := store }).2 with
  | .ok settings => readFolder tree (store.folder settings)
  | .error _ => return tree

/-- Prints the end of a run. -/
def report (ending : Ending) : IO UInt32 := do
  for item in ending.printed do
    if let .ok lines := Console.lines item then
      for line in lines do
        IO.println line
  if ending.code == 2 then
    for line in usage do
      IO.eprintln line
  if let some cause := ending.cause then
    IO.eprintln cause.message
  return ending.code.toUInt32

/-- Runs a command line. -/
def runWords (words : List String) : IO UInt32 := do
  match (CommandLine.Reader.read words).command with
  | .error ending =>
    if ending.code == 0 then
      for line in usage do
        IO.println line
    report ending
  | .ok c =>
    let tree ← match c.folder? with
      | some folder => readStore folder
      | none => pure []
    report (c.run tree)

end Provisioning

/-- The program. -/
def main (words : List String) : IO UInt32 :=
  Provisioning.runWords words
