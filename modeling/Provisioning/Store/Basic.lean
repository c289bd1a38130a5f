import Provisioning.Markup.Decoder
import Provisioning.Settings
import Provisioning.Store.Definition
import Provisioning.Store.Tree

/-!
The store of templates. Loading reads the main settings from one file and then the definitions of
templates from all files of a folder that the settings name, in the order of their names. A main
file that cannot be used ends the loading; a template file that cannot be used is noted and the
next one is read, and what it has defined so far stays.
-/

set_option autoImplicit false

namespace Provisioning

namespace Store

/-- A template file that cannot be used, by name, and why. -/
structure Failure where
  file : String
  flaw : Flaw

/-- The text of a failure. -/
def Failure.message (f : Failure) : String :=
  f.file ++ ": " ++ f.flaw.message

/-- What is noted while loading. -/
inductive Notice
  | noFolder (path : Path)
  | redefined (name : Value) (path : Path)

/-- The text of a notice. -/
def Notice.message : Notice → String
  | noFolder path => "Templates directory not found: " ++ path.toText
  | redefined name path =>
    "Template " ++ name.display ++ " redefined in " ++ path.toText

end Store

open Store in
/-- Settings and definitions of templates, the folder they come from, the failures of the last
loading, and the texts that it has read. -/
structure Store where
  home : Path
  settings : Option Settings := none
  templates : Table Value Definition := []
  failures : List Failure := []
  texts : Table Path String := []

namespace Store

/-- The path of the main file. -/
def mainFile (s : Store) : Path :=
  s.home ++ ["config.yaml"]

/-- What the names of template files end in. -/
def templateSuffix : String := ".yaml"

/-- The folder that some settings name for templates. -/
def folder (s : Store) (settings : Settings) : Path :=
  s.home.join (Path.ofText settings.templatesDir)

/-- The names of the template files of a folder. -/
def templateFiles (t : Tree) (folder : Path) : List String :=
  (t.names folder).filter fun name ↦ name.endsWith templateSuffix

/-- A loading that is going on, with the notices so far. -/
structure Loading where
  store : Store
  notices : List Notice := []

namespace Loading

/-- Reads a text and keeps it to find changes later. -/
def readText (l : Loading) (t : Tree) (p : Path) : Loading × Except Error String :=
  match t.readText p with
  | .error e => (l, .error e)
  | .ok text => ({ l with store := { l.store with texts := l.store.texts.put p text } }, .ok text)

variable [Markup.Decoder]

/-- Reads a document. -/
def readDocument (l : Loading) (t : Tree) (p : Path) : Loading × Except Error Value :=
  match l.readText t p with
  | (l, .error e) => (l, .error e)
  | (l, .ok text) => (l, (Markup.Decoder.decode text).mapError .markup)

/-- Notes that a name is defined again, if it is. The notice is worded first, and that can fail. -/
def note (p : Path) (l : Loading) (name : Value) : Except Flaw Loading :=
  if !l.store.templates.has name then .ok l
  else if name.isWritable then .ok { l with notices := l.notices ++ [.redefined name p] }
  else .error .longName

/-- Adds definitions one by one, up to the first that cannot be used. -/
def define (p : Path) : List (Value × Value) → Loading → Loading × Except Flaw Unit
  | [], l => (l, .ok ())
  | (name, body) :: rest, l =>
    match l.note p name with
    | .error flaw => (l, .error flaw)
    | .ok l =>
      match Definition.ofValue body with
      | .error flaw => (l, .error flaw)
      | .ok d =>
        define p rest
          { l with store := { l.store with templates := l.store.templates.put name d } }

/-- Reads the definitions of one file. -/
def readFile (t : Tree) (p : Path) (l : Loading) : Loading × Except Flaw Unit :=
  match l.readDocument t p with
  | (l, .error e) => (l, .error (.unreadable e))
  | (l, .ok document) =>
    match Definition.namedValues document with
    | .error flaw => (l, .error flaw)
    | .ok named => define p named l

/-- Reads one file of a folder, and notes a failure. -/
def addFile (t : Tree) (folder : Path) (l : Loading) (name : String) : Loading :=
  match l.readFile t (folder ++ [name]) with
  | (l, .ok ()) => l
  | (l, .error flaw) =>
    { l with store := { l.store with failures := l.store.failures ++ [⟨name, flaw⟩] } }

/-- Reads all templates of a folder, which replace the ones before. Those are gone even if the
folder cannot be looked up. -/
def readTemplates (t : Tree) (folder : Path) (l : Loading) : Loading × Except Error Unit :=
  let l : Loading := { l with store := { l.store with templates := [] } }
  match t.has? folder with
  | .error e => (l, .error e)
  | .ok false => ({ l with notices := l.notices ++ [.noFolder folder] }, .ok ())
  | .ok true => ((templateFiles t folder).foldl (addFile t folder) l, .ok ())

end Loading

variable [Markup.Decoder] [Validation.Reader]

/-- The settings that a document holds; nothing stands for the default ones. -/
def settingsOf (document : Value) : Except Error Settings :=
  if document.isTruthy then
    match document with
    | .dict entries => Settings.ofEntries entries
    | _ => .error .notMapping
  else Settings.ofEntries []

/-- Reads the main file. -/
def readSettings (t : Tree) (l : Loading) : Loading × Except Error Settings :=
  let p := l.store.mainFile
  match t.has? p with
  | .error e => (l, .error e)
  | .ok false => (l, .error (.noMainConfig p.toText))
  | .ok true =>
    match l.readDocument t p with
    | (l, .error e) => (l, .error e)
    | (l, .ok document) => (l, settingsOf document)

/-- Loads settings and templates from a tree. If the main file cannot be used, those of the last
loading stay. -/
def load (s : Store) (t : Tree) : Loading × Except Error Unit :=
  match readSettings t { store := { s with failures := [], texts := [] } } with
  | (l, .error e) => (l, .error e)
  | (l, .ok settings) =>
    let l : Loading := { l with store := { l.store with settings := some settings } }
    l.readTemplates t (s.folder settings)

/-- The names of the templates in the order in which they were first defined. -/
def names (s : Store) : List Value :=
  s.templates.keys

end Store
end Provisioning
