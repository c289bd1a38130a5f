import Provisioning.Error
import Provisioning.Store.Path
import Provisioning.Table
import Provisioning.Text.Encoding
import Provisioning.Text.Lines

/-!
Trees of files. A tree says for each path in it whether there is a file, and with what contents, or
a folder; the folder around everything is always there. A path that is too long cannot be looked up.
-/

set_option autoImplicit false

namespace Provisioning.Store

/-- What a path leads to. -/
inductive Entry
  | file (contents : Bytes)
  | folder
  deriving DecidableEq, Repr

/-- Files and folders by path. -/
abbrev Tree := Table Path Entry

namespace Tree

/-- What is at a path without a name that leads back. -/
def at? (t : Tree) (p : Path) : Option Entry :=
  if p.isEmpty then some .folder else t.get? p

/-- One step from a place in the tree. A step back leaves a folder, which must be there. -/
def follow (t : Tree) (here : Path) (name : String) : Option Path :=
  if name != Path.back then some (here ++ [name])
  else
    match here.getLast? with
    | none => some [name]
    | some last =>
      if last == Path.back then some (here ++ [name])
      else if t.at? here == some .folder then some here.dropLast
      else none

/-- The place in the tree that a path leads to. -/
def locate? (t : Tree) (p : Path) : Option Path :=
  p.foldlM t.follow []

/-- What a path leads to. -/
def entry? (t : Tree) (p : Path) : Option Entry :=
  (t.locate? p).bind t.at?

/-- The most bytes that a name in a folder may have. -/
def maxName : Nat := 255

/-- The most bytes that a path may have. -/
def maxPath : Nat := 4095

/-- Whether a path leads to a folder. The root is one. -/
def isFolder (t : Tree) (p : Path) : Bool :=
  p == [Path.root] || t.entry? p == some .folder

/-- Whether a path is too long to be looked up: as a whole, or because a folder on the way to it is
asked for a name that is too long. -/
def refuses (t : Tree) (p : Path) : Bool :=
  maxPath < p.toText.utf8ByteSize ||
    p.starts.any fun q ↦ q.getLast?.any (maxName < ·.utf8ByteSize) && t.isFolder q.dropLast

/-- Whether something is at a path. -/
def has? (t : Tree) (p : Path) : Except Error Bool :=
  if t.refuses p then .error (.longPath p.toText) else .ok (t.entry? p).isSome

/-- The names in the folder that a path leads to, in order; there are none where there is no
folder. -/
def names (t : Tree) (p : Path) : List String :=
  match t.locate? p with
  | none => []
  | some here =>
    let inside := t.keys.filter fun q ↦ !q.isEmpty && q.dropLast == here
    (inside.filterMap List.getLast?).mergeSort

/-- The tree with a folder at a path and everywhere on the way to it. -/
def makeFolder (t : Tree) (p : Path) : Tree :=
  p.starts.foldl (fun t q ↦ t.put q .folder) t

/-- The tree with a file at a path. -/
def write (t : Tree) (p : Path) (contents : Bytes) : Tree :=
  (t.makeFolder p.dropLast).put p (.file contents)

/-- The tree without what is at a path. -/
def remove (t : Tree) (p : Path) : Tree :=
  t.filter fun e ↦ !p.isPrefixOf e.1

/-- The text of a file, which must be UTF-8; line breaks are normal. -/
def readText (t : Tree) (p : Path) : Except Error String :=
  match t.entry? p with
  | none => .error .noFile
  | some .folder => .error (.directory p.toText)
  | some (.file contents) =>
    match Text.Utf8.decode contents with
    | .ok s => .ok (String.ofList (Text.normalLines s.toList))
    | .error fault => .error (.undecodable (.utf8 fault))

end Tree
end Provisioning.Store
