import Provisioning.Markup.Layout
import Provisioning.Markup.Node
import Provisioning.Markup.Decoder

/-!
From nodes to values. Keys must differ from one another and must not change; a list that is a key
becomes a tuple. A merge key inserts the entries of other dictionaries in front of the dictionary's
own ones, which then override them.
-/

set_option autoImplicit false

namespace Provisioning.Markup

/-- The entries of a dictionary with keys that may repeat: inserted ones and its own ones. -/
structure Entries where
  inserted : List (Value × Value) := []
  own : List (Value × Value) := []

namespace Entries

/-- All entries, inserted ones first. -/
def all (e : Entries) : List (Value × Value) :=
  e.inserted ++ e.own

/-- A value as a key. -/
def keyOf : Value → Except Fault Value
  | .list items => .ok (.tuple items)
  | .dict _ => .error .grammar
  | v => .ok v

/-- Adds entries one by one. A key that is there already is refused, if `distinct`. -/
def addAll (distinct : Bool) :
    List (Value × Value) → Table Value Value → Except Fault (Table Value Value)
  | [], t => .ok t
  | (k, v) :: rest, t => do
    let k ← keyOf k
    if let some kindName := k.unhashable? then throw (.unhashable kindName)
    if distinct && t.has k then throw .grammar
    addAll distinct rest (t.put k v)

/-- The dictionary of the entries. Keys may only repeat where others were inserted. -/
def toTable (e : Entries) : Except Fault (Table Value Value) :=
  addAll e.inserted.isEmpty e.all []

end Entries

namespace Node

/-- Whether a node is a key for a merge. -/
def isMerge : Node → Bool
  | scalar .merge _ => true
  | _ => false

mutual

/-- The value of a node. -/
def value : Node → Except Fault Value
  | scalar kind text => Scalar.value kind text
  | list kind items => do
    if kind != .list then throw .grammar
    return .list (← values items)
  | dict kind es => do
    if kind != .dict then throw .grammar
    return .dict (← (← entries es {}).toTable)

/-- The values of nodes. -/
def values : List Node → Except Fault (List Value)
  | [] => .ok []
  | n :: ns => do
    let v ← value n
    return v :: (← values ns)

/-- The value of a node that is a key. -/
def keyValue : Node → Except Fault Value
  | scalar .default text => .ok (.text text)
  | n => value n

/-- The entries of nodes, after those before them. -/
def entries : List (Node × Node) → Entries → Except Fault Entries
  | [], e => .ok e
  | (k, v) :: rest, e => do
    if isMerge k then
      if !e.inserted.isEmpty then throw .grammar
      entries rest { e with inserted := ← insertions v }
    else
      let key ← keyValue k
      let x ← value v
      entries rest { e with own := e.own ++ [(key, x)] }

/-- The entries that a merge inserts. -/
def insertions : Node → Except Fault (List (Value × Value))
  | dict _ es => do return (← entries es {}).all
  | list _ ns => insertionsOfAll ns
  | scalar _ _ => .error .grammar

/-- The entries of several dictionaries, those of the last one first. -/
def insertionsOfAll : List Node → Except Fault (List (Value × Value))
  | [] => .ok []
  | dict _ es :: ns => do
    let first ← entries es {}
    return (← insertionsOfAll ns) ++ first.all
  | _ :: _ => .error .grammar

end
end Node

/-- The value of a document; an empty one has no value. -/
def read (text : String) : Except Fault Value :=
  match (Token.ofText? text).bind Node.ofTokens? with
  | none => .error .grammar
  | some none => .ok .null
  | some (some n) => n.value

/-- The built-in decoder. -/
instance builtIn : Decoder where
  decode := fun text ↦ (read text).mapError Fault.raised

end Provisioning.Markup
