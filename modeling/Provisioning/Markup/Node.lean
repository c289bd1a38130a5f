import Provisioning.Markup.Scalar
import Provisioning.Table

/-!
From tokens to nodes. A document is one node; a node is a scalar or holds other nodes, and an alias
stands for the node that was given its name last.
-/

set_option autoImplicit false

namespace Provisioning.Markup

/-- A part of a document and the kind of value it is meant for. -/
inductive Node
  | scalar (kind : Kind) (text : String)
  | list (kind : Kind) (items : List Node)
  | dict (kind : Kind) (entries : List (Node × Node))

instance : Inhabited Node := ⟨.scalar .null ""⟩

/-- The node that is left out. -/
def Node.absent : Node :=
  .scalar .null ""

/-- The tokens that are left, and the nodes by name. -/
structure Source where
  tokens : List Token
  anchors : Table String Node := []

/-- A reader of the front of the tokens. -/
abbrev Reader := StateT Source Option

namespace Reader

/-- Whether the next token is one of several. -/
def nextIs (ts : List Token) : Reader Bool := do
  return (← get).tokens.head?.any ts.contains

/-- Takes one token. -/
def skip : Reader Unit :=
  modify fun s ↦ { s with tokens := s.tokens.tail }

/-- Takes the next token if it is `t`. -/
def skipIf (t : Token) : Reader Bool := do
  if ← nextIs [t] then
    skip
    return true
  else return false

/-- Takes the token `t`, which must come next. -/
def expect (t : Token) : Reader Unit := do
  if !(← skipIf t) then failure

/-- The node that `read` finds, unless one of the given tokens comes next. -/
def unlessNext (ts : List Token) (read : Reader Node) : Reader Node := do
  if ← nextIs ts then return .absent else read

/-- The items of a block. -/
def blockItems (read : Reader Node) : Nat → Reader (List Node)
  | 0 => failure
  | fuel + 1 => do
    if ← skipIf .item then
      let x ← unlessNext [.item, .blockEnd] read
      return x :: (← blockItems read fuel)
    else
      expect .blockEnd
      return []

/-- The items of a list that is indented no further than the key in front of it. -/
def flushItems (read : Reader Node) : Nat → Reader (List Node)
  | 0 => failure
  | fuel + 1 => do
    if ← skipIf .item then
      let x ← unlessNext [.item, .key, .value, .blockEnd] read
      return x :: (← flushItems read fuel)
    else return []

/-- The value of an entry, which may be left out together with its colon. -/
def entryValue (ends : List Token) (read : Reader Node) : Reader Node := do
  if ← skipIf .value then unlessNext ends read else return .absent

/-- The entries of a block. -/
def blockEntries (read : Reader Node) : Nat → Reader (List (Node × Node))
  | 0 => failure
  | fuel + 1 => do
    let ends : List Token := [.key, .value, .blockEnd]
    if ← skipIf .key then
      let k ← unlessNext ends read
      let v ← entryValue ends read
      return (k, v) :: (← blockEntries read fuel)
    else if ← nextIs [.value] then
      let v ← entryValue ends read
      return (.absent, v) :: (← blockEntries read fuel)
    else
      expect .blockEnd
      return []

/-- The items between brackets. A key makes a dictionary of a single entry. -/
def flowItems (read : Reader Node) (isFirst : Bool) : Nat → Reader (List Node)
  | 0 => failure
  | fuel + 1 => do
    if ← skipIf .closeList then return []
    if !isFirst then expect .comma
    if ← skipIf .key then
      let k ← unlessNext [.value, .comma, .closeList] read
      let v ← entryValue [.comma, .closeList] read
      return .dict .dict [(k, v)] :: (← flowItems read false fuel)
    else if ← skipIf .closeList then return []
    else
      let x ← read
      return x :: (← flowItems read false fuel)

/-- The entries between braces. A node alone is a key. -/
def flowEntries (read : Reader Node) (isFirst : Bool) : Nat → Reader (List (Node × Node))
  | 0 => failure
  | fuel + 1 => do
    let ends : List Token := [.comma, .closeDict]
    if ← skipIf .closeDict then return []
    if !isFirst then expect .comma
    if ← skipIf .key then
      let k ← unlessNext (.value :: ends) read
      let v ← entryValue ends read
      return (k, v) :: (← flowEntries read false fuel)
    else if ← nextIs [.value] then
      let v ← entryValue ends read
      return (.absent, v) :: (← flowEntries read false fuel)
    else if ← skipIf .closeDict then return []
    else
      let k ← read
      return (k, .absent) :: (← flowEntries read false fuel)

/-- The name after a sign, if the next token is such a name. -/
def name? (name : Token → Option String) : Reader (Option String) := do
  match (← get).tokens.head?.bind name with
  | some s =>
    skip
    return some s
  | none => return none

/-- The next token as an anchor. -/
def anchor? : Reader (Option String) :=
  name? fun
    | .anchor s => some s
    | _ => none

/-- The next token as a tag. -/
def tag? : Reader (Option String) :=
  name? fun
    | .tag s => some s
    | _ => none

/-- An anchor and a tag in either order, each of which may be left out. -/
def properties : Reader (Option String × Option String) := do
  match ← anchor? with
  | some a => return (some a, ← tag?)
  | none =>
    match ← tag? with
    | some t => return (← anchor?, some t)
    | none => return (none, none)

/-- The kind that a tag fixes; without one, or with the open one, the kind is `otherwise`. -/
def kindOf (tag : Option String) (otherwise : Kind) : Kind :=
  match tag with
  | none => otherwise
  | some t => if t == openTag then otherwise else .ofTag t

/-- Where a node stands: in a block, in the value of a block entry, or between brackets. -/
inductive Place
  | block
  | entry
  | flow
  deriving DecidableEq, Repr

/-- The contents of a node, with readers for the nodes in it. -/
def contents (place : Place) (inBlock inEntry inFlow : Reader Node) (tag : Option String)
    (hasAnchor : Bool) : Reader Node := do
  let size := (← get).tokens.length + 1
  if place == .entry && (← nextIs [.item]) then
    return .list (kindOf tag .list) (← flushItems inBlock size)
  match (← get).tokens.head? with
  | some (.scalar text isPlain) =>
    skip
    let isOpen := isPlain || tag == some openTag
    return .scalar (kindOf tag (if isOpen then .ofPlain text else .text)) text
  | some .openList =>
    skip
    return .list (kindOf tag .list) (← flowItems inFlow true size)
  | some .openDict =>
    skip
    return .dict (kindOf tag .dict) (← flowEntries inFlow true size)
  | some .blockList =>
    if place == .flow then failure
    skip
    return .list (kindOf tag .list) (← blockItems inBlock size)
  | some .blockDict =>
    if place == .flow then failure
    skip
    return .dict (kindOf tag .dict) (← blockEntries inEntry size)
  | _ =>
    if hasAnchor || tag.isSome then return .scalar (kindOf tag .null) "" else failure

/-- A node. -/
def node : Nat → Place → Reader Node
  | 0, _ => failure
  | fuel + 1, place => do
    match ← name? fun
      | .alias s => some s
      | _ => none with
    | some name =>
      match (← get).anchors.get? name with
      | some n => return n
      | none => failure
    | none =>
      let (anchor, tag) ← properties
      let n ← contents place (node fuel .block) (node fuel .entry) (node fuel .flow) tag
        anchor.isSome
      if let some name := anchor then
        modify fun s ↦ { s with anchors := s.anchors.put name n }
      return n

/-- The only document. -/
def document : Reader (Option Node) := do
  let size := (← get).tokens.length + 1
  if (← get).tokens.isEmpty then return none
  let root ←
    if ← skipIf .documentStart then do
      if (← get).tokens.isEmpty then pure .absent
      else unlessNext [.documentStart, .documentEnd] (node size .block)
    else node size .block
  let _ ← skipIf .documentEnd
  guard (← get).tokens.isEmpty
  return some root

end Reader

/-- The node that tokens describe; there is none in an empty document. -/
def Node.ofTokens? (tokens : List Token) : Option (Option Node) :=
  (Reader.document.run ⟨tokens, []⟩).map Prod.fst

end Provisioning.Markup
