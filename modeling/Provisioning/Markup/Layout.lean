import Provisioning.Markup.Block
import Provisioning.Markup.Property
import Provisioning.Markup.Quoted

/-!
From text to tokens. Indentation opens and closes blocks. What may turn out to be the key of an
entry is kept in mind until a colon follows on the same line, or can no longer follow; the tokens
that mark a key are put in front of it then.
-/

set_option autoImplicit false

namespace Provisioning.Markup

/-- A node that may be a key: the number of tokens in front of it, the place where it starts, and
whether it has to be a key, since nothing else can stand there. -/
structure Candidate where
  place : Nat
  isRequired : Bool
  index : Nat
  line : Nat
  column : Nat

/-- What is known in the middle of a text. The tokens come last first, as do the columns of the
open blocks and the open brackets. -/
structure Layout where
  cursor : Cursor
  tokens : List Token := []
  indent : Int := -1
  outer : List Int := []
  flow : List Token := []
  mayStartKey : Bool := true
  candidates : List (Nat × Candidate) := []

namespace Layout

/-- The greatest distance between the start of a key and its colon. -/
def maxKeyLength : Nat := 1024

/-- The number of brackets that are open. -/
def depth (s : Layout) : Nat :=
  s.flow.length

/-- Whether this is a place between brackets. -/
def inFlow (s : Layout) : Bool :=
  !s.flow.isEmpty

/-- Adds a token. -/
def emit (s : Layout) (t : Token) : Layout :=
  { s with tokens := t :: s.tokens }

/-- Puts a token in front of all but the first `place` ones. -/
def emitAt (s : Layout) (place : Nat) (t : Token) : Layout :=
  { s with tokens := s.tokens.insertIdx (s.tokens.length - place) t }

/-- Whether a candidate may still become a key here. -/
def isLive (s : Layout) (k : Candidate) : Bool :=
  k.line == s.cursor.line && s.cursor.index - k.index ≤ maxKeyLength

/-- Forgets the candidates that can no longer become keys; none of them may be required. -/
def dropStale (s : Layout) : Option Layout :=
  if s.candidates.any fun e ↦ !s.isLive e.2 && e.2.isRequired then none
  else some { s with candidates := s.candidates.filter fun e ↦ s.isLive e.2 }

/-- Forgets the candidate of this depth, which must not be required. -/
def dropCandidate (s : Layout) : Option Layout :=
  if s.candidates.any fun e ↦ e.1 == s.depth && e.2.isRequired then none
  else some { s with candidates := s.candidates.filter fun e ↦ e.1 != s.depth }

/-- Notes that what starts here may be a key, if keys may start here. -/
def noteCandidate (s : Layout) : Option Layout :=
  if s.mayStartKey then do
    let s ← s.dropCandidate
    let c := s.cursor
    let k : Candidate :=
      ⟨s.tokens.length, !s.inFlow && s.indent == c.column, c.index, c.line, c.column⟩
    return { s with candidates := (s.depth, k) :: s.candidates }
  else some s

/-- Closes the blocks that are indented further than a column, except between brackets. -/
def closeBlocks (column : Int) (s : Layout) : Layout :=
  if s.inFlow then s
  else go s.outer s
where
  /-- Closes blocks while there are outer ones. -/
  go : List Int → Layout → Layout
    | [], s => s
    | next :: outer, s =>
      if column < s.indent then go outer { s.emit .blockEnd with indent := next, outer := outer }
      else s

/-- Opens a block at a column that is further in than the current one. The token goes in front of
all but the first `place` ones. -/
def openBlock (s : Layout) (column place : Nat) (t : Token) : Layout :=
  if s.indent < column then
    { s.emitAt place t with indent := column, outer := s.indent :: s.outer }
  else s

/-- The next place that is not blank. A line break outside brackets lets a key start; comments are
passed over. -/
def skipBlanks : Nat → Layout → Layout
  | 0, s => s
  | fuel + 1, s =>
    let c := s.cursor.skipWhile fun ch ↦ ch == ' ' || (s.inFlow && ch == '\t')
    let c := if c.sees '#' then c.skipWhile (!isLineEnd ·) else c
    match c.break? with
    | none => { s with cursor := c }
    | some (_, c) => skipBlanks fuel { s with cursor := c, mayStartKey := s.mayStartKey || !s.inFlow }

/-- Passes over `n` characters. -/
def skip (s : Layout) (n : Nat) : Layout :=
  { s with cursor := s.cursor.skip n }

/-- The start or the end of a document. -/
def document (s : Layout) (t : Token) : Option Layout := do
  let s ← (s.closeBlocks (-1)).dropCandidate
  return { (s.emit t).skip 3 with mayStartKey := false }

/-- An opening bracket. -/
def opening (s : Layout) (t : Token) : Option Layout := do
  let s ← s.noteCandidate
  return { (s.emit t).skip 1 with flow := t :: s.flow, mayStartKey := true }

/-- A closing bracket. -/
def closing (s : Layout) (t : Token) : Option Layout := do
  let s ← s.dropCandidate
  return { (s.emit t).skip 1 with flow := s.flow.tail, mayStartKey := false }

/-- A comma between brackets. -/
def comma (s : Layout) : Option Layout := do
  let s ← s.dropCandidate
  return { (s.emit .comma).skip 1 with mayStartKey := true }

/-- The hyphen in front of an item. -/
def item (s : Layout) : Option Layout := do
  guard (s.inFlow || s.mayStartKey)
  let s := if s.inFlow then s else s.openBlock s.cursor.column s.tokens.length .blockList
  let s ← s.dropCandidate
  return { (s.emit .item).skip 1 with mayStartKey := true }

/-- The question mark in front of a key. -/
def key (s : Layout) : Option Layout := do
  guard (s.inFlow || s.mayStartKey)
  let s := if s.inFlow then s else s.openBlock s.cursor.column s.tokens.length .blockDict
  let s ← s.dropCandidate
  return { (s.emit .key).skip 1 with mayStartKey := !s.inFlow }

/-- The colon in front of a value. It makes a key of the candidate of this depth. -/
def value (s : Layout) : Option Layout := do
  match s.candidates.lookup s.depth with
  | some k =>
    let s := { s with candidates := s.candidates.filter fun e ↦ e.1 != s.depth }
    let s := s.emitAt k.place .key
    let s := if s.inFlow then s else s.openBlock k.column k.place .blockDict
    return { (s.emit .value).skip 1 with mayStartKey := false }
  | none =>
    guard (s.inFlow || s.mayStartKey)
    let s := if s.inFlow then s else s.openBlock s.cursor.column s.tokens.length .blockDict
    let s ← s.dropCandidate
    return { (s.emit .value).skip 1 with mayStartKey := !s.inFlow }

/-- Something that may be a key: a token and the place after it. -/
def node (s : Layout) (t : Token) (next : Cursor) (mayStartKey : Bool := false) :
    Option Layout := do
  let s ← s.noteCandidate
  return { s.emit t with cursor := next, mayStartKey := mayStartKey }

/-- A block scalar, after which a key may start. -/
def block (s : Layout) : Option Layout := do
  let s ← s.dropCandidate
  let (text, next) ← Block.scan s.indent s.cursor
  return { s.emit (.scalar text false) with cursor := next, mayStartKey := true }

/-- Whether a colon at this place stands in front of a value. Between brackets it always does,
unless a gap is needed to tell it from the start of a scalar. -/
def isValue (s : Layout) (afterValue : Bool) : Bool :=
  match s.flow with
  | .openList :: _ => s.cursor.gapAfter 1
  | _ :: _ => !afterValue || s.cursor.gapAfter 1
  | [] => s.cursor.gapAfter 1

/-- The next token. `afterValue` says whether the last token is the colon of an entry whose key is
still part of a candidate. -/
def token (s : Layout) (afterValue : Bool) : Option Layout := do
  let c := s.cursor
  match c.rest with
  | [] => some s
  | ch :: _ =>
    if ch == '%' && c.column == 0 then none
    else if c.marks '-' then s.document .documentStart
    else if c.marks '.' then s.document .documentEnd
    else if ch == '[' then s.opening .openList
    else if ch == '\x7b' then s.opening .openDict
    else if ch == ']' then s.closing .closeList
    else if ch == '\x7d' then s.closing .closeDict
    else if ch == ',' then s.comma
    else if ch == '-' && c.gapAfter 1 then s.item
    else if ch == '?' && (s.inFlow || c.gapAfter 1) then s.key
    else if ch == ':' && s.isValue afterValue then s.value
    else if ch == '*' then do
      let (name, next) ← Property.name? c
      s.node (.alias name) next
    else if ch == '&' then do
      let (name, next) ← Property.name? c
      s.node (.anchor name) next
    else if ch == '!' then do
      let (name, next) ← Property.tag? c
      s.node (.tag name) next
    else if (ch == '|' || ch == '>') && !s.inFlow then s.block
    else if ch == '\'' || ch == '"' then do
      let (text, next) ← Quoted.scan c
      s.node (.scalar text false) next
    else if Plain.starts s.inFlow c then
      let (text, mayStartKey, next) := Plain.scan s.inFlow s.indent c
      s.node (.scalar text true) next mayStartKey
    else none

/-- The tokens from here on. -/
def run : Nat → Layout → Option (List Token)
  | 0, _ => none
  | fuel + 1, s => do
    let s ← s.dropStale
    let afterValue := !s.candidates.isEmpty && s.tokens.head? == some .value
    let s ← (s.skipBlanks (s.cursor.rest.length + 1)).dropStale
    let s := s.closeBlocks s.cursor.column
    if s.cursor.rest.isEmpty then
      let s ← (s.closeBlocks (-1)).dropCandidate
      return s.tokens.reverse
    else
      run fuel (← s.token afterValue)

end Layout

/-- The tokens of a text, which may start with a byte order mark. -/
def Token.ofText? (text : String) : Option (List Token) := do
  let cs := text.toList
  guard (cs.all isAllowed)
  let start : Cursor := ⟨cs, 0, 0, 0⟩
  Layout.run (cs.length + 1) { cursor := if start.sees '\ufeff' then start.step else start }

end Provisioning.Markup
