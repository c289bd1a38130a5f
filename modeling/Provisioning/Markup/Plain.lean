import Provisioning.Markup.Cursor

/-!
Plain scalars: text without quotes. It goes on over lines that are indented further than the block
around it, and ends at a comment, at a colon with a gap after it and, within brackets, at a comma
or a bracket.
-/

set_option autoImplicit false

namespace Provisioning.Markup.Plain

/-- The brackets and commas that structure a value in brackets. -/
def isFlowSign (c : Char) : Bool :=
  c == ',' || c == '[' || c == ']' || c == '\x7b' || c == '\x7d'

/-- The characters that cannot start a scalar in any place. -/
def isIndicator (c : Char) : Bool :=
  isFlowSign c || "#&*!|>'\"%@\x60-?:".toList.contains c

/-- Whether a scalar starts at a place. -/
def starts (inFlow : Bool) (c : Cursor) : Bool :=
  match c.rest with
  | [] => false
  | ch :: rest =>
    if !(isGap ch || isBreak ch || isIndicator ch) then true
    else
      let gapNext := c.gapAfter 1
      let blankNext := rest.head? == some ' ' || rest.head? == some '\t'
      (ch == '-' && !gapNext) || (ch == ':' && inFlow && !blankNext) ||
        ((ch == '?' || ch == ':') && !inFlow && !gapNext)

/-- The characters of a scalar that stand on one line and have no gap between them. -/
def run (inFlow : Bool) : List Char → List Char
  | [] => []
  | ':' :: rest => if rest.head?.all isGap then [] else ':' :: run inFlow rest
  | ch :: rest =>
    if isGap ch || (inFlow && isFlowSign ch) then [] else ch :: run inFlow rest

/-- A gap within a scalar: the text it stands for, which is empty if the scalar ends here, whether
it crosses lines, and the place after it. -/
structure Gap where
  text : String
  crosses : Bool
  last : Cursor

/-- The breaks after the first one of a gap; none if a document ends here. -/
def emptyLines : Nat → Cursor → Option String × Cursor
  | 0, c => (some "", c)
  | fuel + 1, c =>
    let c := c.skipWhile (· == ' ')
    match c.break? with
    | none => (some "", c)
    | some (text, c) =>
      if c.separates then (none, c)
      else
        let (more, last) := emptyLines fuel c
        (more.map (text ++ ·), last)

/-- The gap at a place. -/
def gap (c : Cursor) : Gap :=
  let (spaces, c) := c.span (· == ' ')
  match c.break? with
  | none => ⟨spaces, false, c⟩
  | some (text, c) =>
    if c.separates then ⟨"", true, c⟩
    else
      match emptyLines (c.rest.length + 1) c with
      | (none, last) => ⟨"", true, last⟩
      | (some more, last) =>
        ⟨if text != "\n" then text ++ more else if more.isEmpty then " " else more, true, last⟩

/-- The text of a scalar from here on, whether its last gap crosses lines, and the place after
that gap. -/
def body (inFlow : Bool) (indent : Int) : Nat → Cursor → Bool → String × Bool × Cursor
  | 0, c, crosses => ("", crosses, c)
  | fuel + 1, c, crosses =>
    let text := run inFlow c.rest
    if c.sees '#' || text.isEmpty then ("", crosses, c)
    else
      let g := gap (c.skip text.length)
      let ends := g.text.isEmpty || g.last.sees '#' || (!inFlow && g.last.column ≤ indent)
      if ends then (String.ofList text, g.crosses, g.last)
      else
        match body inFlow indent fuel g.last g.crosses with
        | ("", crosses, last) => (String.ofList text, crosses, last)
        | (more, crosses, last) => (String.ofList text ++ g.text ++ more, crosses, last)

/-- The scalar that starts here: its text, whether a line ends after it, and the next place. -/
def scan (inFlow : Bool) (indent : Int) (c : Cursor) : String × Bool × Cursor :=
  body inFlow indent (c.rest.length + 1) c false

end Provisioning.Markup.Plain
