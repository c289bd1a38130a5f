import Provisioning.Markup.Cursor

/-!
Block scalars: the indented lines after a header. A literal keeps its line breaks; in a folded
scalar a single break between two lines that start with text counts as a space. The header says
how the scalar ends: with all its line breaks, with none, or with one.
-/

set_option autoImplicit false

namespace Provisioning.Markup.Block

/-- The line breaks at the end of a scalar. -/
inductive Ending
  | one
  | none
  | all
  deriving DecidableEq, Repr

/-- What a header says about the scalar. -/
structure Header where
  ending : Ending := .one
  indent : Option Nat := .none

/-- The ending that a sign in a header stands for. -/
def ending? (c : Cursor) : Option Ending :=
  if c.sees '+' then some .all else if c.sees '-' then some .none else .none

/-- The number of columns that a digit in a header stands for. -/
def width? (c : Cursor) : Option Nat :=
  if c.seesAny Char.isDigit then c.head?.map fun ch ↦ ch.toNat - '0'.toNat else none

/-- The signs of a header, in either order, and the place after them. -/
def header (c : Cursor) : Header × Cursor :=
  match ending? c, width? c with
  | some e, _ =>
    match width? c.step with
    | some n => (⟨e, some n⟩, c.skip 2)
    | none => (⟨e, none⟩, c.step)
  | none, some n =>
    match ending? c.step with
    | some e => (⟨e, some n⟩, c.skip 2)
    | none => (⟨.one, some n⟩, c.step)
  | none, none => ({}, c)

/-- The place of the line after a header, which only a comment may follow. -/
def afterHeader? (c : Cursor) : Option Cursor :=
  if c.seesAny fun ch ↦ ch != ' ' && !isBreak ch then none
  else
    let c := c.skipWhile (· == ' ')
    let c := if c.sees '#' then c.skipWhile (!isLineEnd ·) else c
    if c.rest.isEmpty then some c
    else if c.seesAny isLineEnd then c.break?.map Prod.snd
    else none

/-- The empty lines in front of the first text, its indentation as far as it has any, and the
column of the first empty line. -/
def leading : Nat → Cursor → Option Nat → Nat → String × Nat × Option Nat × Cursor
  | 0, c, first, widest => ("", widest, first, c)
  | fuel + 1, c, first, widest =>
    if c.sees ' ' then leading fuel c.step first (max widest c.step.column)
    else
      match c.break? with
      | none => ("", widest, first, c)
      | some (text, next) =>
        let (more, widest, first, last) := leading fuel next (first.or (some c.column)) widest
        (text ++ more, widest, first, last)

/-- The place at a column, or before it if something other than a space stands there. -/
def indented : Nat → Nat → Cursor → Cursor
  | 0, _, c => c
  | fuel + 1, column, c =>
    if c.column < column && c.sees ' ' then indented fuel column c.step else c

/-- The empty lines from here on, and the place of the next line's text. -/
def emptyLines (column : Nat) : Nat → Cursor → String × Cursor
  | 0, c => ("", c)
  | fuel + 1, c =>
    let c := indented c.rest.length column c
    match c.break? with
    | none => ("", c)
    | some (text, next) =>
      let (more, last) := emptyLines column fuel next
      (text ++ more, last)

/-- How a scalar is put together. -/
structure Style where
  isFolded : Bool
  column : Nat
  atMargin : Bool

/-- The lines of a scalar: the text without the breaks that follow its last line, the break that
ends this line, and the empty lines after it. -/
def lines (s : Style) : Nat → Cursor → String → String × String × String × Cursor
  | 0, c, breaks => ("", "", breaks, c)
  | fuel + 1, c, breaks =>
    if c.column != s.column || c.rest.isEmpty then ("", "", breaks, c)
    else
      let startsWithText := !c.seesAny fun ch ↦ ch == ' ' || ch == '\t'
      let (text, c) := c.span (!isLineEnd ·)
      let (lineBreak, c) := c.break?.getD ("", c)
      let (after, c) := emptyLines s.column fuel c
      let ends := (s.atMargin && (c.marks '-' || c.marks '.')) || c.column != s.column ||
        c.rest.isEmpty
      if ends then (breaks ++ text, lineBreak, after, c)
      else
        let joins := s.isFolded && lineBreak == "\n" && startsWithText &&
          !c.seesAny fun ch ↦ ch == ' ' || ch == '\t'
        let glue := if joins then if after.isEmpty then " " else "" else lineBreak
        let (more, last) := lines s fuel c after
        (breaks ++ text ++ glue ++ more, last)

/-- The text of a scalar that starts here with its sign, and the place after it. `indent` is the
column of the block that it stands in. -/
def scan (indent : Int) (c : Cursor) : Option (String × Cursor) := do
  let isFolded := c.sees '>'
  let (header, c) := header c.step
  guard (header.indent != some 0)
  let c ← afterHeader? c
  let fuel := c.rest.length + 1
  let least := (indent + 1).toNat
  let (column, breaks, start) ← match header.indent with
    | some n => do
      let column := max least 1 + n - 1
      let (breaks, c) := emptyLines column fuel c
      some (column, breaks, c)
    | none => do
      let (breaks, widest, first, c) := leading fuel c none 0
      guard (first.all fun n ↦ n == 0 || widest ≤ n)
      some (max least widest, breaks, c)
  let style : Style := ⟨isFolded, column, least == 0 && header.indent.isNone⟩
  let (text, lineBreak, after, last) := lines style fuel start breaks
  match header.ending with
  | .one => return (text ++ lineBreak, last)
  | .none => return (text, last)
  | .all => return (text ++ lineBreak ++ after, last)

end Provisioning.Markup.Block
