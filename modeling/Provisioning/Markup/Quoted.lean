import Provisioning.Decimal.Numeral
import Provisioning.Markup.Cursor

/-!
Quoted scalars. In single quotes a quote is written twice; in double quotes a backslash starts an
escape. A line break counts as a space, and of several breaks all but the first are kept.
-/

set_option autoImplicit false

namespace Provisioning.Markup.Quoted

/-- The characters that a letter after a backslash stands for. -/
def escapes : List (Char × Char) :=
  [('0', '\x00'), ('a', '\x07'), ('b', '\x08'), ('t', '\t'), ('\t', '\t'), ('n', '\n'),
    ('v', '\x0b'), ('f', '\x0c'), ('r', '\r'), ('e', '\x1b'), (' ', ' '), ('"', '"'), ('/', '/'),
    ('\\', '\\'), ('N', '\x85'), ('_', '\xa0'), ('L', '\u2028'), ('P', '\u2029')]

/-- The number of hexadecimal digits that a letter after a backslash asks for. -/
def escapeWidths : List (Char × Nat) :=
  [('x', 2), ('u', 4), ('U', 8)]

/-- The character with a code point that is written in hexadecimal digits. -/
def character? (digits : List Char) : Option Char := do
  let n ← Decimal.natural? 16 digits
  if n.isValidChar then some (Char.ofNat n) else none

/-- The empty lines from here on, and the place of the next text. -/
def emptyLines : Nat → Cursor → Option (String × Cursor)
  | 0, _ => none
  | fuel + 1, c =>
    if c.separates then none
    else
      let c := c.skipWhile fun ch ↦ ch == ' ' || ch == '\t'
      match c.break? with
      | none => some ("", c)
      | some (text, c) => do
        let (more, c) ← emptyLines fuel c
        return (text ++ more, c)

/-- What a backslash and the characters after it stand for. -/
def escaped (fuel : Nat) (c : Cursor) : Option (String × Cursor) := do
  let ch ← c.head?
  match escapes.lookup ch, escapeWidths.lookup ch with
  | some meant, _ => return (String.singleton meant, c.step)
  | none, some width =>
    let digits := c.step.rest.take width
    guard (digits.length == width)
    return (String.singleton (← character? digits), c.skip (width + 1))
  | none, none =>
    let (_, c) ← c.break?
    emptyLines fuel c

/-- What blank characters within a scalar stand for. -/
def blanks (fuel : Nat) (c : Cursor) : Option (String × Cursor) := do
  let (spaces, c) := c.span fun ch ↦ ch == ' ' || ch == '\t'
  guard !c.rest.isEmpty
  match c.break? with
  | none => return (spaces, c)
  | some (text, c) =>
    let (more, c) ← emptyLines fuel c
    if text != "\n" then return (text ++ more, c)
    else return (if more.isEmpty then " " else more, c)

/-- The text of a scalar up to its closing quote. -/
def body (isDouble : Bool) : Nat → Cursor → Option (String × Cursor)
  | 0, _ => none
  | fuel + 1, c => do
    let ch ← c.head?
    let (text, next) ←
      if !isDouble && ch == '\'' && c.step.sees '\'' then some ("'", c.skip 2)
      else if ch == (if isDouble then '"' else '\'') then return ("", c.step)
      else if isDouble && ch == '\\' then escaped fuel c.step
      else if ch == ' ' || ch == '\t' || isBreak ch then blanks fuel c
      else some (String.singleton ch, c.step)
    let (more, last) ← body isDouble fuel next
    return (text ++ more, last)

/-- The text of a scalar that starts here with a quote, and the place after it. -/
def scan (c : Cursor) : Option (String × Cursor) :=
  body (c.sees '"') (c.rest.length + 1) c.step

end Provisioning.Markup.Quoted
