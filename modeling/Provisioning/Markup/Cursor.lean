/-!
A place in a document and the text that follows it. Lines end in a line feed; a few other
characters also separate the lines of a scalar but do not start a new line of the document.
-/

set_option autoImplicit false

namespace Provisioning.Markup

/-- Whether a character ends the text of a line. -/
def isLineEnd (c : Char) : Bool :=
  c == '\n' || c == '\r' || c == '\x85'

/-- Whether a character separates the lines of a scalar. -/
def isBreak (c : Char) : Bool :=
  isLineEnd c || c == '\u2028' || c == '\u2029'

/-- Whether a character separates one token from the next. -/
def isGap (c : Char) : Bool :=
  c == ' ' || c == '\t' || isLineEnd c

/-- Whether a document may hold a character. -/
def isAllowed (c : Char) : Bool :=
  let n := c.toNat
  n == 0x09 || n == 0x0A || n == 0x0D || (0x20 ≤ n && n ≤ 0x7E) || n == 0x85 ||
    (0xA0 ≤ n && n ≤ 0xD7FF) || (0xE000 ≤ n && n ≤ 0xFFFD) || 0x10000 ≤ n

/-- A place in a document. -/
structure Cursor where
  rest : List Char
  index : Nat := 0
  line : Nat := 0
  column : Nat := 0

namespace Cursor

/-- The next character. -/
def head? (c : Cursor) : Option Char :=
  c.rest.head?

/-- Whether the next character is `ch`. -/
def sees (c : Cursor) (ch : Char) : Bool :=
  c.head? == some ch

/-- Whether there is a next character and it satisfies `p`. -/
def seesAny (c : Cursor) (p : Char → Bool) : Bool :=
  c.head?.any p

/-- The place after the next character. A byte order mark takes no column. -/
def step (c : Cursor) : Cursor :=
  match c.rest with
  | [] => c
  | ch :: rest =>
    if ch == '\n' || (ch == '\r' && rest.head? != some '\n') then ⟨rest, c.index + 1, c.line + 1, 0⟩
    else ⟨rest, c.index + 1, c.line, if ch == '\ufeff' then c.column else c.column + 1⟩

/-- The place `n` characters further on. -/
def skip : Nat → Cursor → Cursor
  | 0, c => c
  | n + 1, c => skip n c.step

/-- The characters from here on that satisfy `p`, and the place after them. -/
def span (c : Cursor) (p : Char → Bool) : String × Cursor :=
  let run := c.rest.takeWhile p
  (String.ofList run, c.skip run.length)

/-- The place after the characters that satisfy `p`. -/
def skipWhile (c : Cursor) (p : Char → Bool) : Cursor :=
  (c.span p).2

/-- A line break at this place, as it counts in a scalar, and the place after it. -/
def break? (c : Cursor) : Option (String × Cursor) :=
  match c.rest with
  | '\r' :: '\n' :: _ => some ("\n", c.step.step)
  | ch :: _ =>
    if isLineEnd ch then some ("\n", c.step)
    else if isBreak ch then some (String.singleton ch, c.step)
    else none
  | [] => none

/-- Whether a gap or the end follows after `n` characters. -/
def gapAfter (c : Cursor) (n : Nat) : Bool :=
  match c.rest.drop n with
  | [] => true
  | ch :: _ => isGap ch

/-- Whether this is the start of a line on which three characters `ch` stand alone. -/
def marks (c : Cursor) (ch : Char) : Bool :=
  c.column == 0 && c.rest.take 3 == [ch, ch, ch] && c.gapAfter 3

/-- Whether three hyphens or points mark the start or end of a document, wherever the line
starts. -/
def separates (c : Cursor) : Bool :=
  (c.rest.take 3 == ['-', '-', '-'] || c.rest.take 3 == ['.', '.', '.']) && c.gapAfter 3

end Cursor
end Provisioning.Markup
