import Provisioning.Markup.Plain
import Provisioning.Markup.Token

/-!
Properties of nodes: anchors, by which aliases name a node, and tags, which fix its kind.
-/

set_option autoImplicit false

namespace Provisioning.Markup.Property

/-- The characters of names. -/
def isNameChar (c : Char) : Bool :=
  let n := c.toNat
  !Plain.isFlowSign c && c != '\ufeff' &&
    ((0x21 ≤ n && n ≤ 0x7E) || (0xA0 ≤ n && n ≤ 0xD7FF) || (0xE000 ≤ n && n ≤ 0xFFFD) ||
      0x10000 ≤ n)

/-- The name after a sign at this place, and the place after the name. -/
def name? (c : Cursor) : Option (String × Cursor) :=
  let (name, last) := c.step.span isNameChar
  if name.isEmpty || last.seesAny (fun ch ↦ !(isGap ch || Plain.isFlowSign ch)) then none
  else some (name, last)

/-- The characters of tags. -/
def isTagChar (c : Char) : Bool :=
  c.isAlphanum || "-;/?:@&=+$,_.!~*'()[]#".toList.contains c

/-- The last part of a tag, which must not be empty. -/
def suffix? (c : Cursor) : Option (String × Cursor) :=
  let (text, last) := c.span isTagChar
  if text.isEmpty then none else some (text, last)

/-- The tag at this place, and the place after it. A tag of which the whole name is given stands in
angle brackets; two signs stand for the start of all standard names. Other short forms are not
known. -/
def tag? (c : Cursor) : Option (String × Cursor) := do
  let isStandard := c.step.sees '!'
  let c := if isStandard then c.step else c
  let (name, last) ←
    if c.step.sees '<' then do
      let (name, last) ← suffix? (c.skip 2)
      guard (last.sees '>')
      some (name, last.step)
    else if c.gapAfter 1 then
      some (if isStandard then openTag ++ openTag else openTag, c.step)
    else do
      let word := c.step.rest.takeWhile fun ch ↦ ch != ' ' && !isBreak ch
      guard (!word.contains '!')
      let (suffix, last) ← suffix? c.step
      some ((if isStandard then standardTag else openTag) ++ suffix, last)
  guard !(last.seesAny fun ch ↦ ch != ' ' && !isBreak ch)
  return (name, last)

end Provisioning.Markup.Property
