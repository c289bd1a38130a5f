/-!
Patterns that a text is matched against from its beginning, with assertions about what stands before
and after a place. A pattern leads from a place to every place up to which the text fits it; the text
matches if there is one.
-/

set_option autoImplicit false

namespace Provisioning.Text

/-- A place in a text: the characters before it, the nearest one first, and those after it. -/
structure Place where
  before : List Char
  after : List Char
  deriving DecidableEq, Repr

/-- What a text may look like from a place on. -/
inductive Pattern
  /-- The beginning of the text. -/
  | start
  /-- The end of the text, or the place in front of a line break that ends it. -/
  | finish
  | one (p : Char → Bool)
  | notAhead (p : Char → Bool)
  | notBehind (p : Char → Bool)
  | seq (first second : Pattern)
  | times (least most : Nat) (part : Pattern)
  | many (part : Pattern)

namespace Pattern

/-- The places after exactly `n` rounds. -/
def exactly (round : Place → List Place) : Nat → Place → List Place
  | 0, x => [x]
  | n + 1, x => (round x).flatMap (exactly round n)

/-- The places after at most `n` rounds, those after more rounds first. -/
def atMost (round : Place → List Place) : Nat → Place → List Place
  | 0, x => [x]
  | n + 1, x => (round x).flatMap (atMost round n) ++ [x]

/-- The places up to which the text fits. A round that reads nothing leads nowhere new, so no more
rounds are needed than there are characters left. -/
def ends : Pattern → Place → List Place
  | start, x => if x.before.isEmpty then [x] else []
  | finish, x => if x.after.isEmpty || x.after == ['\n'] then [x] else []
  | one p, ⟨before, after⟩ =>
    match after with
    | [] => []
    | c :: after => if p c then [⟨c :: before, after⟩] else []
  | notAhead p, x => if x.after.head?.any p then [] else [x]
  | notBehind p, x => if x.before.head?.any p then [] else [x]
  | seq first second, x => (ends first x).flatMap (ends second)
  | times least most part, x =>
    (exactly (ends part) least x).flatMap (atMost (ends part) (most - least))
  | many part, x => atMost (ends part) x.after.length x

/-- The whole text, but for a line break that may end it. -/
def anchored (pattern : Pattern) : Pattern :=
  .seq .start (.seq pattern .finish)

/-- Whether a text fits from its beginning on. -/
def fits (pattern : Pattern) (cs : List Char) : Bool :=
  !(pattern.ends ⟨[], cs⟩).isEmpty

end Pattern
end Provisioning.Text
