import Provisioning.Text.Blank

/-!
Looking for a text inside another: replacing and splitting. Occurrences are taken from left to right
and do not overlap.
-/

set_option autoImplicit false

namespace Provisioning.Text

/-- Replaces up to `budget` occurrences of a nonempty text. The next `skip` characters belong to an
occurrence that has been replaced. -/
def replaceFrom (old new : List Char) : (budget skip : Nat) → List Char → List Char
  | _, _, [] => []
  | budget, skip + 1, _ :: cs => replaceFrom old new budget skip cs
  | 0, 0, c :: cs => c :: cs
  | budget + 1, 0, c :: cs =>
    if old.isPrefixOf (c :: cs) then new ++ replaceFrom old new budget (old.length - 1) cs
    else c :: replaceFrom old new (budget + 1) 0 cs

/-- Puts a text before each of the next `budget` characters, and at the end if some of the budget
is left. -/
def interleave (new : List Char) : (budget : Nat) → List Char → List Char
  | 0, cs => cs
  | _ + 1, [] => new
  | budget + 1, c :: cs => new ++ c :: interleave new budget cs

/-- Replaces `old` by `new`, at most `limit` times if there is a limit. An empty text occurs before
every character and at the end. -/
def replace (old new : String) (limit : Option Nat) (s : String) : String :=
  let cs := s.toList
  let budget := limit.getD (cs.length + 1)
  String.ofList (if old.isEmpty then interleave new.toList budget cs
    else replaceFrom old.toList new.toList budget 0 cs)

/-- The parts of a text between the occurrences of a nonempty separator. -/
def splitFrom (separator : List Char) : (skip : Nat) → (part : List Char) → List Char →
    List (List Char)
  | _, part, [] => [part.reverse]
  | skip + 1, part, _ :: cs => splitFrom separator skip part cs
  | 0, part, c :: cs =>
    if separator.isPrefixOf (c :: cs) then
      part.reverse :: splitFrom separator (separator.length - 1) [] cs
    else splitFrom separator 0 (c :: part) cs

/-- The parts of a text between the occurrences of a nonempty separator. -/
def split (separator s : String) : List String :=
  (splitFrom separator.toList 0 [] s.toList).map String.ofList

/-- The words of a text: the parts between runs of spacing characters, none of them empty. -/
def words (s : String) : List String :=
  let parts := (s.toList.splitBy fun a b ↦ isSpacing a == isSpacing b)
  (parts.filter fun part ↦ !part.any isSpacing).map String.ofList

end Provisioning.Text
