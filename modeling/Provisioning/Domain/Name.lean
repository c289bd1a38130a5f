import Provisioning.Text.Digit
import Provisioning.Text.Pattern

/-!
The test for domain names: labels of letters, digits and inner hyphens between dots, at most 253
characters without the dots at the end. A dotted quad of numbers is an address and no name.
-/

set_option autoImplicit false

namespace Provisioning.Domain

open Text (Pattern)

/-- The most characters that a label may have. -/
def maxLabel : Nat := 63

/-- The most characters that a name may have, dots at its end not counted. -/
def maxName : Nat := 253

/-- The characters of a label: ASCII letters, digits and the hyphen. -/
def isLabelChar (c : Char) : Bool :=
  c.isAlphanum || c == '-'

/-- The parts of a text between its dots; there is always one more than there are dots. -/
def splitDots : List Char → List (List Char)
  | [] => [[]]
  | c :: cs =>
    if c == '.' then [] :: splitDots cs
    else
      match splitDots cs with
      | [] => [[c]]
      | part :: parts => (c :: part) :: parts

/-- A text without the dots at its end. -/
def dropDots (cs : List Char) : List Char :=
  (cs.reverse.dropWhile (· == '.')).reverse

/-- A dot. -/
def dot : Pattern :=
  .one (· == '.')

/-- A label, which neither begins nor ends with a hyphen. -/
def label : Pattern :=
  .seq (.notAhead (· == '-')) (.seq (.times 1 maxLabel (.one isLabelChar)) (.notBehind (· == '-')))

/-- The form of a name: labels between dots, of which one more may follow at the end. -/
def name : Pattern :=
  .anchored (.seq label (.seq (.many (.seq dot label)) (.times 0 1 dot)))

/-- A number of one to three digits. -/
def number : Pattern :=
  .times 1 3 (.one Text.isDecimalDigit)

/-- The form of an address: four short numbers between dots. -/
def address : Pattern :=
  .anchored (.seq number (.times 3 3 (.seq dot number)))

/-- Whether a text is a domain name. -/
def isName (domain : String) : Bool :=
  let cs := domain.toList
  if cs.isEmpty || maxName < (dropDots cs).length then false
  else if address.fits cs then false
  else name.fits cs

end Provisioning.Domain
