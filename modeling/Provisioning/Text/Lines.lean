/-!
Line breaks. A line may end in a line feed, a carriage return or both; the normal form has a line
feed at the end of every line.
-/

set_option autoImplicit false

namespace Provisioning.Text

/-- A text with every line break written as one line feed. -/
def normalLines : List Char → List Char
  | '\r' :: '\n' :: cs => '\n' :: normalLines cs
  | '\r' :: cs => '\n' :: normalLines cs
  | c :: cs => c :: normalLines cs
  | [] => []

end Provisioning.Text
