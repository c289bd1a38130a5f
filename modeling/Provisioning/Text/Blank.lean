/-!
Blank characters. `isBlank` is the `White_Space` property; `isSpacing` adds the four information
separators, which trimming a text removes as well. Zero-width characters belong to neither class.
-/

set_option autoImplicit false

namespace Provisioning.Text

/-- The characters with the `White_Space` property. -/
def isBlank (c : Char) : Bool :=
  let n := c.toNat
  (0x09 ≤ n && n ≤ 0x0D) || n == 0x20 || n == 0x85 || n == 0xA0 || n == 0x1680 ||
    (0x2000 ≤ n && n ≤ 0x200A) || n == 0x2028 || n == 0x2029 || n == 0x202F ||
    n == 0x205F || n == 0x3000

/-- Blank characters together with the information separators U+001C to U+001F. -/
def isSpacing (c : Char) : Bool :=
  isBlank c || (0x1C ≤ c.toNat && c.toNat ≤ 0x1F)

/-- Removes the leading characters that satisfy `p`. -/
def trimStart (p : Char → Bool) (s : String) : String :=
  String.ofList (s.toList.dropWhile p)

/-- Removes the trailing characters that satisfy `p`. -/
def trimEnd (p : Char → Bool) (s : String) : String :=
  String.ofList (s.toList.reverse.dropWhile p).reverse

/-- Removes the characters that satisfy `p` from both ends. -/
def trim (p : Char → Bool) (s : String) : String :=
  trimEnd p (trimStart p s)

end Provisioning.Text
