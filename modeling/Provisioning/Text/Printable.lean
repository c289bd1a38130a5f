/-!
Printable characters: everything but controls, format characters, private-use characters and the
separators other than the plain space.
-/

set_option autoImplicit false

namespace Provisioning.Text

/-- First and last code points of the runs of characters that have no visible form. -/
def invisibleRuns : List (Nat × Nat) :=
  [(0x00, 0x1F), (0x7F, 0xA0), (0xAD, 0xAD), (0x600, 0x605), (0x61C, 0x61C), (0x6DD, 0x6DD),
    (0x70F, 0x70F), (0x890, 0x891), (0x8E2, 0x8E2), (0x1680, 0x1680), (0x180E, 0x180E),
    (0x2000, 0x200F), (0x2028, 0x202F), (0x205F, 0x2064), (0x2066, 0x206F), (0x3000, 0x3000),
    (0xE000, 0xF8FF), (0xFEFF, 0xFEFF), (0xFFF9, 0xFFFB), (0xFFFE, 0xFFFF), (0x110BD, 0x110BD),
    (0x110CD, 0x110CD), (0x13430, 0x13438), (0x1BCA0, 0x1BCA3), (0x1D173, 0x1D17A),
    (0xE0001, 0xE0001), (0xE0020, 0xE007F), (0xF0000, 0x10FFFF)]

/-- Whether a character has a visible form; the plain space counts as one. -/
def isPrintable (c : Char) : Bool :=
  invisibleRuns.all fun (first, last) ↦ c.toNat < first || last < c.toNat

end Provisioning.Text
