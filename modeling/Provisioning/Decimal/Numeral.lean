import Provisioning.Decimal.Binary

/-!
Numerals: digits in a base, and decimal numbers with a sign, a fraction and an exponent. Both are
read from the whole of a text or not at all.
-/

set_option autoImplicit false

namespace Provisioning.Decimal

/-- The value of a hexadecimal digit. -/
def digit? (c : Char) : Option Nat :=
  if '0' ≤ c ∧ c ≤ '9' then some (c.toNat - '0'.toNat)
  else if 'a' ≤ c ∧ c ≤ 'f' then some (c.toNat - 'a'.toNat + 10)
  else if 'A' ≤ c ∧ c ≤ 'F' then some (c.toNat - 'A'.toNat + 10)
  else none

/-- The value of a nonempty run of digits below `base`. -/
def natural? (base : Nat) (cs : List Char) : Option Nat :=
  if cs.isEmpty then none
  else cs.foldlM (fun n c ↦ do
    let d ← digit? c
    guard (d < base)
    return n * base + d) 0

/-- The most digits of a whole number that is read or written in base ten. -/
def maxDigits : Nat := 4300

/-- What is said of a whole number with more digits. -/
def tooManyDigits : String :=
  "Exceeds the limit (" ++ toString maxDigits ++ " digits) for integer string conversion; use " ++
    "sys.set_int_max_str_digits() to increase the limit"

/-- Whether a number has no more than `d` digits in base ten. -/
def fits : (d n : Nat) → Bool
  | 0, n => n == 0
  | d + 1, n => n == 0 || fits d (n / 10)

/-- A sign and what follows it; no sign is positive. -/
def splitSign : List Char → Bool × List Char
  | '-' :: cs => (true, cs)
  | '+' :: cs => (false, cs)
  | cs => (false, cs)

/-- A whole number in a base, with an optional sign. -/
def integer? (base : Nat) (cs : List Char) : Option Int := do
  let (negative, cs) := splitSign cs
  let n ← natural? base cs
  return if negative then -(n : Int) else n

/-- The decimal number `± digits · 10 ^ exponent`. -/
structure Numeral where
  negative : Bool
  digits : Nat
  exponent : Int
  deriving DecidableEq, Repr

namespace Numeral

/-- The digits before and after the point, of which there must be at least one. -/
def mantissa? (cs : List Char) : Option (Nat × Nat) :=
  let whole := cs.takeWhile Char.isDigit
  match cs.dropWhile Char.isDigit with
  | [] => (natural? 10 whole).map fun n ↦ (n, 0)
  | '.' :: fraction => (natural? 10 (whole ++ fraction)).map fun n ↦ (n, fraction.length)
  | _ :: _ => none

/-- Reads an optional sign, digits with an optional point, and an optional exponent. -/
def ofChars? (cs : List Char) : Option Numeral := do
  let (negative, cs) := splitSign cs
  let isMark (c : Char) : Bool := c == 'e' || c == 'E'
  let (digits, places) ← mantissa? (cs.takeWhile fun c ↦ !isMark c)
  match cs.dropWhile fun c ↦ !isMark c with
  | [] => return ⟨negative, digits, -places⟩
  | _ :: power =>
    let e ← integer? 10 power
    return ⟨negative, digits, e - places⟩

/-- The double nearest to a numeral. -/
def toFloat (n : Numeral) : Float :=
  ofDecimal n.negative n.digits n.exponent

end Numeral

/-- The double that a text stands for: a numeral, infinity or not a number, in any case. -/
def double? (s : String) : Option Float :=
  let cs := s.toList
  let (negative, body) := splitSign cs
  let word := String.ofList (body.map Char.toLower)
  if word == "inf" || word == "infinity" then some (nearest negative (Nat.pow 2 1024) 1)
  else if word == "nan" then some (0.0 / 0.0)
  else (Numeral.ofChars? cs).map Numeral.toFloat

end Provisioning.Decimal
