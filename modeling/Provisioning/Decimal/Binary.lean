/-!
Doubles as exact numbers. A finite double is a whole number times a power of two; a fraction of
whole numbers has a nearest double, where a tie goes to the even mantissa.
-/

set_option autoImplicit false

namespace Provisioning.Decimal

/-- The number `± mantissa · 2 ^ exponent`. -/
structure Binary where
  negative : Bool
  mantissa : Nat
  exponent : Int
  deriving DecidableEq, Repr

/-- The exact value of a finite double. -/
def Binary.ofFloat? (x : Float) : Option Binary :=
  let bits := x.toBits.toNat
  let negative := decide (Nat.pow 2 63 ≤ bits)
  let field : Nat := bits / Nat.pow 2 52 % Nat.pow 2 11
  let fraction : Nat := bits % Nat.pow 2 52
  if field = 2047 then none
  else if field = 0 then some ⟨negative, fraction, -1074⟩
  else some ⟨negative, fraction + Nat.pow 2 52, (field : Int) - 1075⟩

/-- Numerator and denominator of the absolute value. -/
def Binary.ratio (b : Binary) : Nat × Nat :=
  (b.mantissa * Nat.pow 2 b.exponent.toNat, Nat.pow 2 (-b.exponent).toNat)

/-- The value as a whole number, if it is one. -/
def Binary.toInt? (b : Binary) : Option Int :=
  let (num, den) := b.ratio
  if num % den = 0 then some (if b.negative then -((num / den : Nat) : Int) else (num / den : Nat))
  else none

/-- `num / den` rounded to a whole number, a half to the even neighbour. -/
def roundHalfEven (num den : Nat) : Nat :=
  let whole := num / den
  let twice := 2 * (num % den)
  if twice < den then whole
  else if den < twice then whole + 1
  else whole + whole % 2

/-- The bit pattern of the double nearest to `num / den`, infinity when that is out of range. -/
def nearestBits (num den : Nat) : Nat :=
  if num = 0 then 0
  else
    let scaled (k : Int) : Nat × Nat := (num * Nat.pow 2 (-k).toNat, den * Nat.pow 2 k.toNat)
    let least : Int := max ((num.log2 : Int) - den.log2 - 53) (-1074)
    let (n, d) := scaled least
    let k := if Nat.pow 2 53 ≤ n / d then least + 1 else least
    let (n, d) := scaled k
    let bits := (k + 1074).toNat * Nat.pow 2 52 + roundHalfEven n d
    min bits (2047 * Nat.pow 2 52)

/-- The double nearest to `± num / den`. -/
def nearest (negative : Bool) (num den : Nat) : Float :=
  let x := Float.ofBits (nearestBits num den).toUInt64
  if negative then -x else x

/-- The double nearest to a whole number, if the number is in range. -/
def ofInt? (n : Int) : Option Float :=
  if nearestBits n.natAbs 1 = 2047 * Nat.pow 2 52 then none else some (nearest (n < 0) n.natAbs 1)

/-- The double nearest to `± digits · 10 ^ exponent`. -/
def ofDecimal (negative : Bool) (digits : Nat) (exponent : Int) : Float :=
  let places : Int := (Nat.toDigits 10 digits).length + exponent
  if digits = 0 || places < -330 then nearest negative 0 1
  else if 310 < places then nearest negative (Nat.pow 2 1024) 1
  else nearest negative (digits * Nat.pow 10 exponent.toNat) (Nat.pow 10 (-exponent).toNat)

/-- Whether `n` is less than, equal to or greater than the double `x`; no answer for a double that
is not a number. -/
def compareInt? (n : Int) (x : Float) : Option Ordering :=
  match Binary.ofFloat? x with
  | some b =>
    let (num, den) := b.ratio
    let value : Int := if b.negative then -(num : Int) else num
    some (compare (n * den) value)
  | none => if x.isNaN then none else if x < 0 then some .gt else some .lt

end Provisioning.Decimal
