import Provisioning.Decimal.Binary

/-!
The decimal text of a double: the fewest digits that read back as the same double and, of several
candidates with that many digits, the one nearest to it.
-/

set_option autoImplicit false

namespace Provisioning.Decimal

/-- The numbers that round to `mantissa · 2 ^ exponent`: value and both ends over one denominator. -/
structure Interval where
  low : Nat
  value : Nat
  high : Nat
  den : Nat
  closed : Bool

/-- The rounding interval of a nonzero double. Below a power of two the doubles lie twice as
close, so there the interval reaches only half as far down. -/
def Binary.interval (b : Binary) : Interval :=
  let scale := Nat.pow 2 (b.exponent - 2).toNat
  let gap := if b.mantissa = Nat.pow 2 52 ∧ -1074 < b.exponent then 1 else 2
  { low := (4 * b.mantissa - gap) * scale
    value := 4 * b.mantissa * scale
    high := (4 * b.mantissa + 2) * scale
    den := Nat.pow 2 (2 - b.exponent).toNat
    closed := b.mantissa % 2 == 0 }

/-- Whether `k · 10 ^ e` lies in the interval. -/
def Interval.covers (i : Interval) (k : Nat) (e : Int) : Bool :=
  let num := k * Nat.pow 10 e.toNat * i.den
  let den := Nat.pow 10 (-e).toNat
  if i.closed then i.low * den ≤ num && num ≤ i.high * den
  else i.low * den < num && num < i.high * den

/-- The `p` with `10 ^ (p - 1) ≤ value < 10 ^ p`. -/
def Interval.magnitude (i : Interval) : Int :=
  let p : Int := (Nat.toDigits 10 i.value).length - (Nat.toDigits 10 i.den).length
  if i.den * Nat.pow 10 p.toNat ≤ i.value * Nat.pow 10 (-p).toNat then p + 1 else p

/-- Of the two neighbours of the value on the grid of multiples of `10 ^ e`, the nearer one that
lies in the interval; a tie goes to the even one. -/
def Interval.onGrid? (i : Interval) (e : Int) : Option Nat :=
  let num := i.value * Nat.pow 10 (-e).toNat
  let den := i.den * Nat.pow 10 e.toNat
  let near := roundHalfEven num den
  let far := if near = num / den then near + 1 else num / den
  if i.covers near e then some near else if i.covers far e then some far else none

/-- Digits and exponent of the shortest decimal in the interval. -/
def Interval.shortest (i : Interval) : Nat × Int :=
  let p := i.magnitude
  let grids : List Int := (List.range 17).map fun (n : Nat) ↦ p - (n + 1)
  (grids.findSome? fun e ↦ (i.onGrid? e).map fun k ↦ (k, e)).getD (0, 0)

/-- How a decimal is laid out: positional between two powers of ten, scientific outside them. -/
structure Layout where
  /-- The least power of ten whose multiples are still written positionally. -/
  least : Int
  /-- The first power of ten that is written with an exponent. -/
  bound : Int
  /-- The least number of digits of an exponent. -/
  exponentDigits : Nat

/-- Numbers from 0.0001 up to 10 ^ 16 are written positionally and always with a fraction; all
others have an exponent with its sign and two digits at least. -/
def standard : Layout := ⟨-4, 16, 2⟩

/-- Writes the digits `ds`, of which the first stands for a multiple of `10 ^ lead`. -/
def Layout.write (l : Layout) (ds : List Char) (lead : Int) : String :=
  if l.least ≤ lead && lead < l.bound then
    if lead < 0 then
      "0." ++ String.ofList (List.replicate (-lead - 1).toNat '0' ++ ds)
    else
      let places := lead.toNat + 1
      let whole := ds.take places ++ List.replicate (places - ds.length) '0'
      let rest := ds.drop places
      String.ofList whole ++ "." ++ (if rest.isEmpty then "0" else String.ofList rest)
  else
    let digits := Nat.toDigits 10 lead.natAbs
    let filled := List.replicate (l.exponentDigits - digits.length) '0' ++ digits
    let fraction := if ds.length ≤ 1 then [] else '.' :: ds.drop 1
    String.ofList (ds.take 1 ++ fraction) ++ "e" ++ (if lead < 0 then "-" else "+") ++
      String.ofList filled

/-- The digits of `n` without the zeros at its end. -/
def significantDigits (n : Nat) : List Char :=
  ((Nat.toDigits 10 n).reverse.dropWhile (· == '0')).reverse

/-- The decimal text of a double. -/
def write (x : Float) : String :=
  match Binary.ofFloat? x with
  | none => if x.isNaN then "nan" else if x < 0 then "-inf" else "inf"
  | some b =>
    let sign := if b.negative then "-" else ""
    if b.mantissa = 0 then sign ++ "0.0"
    else
      let (k, e) := b.interval.shortest
      let lead : Int := (Nat.toDigits 10 k).length + e - 1
      sign ++ standard.write (significantDigits k) lead

end Provisioning.Decimal
