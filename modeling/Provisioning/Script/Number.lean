import Provisioning.Script.Tree

/-!
Arithmetic of templates. Whole numbers have any size; as soon as one operand is a double both are.
Division of whole numbers is exact before it is rounded once. Whole quotients are rounded down, so
a remainder has the sign of the divisor.
-/

set_option autoImplicit false

namespace Provisioning.Script

/-- A number. -/
inductive Number
  | whole (n : Int)
  | double (x : Float)

namespace Number

/-- The number that a value is. -/
def ofValue? : Value → Option Number
  | .float x => some (double x)
  | v => v.whole?.map whole

/-- A number as a value. -/
def toValue : Number → Value
  | whole n => .int n
  | double x => .float x

/-- The double nearest to a number. -/
def toDouble : Number → Except Fault Float
  | double x => .ok x
  | whole n =>
    match Decimal.ofInt? n with
    | some x => .ok x
    | none => .error (.excess .conversion)

/-- Whether a double has its sign bit set. -/
def isSigned (x : Float) : Bool :=
  decide (Nat.pow 2 63 ≤ x.toBits.toNat)

/-- Zero with the sign of a double. -/
def signedZero (x : Float) : Float :=
  Decimal.nearest (isSigned x) 0 1

/-- The remainder of a division that is rounded toward zero; it has the sign of the dividend. -/
def truncatedRemainder (x y : Float) : Float :=
  match Decimal.Binary.ofFloat? x, Decimal.Binary.ofFloat? y with
  | some a, some b =>
    let least := min a.exponent b.exponent
    let scaled (c : Decimal.Binary) : Nat := c.mantissa * Nat.pow 2 (c.exponent - least).toNat
    Decimal.nearest a.negative (scaled a % scaled b * Nat.pow 2 least.toNat) (Nat.pow 2 (-least).toNat)
  | some _, none => if y.isNaN then y else x
  | none, _ => 0.0 / 0.0

/-- The remainder of a division that is rounded down. -/
def floorRemainder (x y : Float) : Float :=
  let r := truncatedRemainder x y
  if r == 0 then signedZero y
  else if (y < 0) != (r < 0) then r + y
  else r

/-- The quotient of two doubles rounded down. -/
def floorQuotient (x y : Float) : Float :=
  let r := truncatedRemainder x y
  let q := (x - r) / y
  let q := if r != 0 && ((y < 0) != (r < 0)) then q - 1 else q
  if q == 0 then signedZero (x / y)
  else
    let f := q.floor
    if 0.5 < q - f then f + 1 else f

/-- A power of doubles. -/
def doublePower (x y : Float) : Except Fault Number :=
  if x == 0 && y < 0 then .error (.zeroDivision "0.0 cannot be raised to a negative power")
  else if x < 0 && y.floor != y && x.isFinite && y.isFinite then
    .error (.operand "a root of a negative number is no real number")
  else
    let r := x ^ y
    if r.isInf && x.isFinite && y.isFinite then .error (.excess .power) else .ok (double r)

/-- The quotient of two whole numbers as the nearest double. -/
def quotient (m n : Int) : Except Fault Number :=
  if n = 0 then .error (.zeroDivision "division by zero")
  else if Decimal.nearestBits m.natAbs n.natAbs = 2047 * Nat.pow 2 52 then .error (.excess .quotient)
  else .ok (double (Decimal.nearest (decide (m < 0) != decide (n < 0)) m.natAbs n.natAbs))

/-- An operation on whole numbers. -/
def onWhole (op : Operator) (m n : Int) : Except Fault Number :=
  match op with
  | .add => .ok (whole (m + n))
  | .subtract => .ok (whole (m - n))
  | .multiply => .ok (whole (m * n))
  | .divide => quotient m n
  | .floorDivide =>
    if n = 0 then .error (.zeroDivision "integer division or modulo by zero")
    else .ok (whole (m.fdiv n))
  | .remainder =>
    if n = 0 then .error (.zeroDivision "integer modulo by zero") else .ok (whole (m.fmod n))
  | .power =>
    if 0 ≤ n then .ok (whole (Int.pow m n.toNat))
    else do doublePower (← toDouble (whole m)) (← toDouble (whole n))

/-- An operation on doubles. -/
def onDouble (op : Operator) (x y : Float) : Except Fault Number :=
  match op with
  | .add => .ok (double (x + y))
  | .subtract => .ok (double (x - y))
  | .multiply => .ok (double (x * y))
  | .divide =>
    if y == 0 then .error (.zeroDivision "float division by zero") else .ok (double (x / y))
  | .floorDivide =>
    if y == 0 then .error (.zeroDivision "float floor division by zero")
    else .ok (double (floorQuotient x y))
  | .remainder =>
    if y == 0 then .error (.zeroDivision "float modulo") else .ok (double (floorRemainder x y))
  | .power => doublePower x y

/-- An operation on numbers. -/
def operate (op : Operator) (a b : Number) : Except Fault Number :=
  match a, b with
  | whole m, whole n => onWhole op m n
  | a, b => do onDouble op (← a.toDouble) (← b.toDouble)

/-- The order of two numbers, which are compared exactly; none if one of them is not a number. -/
def order? : Number → Number → Option Ordering
  | whole m, whole n => some (compare m n)
  | whole m, double y => Decimal.compareInt? m y
  | double x, whole n => (Decimal.compareInt? n x).map Ordering.swap
  | double x, double y =>
    if x < y then some .lt else if y < x then some .gt else if x == y then some .eq else none

end Number

/-- Whether two things in this order satisfy a comparison of size. -/
def Comparison.holds (c : Comparison) (o : Option Ordering) : Bool :=
  match c, o with
  | .less, some .lt | .lessEqual, some .lt | .lessEqual, some .eq => true
  | .greater, some .gt | .greaterEqual, some .gt | .greaterEqual, some .eq => true
  | _, _ => false

/-- The order of two byte strings. -/
def bytesOrder : Bytes → Bytes → Ordering
  | [], [] => .eq
  | [], _ :: _ => .lt
  | _ :: _, [] => .gt
  | a :: as, b :: bs => (compare a.toNat b.toNat).then (bytesOrder as bs)

mutual

/-- A comparison of size. Only values of one kind have an order; lists and tuples are decided by
the first place where they differ. -/
def compareValues (c : Comparison) : (v w : Value) → Except Fault Bool
  | .list xs, w => match w with
    | .list ys => compareItems c xs ys
    | _ => .error (.operand "no order between these kinds")
  | .tuple xs, w => match w with
    | .tuple ys => compareItems c xs ys
    | _ => .error (.operand "no order between these kinds")
  | .text s, .text t => .ok (c.holds (some (compare s t)))
  | .date d, .date e =>
    .ok (c.holds (some ((compare d.year e.year).then
      ((compare d.month e.month).then (compare d.day e.day)))))
  | .bytes a, .bytes b | .bytes a, .buffer b | .buffer a, .bytes b | .buffer a, .buffer b =>
    .ok (c.holds (some (bytesOrder a b)))
  | v, w =>
    match Number.ofValue? v, Number.ofValue? w with
    | some m, some n => .ok (c.holds (m.order? n))
    | _, _ => .error (.operand "no order between these kinds")

/-- A comparison of size between two sequences. -/
def compareItems (c : Comparison) : (xs ys : List Value) → Except Fault Bool
  | [], ys => .ok (c.holds (some (compare 0 ys.length)))
  | _ :: _, [] => .ok (c.holds (some .gt))
  | x :: xs, y :: ys => if x.same y then compareItems c xs ys else compareValues c x y

end

end Provisioning.Script
