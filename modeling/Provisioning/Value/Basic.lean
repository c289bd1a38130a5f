import Provisioning.Date
import Provisioning.Decimal.Binary
import Provisioning.Table
import Provisioning.Text.Utf8

/-!
Values whose kind is known only at run time: what a markup document holds, what a template variable
is bound to, and what a setter is handed before it has checked it.
-/

set_option autoImplicit false

namespace Provisioning

/-- A value of any kind. Byte strings come in three kinds, of which only `bytes` is a value in its
own right; a `buffer` can be changed by its owner and a `view` looks into the memory of another. -/
inductive Value
  | null
  | bool (b : Bool)
  | int (n : Int)
  | float (x : Float)
  | text (s : String)
  | bytes (b : Bytes)
  | buffer (b : Bytes)
  | view (b : Bytes)
  | list (items : List Value)
  | tuple (items : List Value)
  | dict (entries : List (Value × Value))
  | payload (data : Bytes) (contentType : Value)
  | date (d : Date)
  deriving Inhabited

namespace Value

/-- The name of a value's kind, as messages give it. -/
def kindName : Value → String
  | null => "NoneType"
  | bool _ => "bool"
  | int _ => "int"
  | float _ => "float"
  | text _ => "str"
  | bytes _ => "bytes"
  | buffer _ => "bytearray"
  | view _ => "memoryview"
  | list _ => "list"
  | tuple _ => "tuple"
  | dict _ => "dict"
  | payload _ _ => "Payload"
  | date _ => "date"

/-- The whole number that a value stands for: a truth value counts as 0 or 1. -/
def whole? : Value → Option Int
  | bool b => some (if b then 1 else 0)
  | int n => some n
  | _ => none

/-- The contents of a byte string of any kind. -/
def octets? : Value → Option Bytes
  | bytes b => some b
  | buffer b => some b
  | view b => some b
  | _ => none

/-- Sameness of the values that have no parts. Numbers are compared by value whatever their kind,
and byte strings by content. What is not a number is one object. -/
def sameAtom (v w : Value) : Bool :=
  match v, w with
  | null, null => true
  | text s, text t => s == t
  | date d, date e => d == e
  | float x, float y => x == y || x.isNaN && y.isNaN
  | float x, w => (w.whole?.bind fun n ↦ Decimal.compareInt? n x) == some .eq
  | v, float y => (v.whole?.bind fun n ↦ Decimal.compareInt? n y) == some .eq
  | v, w =>
    match v.whole?, w.whole? with
    | some m, some n => m == n
    | none, none =>
      match v.octets?, w.octets? with
      | some a, some b => a == b
      | _, _ => false
    | _, _ => false

mutual

/-- Whether a value is taken for another one, as an item of a list or a key of a dictionary is that
is looked for: it is the same object, or equal. A dictionary equals another that gives equal values to
equal keys, in whatever order. -/
def same : Value → Value → Bool
  | list xs, w => match w with
    | list ys => sameItems xs ys
    | _ => false
  | tuple xs, w => match w with
    | tuple ys => sameItems xs ys
    | _ => false
  | dict es, w => match w with
    | dict fs => es.length == fs.length && sameEntries es fs
    | _ => false
  | payload a c, w => match w with
    | payload b d => a == b && same c d
    | _ => false
  | v, w => sameAtom v w

/-- Sameness item by item. -/
def sameItems : List Value → List Value → Bool
  | [], [] => true
  | x :: xs, y :: ys => same x y && sameItems xs ys
  | _, _ => false

/-- Whether every entry has the same one among `fs`. -/
def sameEntries : List (Value × Value) → List (Value × Value) → Bool
  | [], _ => true
  | (k, v) :: es, fs => fs.any (fun f ↦ same k f.1 && same v f.2) && sameEntries es fs

end

instance : BEq Value := ⟨same⟩

/-- Whether a value equals itself, which it does unless it is not a number. -/
def equalsItself : Value → Bool
  | float x => !x.isNaN
  | payload _ contentType => contentType.equalsItself
  | _ => true

/-- Equality of values. What is not a number equals nothing, though it is the same object as itself. -/
def equals (v w : Value) : Bool :=
  v.same w && v.equalsItself

/-- Whether a value counts as true in a condition: not nothing, zero or empty. -/
def isTruthy : Value → Bool
  | null => false
  | bool b => b
  | int n => n != 0
  | float x => x != 0
  | text s => !s.isEmpty
  | bytes b | buffer b | view b => !b.isEmpty
  | list xs | tuple xs => !xs.isEmpty
  | dict es => !es.isEmpty
  | payload b _ => !b.isEmpty
  | date _ => true

mutual

/-- The kind of the first part of a value that may change, and so keeps it from being a key. -/
def unhashable? : Value → Option String
  | list _ => some "list"
  | dict _ => some "dict"
  | buffer _ => some "bytearray"
  | tuple xs => unhashableAmong? xs
  | payload _ c => unhashable? c
  | _ => none

/-- The kind of the first changeable part among several values. -/
def unhashableAmong? : List Value → Option String
  | [] => none
  | x :: xs => (unhashable? x).or (unhashableAmong? xs)

end

/-- A text, or nothing. -/
def ofText? : Option String → Value
  | none => null
  | some s => text s

/-- A natural number, or nothing. -/
def ofNat? : Option Nat → Value
  | none => null
  | some n => int n

end Value
end Provisioning
