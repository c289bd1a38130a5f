import Provisioning.Script.Access

/-!
Filters, which turn an item into another one, and tests, which ask something about an item. Both
have names; a default and the question whether something is defined are the only uses of a missing
item that do not fail.
-/

set_option autoImplicit false

namespace Provisioning.Script

namespace Item

/-- The item inside an item that a dotted path leads to. -/
def along (i : Item) : List String → Except Fault Item
  | [] => .ok i
  | s :: path => do
    let key := match s.toNat? with
      | some n => value (.int n)
      | none => text s
    along (← i.item key) path

/-- What an item is compared by when items are sorted: a path leads to it, and letters count in
their small form unless their case matters. -/
def sortKey (path : List String) (caseMatters : Bool) (i : Item) : Except Fault Item := do
  match ← along i path with
  | value (.text s) => return text (if caseMatters then s else Text.toLower s)
  | escaped s => return text (if caseMatters then s else Text.toLower s)
  | other => return other

/-- Puts a keyed item before the first one that is greater. -/
def insertKeyed (x : Item × Item) : List (Item × Item) → Except Fault (List (Item × Item))
  | [] => .ok [x]
  | y :: ys => do
    if ← x.1.compare .less y.1 then return x :: y :: ys
    else return y :: (← insertKeyed x ys)

/-- Items in ascending order; equal ones keep their order. -/
def sorted (key : Item → Except Fault Item) (items : List Item) : Except Fault (List Item) := do
  let keyed ← items.mapM fun i ↦ do return (← key i, i)
  let result ← keyed.foldlM (fun done x ↦ insertKeyed x done) []
  return result.map Prod.snd

/-- A path that an argument gives; nothing is the empty path. -/
def path (i : Item) : Except Fault (List String) := do
  match (← i.present).value? with
  | some .null => return []
  | some (.text s) => return s.splitOn "."
  | some (.int n) => return [toString n]
  | _ => .error (.operand "an attribute name is needed")

/-- A text with a function applied to it; an escaped text stays escaped. -/
def onText (f : String → String) (i : Item) : Except Fault Item := do
  match i with
  | escaped s => return escaped (f s)
  | i => return text (f (← i.display))

end Item

open Item

/-- The filters. -/
inductive Filter
  | upper
  | lower
  | capitalize
  | trim
  | join
  | length
  | replace
  | first
  | last
  | sort
  | default
  | list
  | escape
  | safe
  | string
  | reverse
  deriving DecidableEq, Repr

namespace Filter

/-- The filters by name; some have two names. -/
def names : List (String × Filter) :=
  [("upper", upper), ("lower", lower), ("capitalize", capitalize), ("trim", trim), ("join", join),
    ("length", length), ("count", length), ("replace", replace), ("first", first), ("last", last),
    ("sort", sort), ("default", default), ("d", default), ("list", list), ("e", escape),
    ("escape", escape), ("safe", safe), ("string", string), ("reverse", reverse)]

/-- The filter of that name. -/
def ofName? (name : String) : Option Filter :=
  names.lookup name

/-- The parameters of a filter behind the item it is applied to, with their defaults. -/
def parameters : Filter → List (String × Option Item)
  | trim => [("chars", some nothing)]
  | join => [("d", some (text "")), ("attribute", some nothing)]
  | replace => [("old", none), ("new", none), ("count", some nothing)]
  | sort =>
    [("reverse", some (value (.bool false))), ("case_sensitive", some (value (.bool false))),
      ("attribute", some nothing)]
  | default => [("default_value", some (text "")), ("boolean", some (value (.bool false)))]
  | _ => []

/-- The items of something that can be gone through backwards. -/
def backwards (i : Item) : Except Fault (List Item) := do
  return (← i.iterate).reverse

/-- Applies a filter to an item. -/
def apply (f : Filter) (i : Item) (a : Arguments Item) : Except Fault Item := do
  match f, ← arranged a f.parameters with
  | upper, _ => onText Text.toUpper i
  | lower, _ => onText Text.toLower i
  | capitalize, _ => onText Text.capitalize i
  | trim, [chars] => do
    let shown ← onText id i
    let p ← stripped chars
    onText (Text.trim p) shown
  | join, [separator, through] => do
    let path ← path through
    let items ← (← i.iterate).mapM fun x ↦ along x path
    return text ((← separator.display).intercalate (← displayAll items))
  | length, _ => do return value (.int (← i.size))
  | replace, [old, new, count] => do
    let s ← i.display
    let old ← old.display
    let new ← new.display
    return text (Text.replace old new (← replaceLimit count) s)
  | first, _ => do return ((← i.iterate).head?).getD (missing .first)
  | last, _ => do return ((← i.iterate).getLast?).getD (missing .last)
  | sort, [backward, caseMatters, through] => do
    let key := sortKey (← path through) (← caseMatters.isTruthy)
    let items ← i.iterate
    if ← backward.isTruthy then return ofList (← sorted key items.reverse).reverse
    else return ofList (← sorted key items)
  | default, [fallback, boolean] =>
    match i with
    | missing _ | absent _ => return fallback
    | i => do
      if (← boolean.isTruthy) && !(← i.isTruthy) then return fallback else return i
  | list, _ => do return ofList (← i.iterate)
  | escape, _ => i.toEscaped
  | safe, _ => do return escaped (← i.display)
  | string, _ => onText id i
  | reverse, _ =>
    match i with
    | value (.text s) => return text (String.ofList s.toList.reverse)
    | escaped s => return text (String.ofList s.toList.reverse)
    | i => do return ofList (← backwards i)
  | _, _ => .error .arguments

end Filter

/-- The tests. -/
inductive Test
  | defined
  | undefined
  | null
  | boolean
  | isTrue
  | isFalse
  | integer
  | float
  | number
  | string
  | mapping
  | sequence
  | iterable
  | odd
  | even
  | divisibleBy
  | compared (c : Comparison)
  deriving DecidableEq, Repr

namespace Test

/-- The tests by name; some have several names. -/
def names : List (String × Test) :=
  [("defined", defined), ("undefined", undefined), ("none", null), ("boolean", boolean),
    ("true", isTrue), ("false", isFalse), ("integer", integer), ("float", float),
    ("number", number), ("string", string), ("mapping", mapping), ("sequence", sequence),
    ("iterable", iterable), ("odd", odd), ("even", even), ("divisibleby", divisibleBy),
    ("eq", compared .equal), ("equalto", compared .equal), ("ne", compared .notEqual),
    ("lt", compared .less), ("lessthan", compared .less), ("le", compared .lessEqual),
    ("gt", compared .greater), ("greaterthan", compared .greater), ("ge", compared .greaterEqual),
    ("in", compared .isIn)]

/-- The test of that name. -/
def ofName? (name : String) : Option Test :=
  names.lookup name

/-- The number of arguments behind the item that is tested. -/
def arity : Test → Nat
  | divisibleBy | compared _ => 1
  | _ => 0

/-- Whether an item is a value that satisfies `p`. -/
def isValue (p : Value → Bool) (i : Item) : Bool :=
  match i with
  | value v => p v
  | _ => false

/-- Whether an item passes a test. -/
def holds (t : Test) (i : Item) (arguments : List Item) : Except Fault Bool := do
  match t, arguments with
  | defined, [] =>
    match i with
    | missing _ | absent _ => return false
    | _ => return true
  | undefined, [] =>
    match i with
    | missing _ | absent _ => return true
    | _ => return false
  | null, [] => return isValue (fun v ↦ v matches .null) i
  | boolean, [] => return isValue (fun v ↦ v matches .bool _) i
  | isTrue, [] => return isValue (fun v ↦ v matches .bool true) i
  | isFalse, [] => return isValue (fun v ↦ v matches .bool false) i
  | integer, [] => return isValue (fun v ↦ v matches .int _) i
  | float, [] => return isValue (fun v ↦ v matches .float _) i
  | number, [] => return isValue (fun v ↦ (Number.ofValue? v).isSome) i
  | string, [] => return isValue (fun v ↦ v matches .text _) i || (i matches .escaped _)
  | mapping, [] => return isValue (fun v ↦ v matches .dict _) i
  | sequence, [] =>
    return isValue (fun v ↦ (parts? v).isSome) i ||
      (i matches .escaped _ | .range _ _ _ | .several _ _)
  | iterable, [] =>
    match i with
    | missing what => .error (fault what)
    | i => return (i.iterate.toOption).isSome
  | odd, [] => (← i.operate .remainder (value (.int 2))).equals (value (.int 1))
  | even, [] => (← i.operate .remainder (value (.int 2))).equals (value (.int 0))
  | divisibleBy, [n] => (← i.operate .remainder n).equals (value (.int 0))
  | compared c, [x] => i.compare c x
  | _, _ => .error .arguments

end Test
end Provisioning.Script
