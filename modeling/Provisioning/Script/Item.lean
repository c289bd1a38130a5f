import Provisioning.Arguments
import Provisioning.Script.Number

/-!
What the expressions of a template give: values, and things that only templates know, such as
missing variables, ranges, the state of a loop, or text that has already been escaped. A missing
variable fails in every use except a test whether it is there and a default in its place.
-/

set_option autoImplicit false

namespace Provisioning.Script

/-- What an expression gives. -/
inductive Item
  | value (v : Value)
  | escaped (s : String)
  | missing (what : Missing)
  | absent (line : Nat)
  | range (start stop step : Int)
  | view (label : String) (items : List Value)
  | several (isTuple : Bool) (items : List Item)
  | loop (index : Nat) (items : List Item)
  | method (owner : Item) (name : String)
  | function (name : String)

namespace Item

/-- Nothing. -/
def nothing : Item :=
  value .null

/-- A text. -/
def text (s : String) : Item :=
  value (.text s)

/-- What a conditional expression without an alternative lacks. -/
def noAlternative (line : Nat) : Missing :=
  .other ("the inline if-expression on line " ++ toString line ++
    " in '' evaluated to false and no else section was defined.")

/-- The complaint about a missing thing. -/
def fault (what : Missing) : Fault :=
  .missing what

/-- What messages call a thing that lacks something. -/
def label : Item → String
  | value .null => "None"
  | value (.date _) => "datetime.date object"
  | value v => v.kindName ++ " object"
  | escaped _ => "markupsafe.Markup object"
  | missing _ | absent _ => "Undefined"
  | range _ _ _ => "range object"
  | view s _ => s ++ " object"
  | several isTuple _ => if isTuple then "tuple object" else "list object"
  | loop _ _ => "jinja2.runtime.LoopContext object"
  | method _ _ | function _ => "builtin_function_or_method object"

/-- Refuses missing things. -/
def present : Item → Except Fault Item
  | missing what => .error (fault what)
  | absent line => .error (fault (noAlternative line))
  | i => .ok i

/-- The text of a value that is not too long. -/
def checkedText (text : Value → String) (v : Value) : Except Fault String :=
  if v.isWritable then .ok (text v)
  else .error (.value Decimal.tooManyDigits)

mutual

/-- The text of an item as part of a list. -/
def written : Item → Except Fault String
  | value v => checkedText Value.written v
  | escaped s => .ok ("Markup(" ++ Text.quote s ++ ")")
  | missing _ | absent _ => .ok "Undefined"
  | range start stop step =>
    let last := if step = 1 then "" else ", " ++ toString step
    .ok ("range(" ++ toString start ++ ", " ++ toString stop ++ last ++ ")")
  | view label items => do
    return label ++ "(" ++ (← checkedText Value.written (.list items)) ++ ")"
  | several isTuple items => do
    let parts ← writtenAll items
    match isTuple, parts with
    | true, [only] => return "(" ++ only ++ ",)"
    | true, parts => return "(" ++ Value.commaJoined parts ++ ")"
    | false, parts => return "[" ++ Value.commaJoined parts ++ "]"
  | loop index items =>
    .ok ("<LoopContext " ++ toString (index + 1) ++ "/" ++ toString items.length ++ ">")
  | method _ name => .ok ("<built-in method " ++ name ++ ">")
  | function name => .ok ("<class '" ++ name ++ "'>")

/-- The texts of several items. -/
def writtenAll : List Item → Except Fault (List String)
  | [] => .ok []
  | x :: xs => do return (← written x) :: (← writtenAll xs)

end

/-- The text of an item as it is printed. -/
def display (i : Item) : Except Fault String :=
  match i with
  | value v => checkedText Value.display v
  | escaped s => .ok s
  | missing what => .error (fault what)
  | absent _ => .ok ""
  | i => i.written

/-- The numbers of a range. -/
def rangeItems (start stop step : Int) : List Int :=
  let count :=
    if 0 < step then if start < stop then ((stop - start - 1) / step + 1).toNat else 0
    else if stop < start then ((start - stop - 1) / -step + 1).toNat
    else 0
  (List.range count).map fun (k : Nat) ↦ start + k * step

mutual

/-- The value that an item stands for where only values count. -/
def value? : Item → Option Value
  | value v => some v
  | escaped s => some (.text s)
  | several isTuple items => (values? items).map fun xs ↦ if isTuple then .tuple xs else .list xs
  | _ => none

/-- The values that several items stand for. -/
def values? : List Item → Option (List Value)
  | [] => some []
  | x :: xs => do return (← value? x) :: (← values? xs)

end

/-- Several items, as a value if they all are values. -/
def ofItems (isTuple : Bool) (items : List Item) : Item :=
  let plain := items.mapM fun
    | value v => some v
    | _ => none
  match plain with
  | some xs => value (if isTuple then .tuple xs else .list xs)
  | none => several isTuple items

/-- A list of items. -/
def ofList (items : List Item) : Item :=
  ofItems false items

/-- The characters of a text, each as a text. -/
def characters (s : String) : List Value :=
  s.toList.map fun c ↦ .text c.toString

/-- The values that a value is made of, if it can be gone through. -/
def parts? : Value → Option (List Value)
  | .text s => some (characters s)
  | .list xs | .tuple xs => some xs
  | .dict es => some (es.map Prod.fst)
  | .bytes b | .buffer b | .view b => some (b.map fun x ↦ .int x.toNat)
  | _ => none

/-- The items that an item is made of. -/
def iterate (i : Item) : Except Fault (List Item) :=
  match i with
  | value v =>
    match parts? v with
    | some xs => .ok (xs.map value)
    | none => .error (.operand ("'" ++ v.kindName ++ "' object is not iterable"))
  | escaped s => .ok ((characters s).map value)
  | missing what => .error (fault what)
  | absent _ => .ok []
  | range start stop step => .ok ((rangeItems start stop step).map fun n ↦ value (.int n))
  | view _ items => .ok (items.map value)
  | several _ items => .ok items
  | loop _ _ | method _ _ | function _ => .error (.operand "this is not iterable")

/-- The number of parts. -/
def size (i : Item) : Except Fault Nat :=
  match i with
  | value (.payload data _) => .ok data.length
  | loop _ items => .ok items.length
  | i => do return (← i.iterate).length

/-- Whether an item counts as true in a condition. -/
def isTruthy (i : Item) : Except Fault Bool :=
  match i with
  | value v => .ok v.isTruthy
  | escaped s => .ok !s.isEmpty
  | missing what => .error (fault what)
  | absent _ => .ok false
  | range start stop step => .ok !(rangeItems start stop step).isEmpty
  | view _ items => .ok !items.isEmpty
  | several _ items => .ok !items.isEmpty
  | loop _ items => .ok !items.isEmpty
  | method _ _ | function _ => .ok true

/-- Whether two items are equal. -/
def equals (a b : Item) : Except Fault Bool := do
  match a, b with
  | absent _, absent _ => return true
  | absent _, missing what => .error (fault what)
  | absent _, _ | _, absent _ => return false
  | a, b =>
    let a ← a.present
    let b ← b.present
    match a, b with
    | range s t u, range s' t' u' => return rangeItems s t u == rangeItems s' t' u'
    | view l xs, view l' ys => return l == l' && Value.same (.list xs) (.list ys)
    | a, b =>
      match a.value?, b.value? with
      | some v, some w => return v.equals w
      | _, _ => return false

/-- Whether an item is taken for another one when it is looked for. -/
def isTakenFor (a b : Item) : Except Fault Bool :=
  match a.value?, b.value? with
  | some v, some w => .ok (v.same w)
  | _, _ => a.equals b

/-- Whether `x` is found among several items. -/
def isAmong (x : Item) : List Item → Except Fault Bool
  | [] => .ok false
  | y :: ys => do if ← x.isTakenFor y then return true else isAmong x ys

/-- Whether `part` is a connected part of `whole`. -/
def isInfixText (part whole : List Char) : Bool :=
  match whole with
  | [] => part.isEmpty
  | c :: cs => part.isPrefixOf (c :: cs) || isInfixText part cs

/-- Whether an item is contained in another. -/
def isIn (x container : Item) : Except Fault Bool := do
  match ← container.present with
  | value (.text s) | escaped s =>
    match (← x.present).value? with
    | some (.text part) => return isInfixText part.toList s.toList
    | _ => .error (.operand "a text can only contain texts")
  | value (.dict es) =>
    match (← x.present).value? with
    | some k =>
      match k.unhashable? with
      | some kindName => .error (.operand ("unhashable type: '" ++ kindName ++ "'"))
      | none => return Table.has es k
    | none => return false
  | other => isAmong x (← other.iterate)

/-- The result of a comparison. -/
def compare (c : Comparison) (a b : Item) : Except Fault Bool := do
  match c with
  | .equal => equals a b
  | .notEqual => return !(← equals a b)
  | .isIn => isIn a b
  | .notIn => return !(← isIn a b)
  | c =>
    let a ← a.present
    let b ← b.present
    match a.value?, b.value? with
    | some v, some w => compareValues c v w
    | _, _ => .error (.operand "no order between these kinds")

/-- The signs that mean something in marked-up text, and what stands for them there. -/
def escapes : List (Char × String) :=
  [('&', "&amp;"), ('>', "&gt;"), ('<', "&lt;"), ('\'', "&#39;"), ('"', "&#34;")]

/-- A text with its signs escaped. -/
def escape (s : String) : String :=
  String.join (s.toList.map fun c ↦ (escapes.lookup c).getD c.toString)

/-- An item as escaped text; what is escaped already stays as it is. -/
def toEscaped (i : Item) : Except Fault Item := do
  match i with
  | escaped s => return escaped s
  | i => return escaped (escape (← i.display))

/-- A sequence repeated. -/
def repeated {α : Type} (n : Int) (xs : List α) : List α :=
  (List.replicate n.toNat xs).flatten

/-- The result of an operator on two values. -/
def operateValues (op : Operator) (v w : Value) : Except Fault Item :=
  match op, v, w with
  | .add, .text s, .text t => .ok (text (s ++ t))
  | .add, .list xs, .list ys => .ok (value (.list (xs ++ ys)))
  | .add, .tuple xs, .tuple ys => .ok (value (.tuple (xs ++ ys)))
  | .add, .bytes a, .bytes b => .ok (value (.bytes (a ++ b)))
  | op, v, w =>
    match Number.ofValue? v, Number.ofValue? w with
    | some m, some n => do return value (← Number.operate op m n).toValue
    | _, _ =>
      match op, v, w.whole?, v.whole?, w with
      | .multiply, .text s, some n, _, _ | .multiply, _, _, some n, .text s =>
        .ok (text (String.ofList (repeated n s.toList)))
      | .multiply, .list xs, some n, _, _ | .multiply, _, _, some n, .list xs =>
        .ok (value (.list (repeated n xs)))
      | .multiply, .tuple xs, some n, _, _ | .multiply, _, _, some n, .tuple xs =>
        .ok (value (.tuple (repeated n xs)))
      | .multiply, .bytes b, some n, _, _ | .multiply, _, _, some n, .bytes b =>
        .ok (value (.bytes (repeated n b)))
      | _, _, _, _, _ => .error (.operand "unsupported operand types")

/-- The texts that fill the places of a format, one after another. -/
def fillPlaces : List Char → List Value → Except Fault (List Char)
  | '%' :: '%' :: cs, args => do return '%' :: (← fillPlaces cs args)
  | '%' :: c :: cs, args =>
    match args with
    | [] => .error (.operand "not enough arguments for format string")
    | a :: rest => do
      let filled ←
        if c == 's' then checkedText Value.display a
        else if c == 'r' then checkedText Value.written a
        else if c == 'd' || c == 'i' then
          match Number.ofValue? a with
          | some (.whole n) => checkedText Value.display (.int n)
          | some (.double x) =>
            match Decimal.Binary.ofFloat? x with
            | some b =>
              let (num, den) := b.ratio
              let whole : Int := ↑(num / den)
              .ok (toString (if b.negative then -whole else whole))
            | none => .error (.value "cannot convert float to integer")
          | none => .error (.operand "a number is required")
        else .error (.value "unsupported format character")
      return filled.toList ++ (← fillPlaces cs rest)
  | ['%'], _ => .error (.value "incomplete format")
  | c :: cs, args => do return c :: (← fillPlaces cs args)
  | [], [] => .ok []
  | [], _ :: _ => .error (.operand "not all arguments converted during string formatting")

/-- The result of an operator. Adding to escaped text escapes what is added. -/
def operate (op : Operator) (a b : Item) : Except Fault Item := do
  let a ← a.present
  let b ← b.present
  match op, a, b with
  | .add, escaped s, escaped t => return escaped (s ++ t)
  | .add, escaped s, value (.text t) => return escaped (s ++ escape t)
  | .add, value (.text s), escaped t => return escaped (escape s ++ t)
  | .add, several false xs, several false ys => return several false (xs ++ ys)
  | .add, several false xs, value (.list ys) => return several false (xs ++ ys.map value)
  | .add, value (.list xs), several false ys => return several false (xs.map value ++ ys)
  | .remainder, value (.text s), b =>
    match b.value? with
    | some (.tuple args) => return text (String.ofList (← fillPlaces s.toList args))
    | some v => return text (String.ofList (← fillPlaces s.toList [v]))
    | none => .error (.operand "unsupported operand types")
  | op, a, b =>
    match a.value?, b.value? with
    | some v, some w => operateValues op v w
    | _, _ => .error (.operand "unsupported operand types")

/-- An item with its sign changed, or with a plus sign before it. -/
def signed (negative : Bool) (i : Item) : Except Fault Item := do
  match (← i.present).value?.bind Number.ofValue? with
  | some (.whole n) => return value (.int (if negative then -n else n))
  | some (.double x) => return value (.float (if negative then -x else x))
  | none => .error (.operand "bad operand type for a sign")

end Item
end Provisioning.Script
