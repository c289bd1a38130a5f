import Provisioning.Script.Item
import Provisioning.Text.Case
import Provisioning.Text.Search

/-!
Parts of items: members by name, items by key, slices, and calls. A member or key that is not there
gives a missing item, which fails only when it is used.
-/

set_option autoImplicit false

namespace Provisioning.Script.Item

/-- The methods of texts that templates can call. -/
def textMethods : List String :=
  ["upper", "lower", "capitalize", "strip", "lstrip", "rstrip", "split", "startswith", "endswith",
    "replace", "join"]

/-- The methods of values of a kind. -/
def methodNames : Value → List String
  | .text _ => textMethods
  | .dict _ => ["items", "keys", "values", "get", "copy"]
  | .list _ | .tuple _ => ["index", "count"]
  | .payload _ _ => ["as_text", "as_bytes"]
  | .date _ => ["isoformat"]
  | _ => []

/-- The fields of values of a kind. -/
def valueField? (v : Value) (name : String) : Option Value :=
  match v, name with
  | .payload _ contentType, "content_type" => some contentType
  | .date d, "year" => some (.int d.year)
  | .date d, "month" => some (.int d.month)
  | .date d, "day" => some (.int d.day)
  | _, _ => none

/-- The state of a loop by name. -/
def loopField? (index : Nat) (items : List Item) (name : String) : Option Item :=
  let number (n : Int) : Item := value (.int n)
  let length : Int := items.length
  match name with
  | "index" => some (number (index + 1))
  | "index0" => some (number index)
  | "revindex" => some (number (length - index))
  | "revindex0" => some (number (length - index - 1))
  | "first" => some (value (.bool (index == 0)))
  | "last" => some (value (.bool (index + 1 == items.length)))
  | "length" => some (number length)
  | "depth" => some (number 1)
  | "depth0" => some (number 0)
  | "previtem" =>
    if index = 0 then some (missing (.other "there is no previous item"))
    else items[index - 1]?
  | "nextitem" => some (items[index + 1]?.getD (missing (.other "there is no next item")))
  | _ => none

/-- The value of a key of a dictionary. -/
def valueAt? (v key : Value) : Option Value :=
  match v with
  | .dict es => if key.unhashable?.isSome then none else Table.get? es key
  | _ => none

/-- The method or field of that name. -/
def ownMember? (i : Item) (name : String) : Option Item :=
  match i with
  | value v =>
    if (methodNames v).contains name then some (method i name)
    else (valueField? v name).map value
  | escaped _ => if textMethods.contains name then some (method i name) else none
  | loop index items =>
    if name == "cycle" then some (method i name) else loopField? index items name
  | range start stop step =>
    [("start", start), ("stop", stop), ("step", step)].lookup name |>.map fun n ↦ value (.int n)
  | _ => none

/-- A member by name: a method or a field or, failing that, the value of a key. -/
def member (i : Item) (name : String) : Except Fault Item := do
  let i ← i.present
  match i.ownMember? name, i.value?.bind fun v ↦ valueAt? v (.text name) with
  | some m, _ => return m
  | none, some v => return value v
  | none, none => return missing (.attribute i.label name)

/-- The place that an index stands for; a negative one counts from the end. -/
def place? (length : Nat) (index : Int) : Option Nat :=
  if 0 ≤ index then if index < length then some index.toNat else none
  else if -(length : Int) ≤ index then some (index + length).toNat
  else none

/-- The element of a sequence at an index. -/
def element? (i : Item) (index : Int) : Option Item :=
  match i with
  | value (.text s) => (place? s.length index).bind fun n ↦ (characters s)[n]?.map value
  | escaped s => (place? s.length index).bind fun n ↦ s.toList[n]?.map fun c ↦ escaped c.toString
  | value (.list xs) | value (.tuple xs) =>
    (place? xs.length index).bind fun n ↦ xs[n]?.map value
  | value (.bytes b) | value (.buffer b) | value (.view b) =>
    (place? b.length index).bind fun n ↦ b[n]?.map fun x ↦ value (.int x.toNat)
  | several _ xs => (place? xs.length index).bind fun n ↦ xs[n]?
  | range start stop step =>
    let xs := rangeItems start stop step
    (place? xs.length index).bind fun n ↦ xs[n]?.map fun x ↦ value (.int x)
  | _ => none

/-- The part of an item at a key. -/
def item (i key : Item) : Except Fault Item := do
  let i ← i.present
  let key ← key.present
  match key.value? with
  | none => return missing (.attribute i.label "")
  | some k =>
    let found := match i with
      | value (.dict es) => (valueAt? (.dict es) k).map value
      | i => k.whole?.bind i.element?
    match found, k with
    | some part, _ => return part
    | none, .text name =>
      match i.ownMember? name with
      | some m => return m
      | none => return missing (.attribute i.label name)
    | none, k => return missing (.element i.label k)

/-- A bound of a slice within `low` and `high`; a negative one counts from the end. -/
def clamp (length : Nat) (low high : Int) (bound : Int) : Int :=
  max low (min high (if bound < 0 then bound + length else bound))

/-- The places that a slice takes from a sequence of that length. -/
def slicePlaces (length : Nat) (start stop : Option Int) (step : Int) : List Nat :=
  let n : Int := length
  let places :=
    if 0 < step then
      rangeItems ((start.map (clamp length 0 n)).getD 0) ((stop.map (clamp length 0 n)).getD n) step
    else
      rangeItems ((start.map (clamp length (-1) (n - 1))).getD (n - 1))
        ((stop.map (clamp length (-1) (n - 1))).getD (-1)) step
  places.map Int.toNat

/-- Some places of a list. -/
def pick {α : Type} (xs : List α) (places : List Nat) : List α :=
  places.filterMap fun n ↦ xs[n]?

/-- A bound of a slice as a number; nothing is no bound. -/
def sliceBound (bound : Option Item) : Except Fault (Option Int) :=
  match bound with
  | none => .ok none
  | some i => do
    match (← i.present).value? with
    | some .null => return none
    | some v =>
      match v.whole? with
      | some n => return some n
      | none => .error (.operand "slice indices must be integers")
    | none => .error (.operand "slice indices must be integers")

/-- A part of a sequence from a place up to another, in steps. -/
def slice (i : Item) (start stop step : Option Item) : Except Fault Item := do
  let i ← i.present
  let start ← sliceBound start
  let stop ← sliceBound stop
  let step := (← sliceBound step).getD 1
  if step = 0 then .error (.value "slice step cannot be zero")
  else
    let places (length : Nat) : List Nat := slicePlaces length start stop step
    match i with
    | value (.text s) => return text (String.ofList (pick s.toList (places s.length)))
    | escaped s => return escaped (String.ofList (pick s.toList (places s.length)))
    | value (.list xs) => return value (.list (pick xs (places xs.length)))
    | value (.tuple xs) => return value (.tuple (pick xs (places xs.length)))
    | value (.bytes b) => return value (.bytes (pick b (places b.length)))
    | several isTuple xs => return ofItems isTuple (pick xs (places xs.length))
    | range a b c =>
      let xs := rangeItems a b c
      return value (.list ((pick xs (places xs.length)).map .int))
    | _ => .error (.operand "this has no slices")

/-- The arguments in the order of the parameters. -/
def arranged (a : Arguments Item) (parameters : List (String × Option Item)) :
    Except Fault (List Item) :=
  match a.arrange? parameters with
  | some xs => .ok xs
  | none => .error .arguments

/-- A text that is needed. -/
def neededText (i : Item) : Except Fault String := do
  match (← i.present).value? with
  | some (.text s) => return s
  | _ => .error (.operand "a text is needed")

/-- The texts of several items. -/
def displayAll (items : List Item) : Except Fault (List String) :=
  items.mapM display

/-- The number of replacements; nothing or a negative number is no limit. -/
def replaceLimit (count : Item) : Except Fault (Option Nat) := do
  match (← count.present).value? with
  | some .null => return none
  | some v =>
    match v.whole? with
    | some n => return if n < 0 then none else some n.toNat
    | none => .error (.operand "a number is needed")
  | none => .error (.operand "a number is needed")

/-- The characters that a text is stripped of: spacing, or those of a given text. -/
def stripped (chars : Item) : Except Fault (Char → Bool) := do
  match (← chars.present).value? with
  | some .null => return Text.isSpacing
  | some (.text s) => return fun c ↦ s.toList.contains c
  | _ => .error (.operand "strip arg must be None or str")

/-- Calls a method of a text. -/
def callText (s name : String) (a : Arguments Item) : Except Fault Item := do
  match name with
  | "upper" => let _ ← arranged a []; return text (Text.toUpper s)
  | "lower" => let _ ← arranged a []; return text (Text.toLower s)
  | "capitalize" => let _ ← arranged a []; return text (Text.capitalize s)
  | "split" =>
    match ← arranged a [("sep", some nothing)] with
    | [value .null] => return value (.list ((Text.words s).map .text))
    | [sep] =>
      let sep ← neededText sep
      if sep.isEmpty then .error (.value "empty separator")
      else return value (.list ((Text.split sep s).map .text))
    | _ => .error .arguments
  | "replace" =>
    match a.positional, a.named with
    | [old, new], [] => return text (Text.replace (← neededText old) (← neededText new) none s)
    | [old, new, count], [] =>
      return text (Text.replace (← neededText old) (← neededText new) (← replaceLimit count) s)
    | _, _ => .error .arguments
  | "join" =>
    match a.positional, a.named with
    | [items], [] =>
      let parts ← (← items.iterate).mapM neededText
      return text (s.intercalate parts)
    | _, _ => .error .arguments
  | name =>
    match a.named, a.positional with
    | [], [] =>
      if name == "strip" then return text (Text.trim Text.isSpacing s)
      else if name == "lstrip" then return text (Text.trimStart Text.isSpacing s)
      else if name == "rstrip" then return text (Text.trimEnd Text.isSpacing s)
      else .error .arguments
    | [], [x] =>
      if name == "startswith" then return value (.bool (s.startsWith (← neededText x)))
      else if name == "endswith" then return value (.bool (s.endsWith (← neededText x)))
      else
        let p ← stripped x
        if name == "strip" then return text (Text.trim p s)
        else if name == "lstrip" then return text (Text.trimStart p s)
        else if name == "rstrip" then return text (Text.trimEnd p s)
        else .error .arguments
    | _, _ => .error .arguments

/-- Calls a method of a dictionary. -/
def callDict (es : List (Value × Value)) (name : String) (a : Arguments Item) :
    Except Fault Item := do
  match name with
  | "get" =>
    match a.positional, a.named with
    | key :: others, [] =>
      if 1 < others.length then .error .arguments
      else
        match (← key.present).value? with
        | some k =>
          match k.unhashable? with
          | some kindName => .error (.operand ("unhashable type: '" ++ kindName ++ "'"))
          | none => return ((Table.get? es k).map value).getD (others.head?.getD nothing)
        | none => return others.head?.getD nothing
    | _, _ => .error .arguments
  | name =>
    let _ ← arranged a []
    match name with
    | "items" => return view "dict_items" (es.map fun e ↦ .tuple [e.1, e.2])
    | "keys" => return view "dict_keys" (es.map Prod.fst)
    | "values" => return view "dict_values" (es.map Prod.snd)
    | _ => return value (.dict es)

/-- Calls a method of a list or a tuple. -/
def callSequence (xs : List Value) (name : String) (a : Arguments Item) : Except Fault Item := do
  match a.positional, a.named with
  | [x], [] =>
    match (← x.present).value? with
    | some v =>
      if name == "count" then return value (.int (xs.countP fun y ↦ y.same v : Nat))
      else
        match xs.findIdx? fun y ↦ y.same v with
        | some n => return value (.int (n : Nat))
        | none => .error (.value "the value is not in the list")
    | none => .error .arguments
  | _, _ => .error .arguments

/-- A whole number that is needed. -/
def neededWhole (i : Item) : Except Fault Int := do
  match (← i.present).value?.bind Value.whole? with
  | some n => return n
  | none => .error (.operand "a whole number is needed")

/-- The range with the given bounds. -/
def callRange (a : Arguments Item) : Except Fault Item := do
  if !a.named.isEmpty then .error .arguments
  else
    match ← a.positional.mapM neededWhole with
    | [stop] => return range 0 stop 1
    | [start, stop] => return range start stop 1
    | [start, stop, step] =>
      if step = 0 then .error (.value "range() arg 3 must not be zero")
      else return range start stop step
    | _ => .error .arguments

/-- The functions that every template knows. -/
def functions : List String :=
  ["range", "dict"]

/-- Calls an item. -/
def call (f : Item) (a : Arguments Item) : Except Fault Item := do
  match ← f.present with
  | function "range" => callRange a
  | function "dict" =>
    if !a.positional.isEmpty then .error .arguments
    else
      let entries ← a.named.mapM fun (k, i) ↦ do
        match (← i.present).value? with
        | some v => return (Value.text k, v)
        | none => .error .arguments
      return value (.dict entries)
  | method (value (.text s)) name | method (escaped s) name => callText s name a
  | method (value (.dict es)) name => callDict es name a
  | method (value (.list xs)) name | method (value (.tuple xs)) name => callSequence xs name a
  | method (value (.payload data _)) name =>
    let _ ← arranged a []
    if name == "as_bytes" then return value (.bytes data)
    else
      match Text.Utf8.decode data with
      | .ok s => return text s
      | .error e => .error (.value (Text.Undecodable.message (.utf8 e)))
  | method (value (.date d)) _ =>
    let _ ← arranged a []
    return text d.display
  | method (loop index _) _ =>
    if !a.named.isEmpty then .error .arguments
    else
      match a.positional[index % a.positional.length]? with
      | some i => return i
      | none => .error (.operand "no items for cycling given")
  | _ => .error (.operand "this is not callable")

end Provisioning.Script.Item
