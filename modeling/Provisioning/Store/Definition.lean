import Provisioning.Error
import Provisioning.Table

/-!
Definitions of templates as a document gives them: a dictionary for every name. A definition may
also be written as a list of pairs; nothing stands for an empty one.
-/

set_option autoImplicit false

namespace Provisioning.Store

/-- The fields of a template before they are checked. -/
abbrev Definition := Table Value Value

/-- Why a template file cannot be used from some place on. -/
inductive Flaw
  | unreadable (e : Error)
  | notNamed (kindName : String)
  | notListed (kindName : String)
  | notPair (index : Nat)
  | pairLength (index length : Nat)
  | keyKind (kindName : String)
  | longName

/-- The text of a flaw. -/
def Flaw.message : Flaw → String
  | unreadable e => e.message
  | notNamed kindName => Text.quote kindName ++ " object has no attribute 'items'"
  | notListed kindName => Text.quote kindName ++ " object is not iterable"
  | notPair index =>
    "cannot convert dictionary update sequence element #" ++ toString index ++ " to a sequence"
  | pairLength index length =>
    "dictionary update sequence element #" ++ toString index ++ " has length " ++
      toString length ++ "; 2 is required"
  | keyKind kindName => "unhashable type: " ++ Text.quote kindName
  | longName => Decimal.tooManyDigits

namespace Definition

/-- The name of a value's kind where the place it comes from is part of the name. -/
def fullKindName : Value → String
  | .date _ => "datetime.date"
  | v => v.kindName

/-- The parts of a value that has parts: items, keys or characters. -/
def parts? : Value → Option (List Value)
  | .list items | .tuple items => some items
  | .dict entries => some (Table.keys entries)
  | .text s => some (s.toList.map fun c ↦ .text (String.singleton c))
  | _ => none

/-- Adds pairs one by one; the first of them has the given index. -/
def addPairs : (index : Nat) → List Value → Definition → Except Flaw Definition
  | _, [], d => .ok d
  | index, pair :: rest, d =>
    match parts? pair with
    | none => .error (.notPair index)
    | some [k, v] =>
      match k.unhashable? with
      | some kindName => .error (.keyKind kindName)
      | none => addPairs (index + 1) rest (d.put k v)
    | some parts => .error (.pairLength index parts.length)

/-- The definition that a value stands for. -/
def ofValue (v : Value) : Except Flaw Definition :=
  if v.isTruthy then
    match v with
    | .dict entries => .ok entries
    | v =>
      match parts? v with
      | some pairs => addPairs 0 pairs []
      | none => .error (.notListed (fullKindName v))
  else .ok []

/-- The named values that a document stands for; nothing stands for no values. -/
def namedValues (document : Value) : Except Flaw (List (Value × Value)) :=
  if document.isTruthy then
    match document with
    | .dict entries => .ok entries
    | v => .error (.notNamed (fullKindName v))
  else .ok []

end Definition
end Provisioning.Store
