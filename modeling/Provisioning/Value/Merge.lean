import Provisioning.Value.Basic

/-!
Deep merge of dictionaries. Where both sides hold a dictionary the two are merged in turn;
everywhere else the overriding value wins. Keys keep the places of the base, new ones follow.
-/

set_option autoImplicit false

namespace Provisioning.Value

mutual

/-- The entries of `base` overridden by those of a dictionary. -/
def mergeEntries : (override base : List (Value × Value)) → List (Value × Value)
  | [], base => base
  | (k, v) :: rest, base => mergeEntries rest (Table.put base k (overlay v (Table.get? base k)))

/-- A value in the place of an old one, if there is one. -/
def overlay : (new : Value) → (old : Option Value) → Value
  | dict inner, some (dict old) => dict (mergeEntries inner old)
  | new, _ => new

end

/-- `base` overridden by `override`. -/
def merge (base override : List (Value × Value)) : List (Value × Value) :=
  mergeEntries override base

/-- Why two values cannot be merged. -/
inductive MergeFault
  | noEntries
  | noKeys
  deriving DecidableEq, Repr

/-- Merges two values of any kind. A dictionary can be merged over a dictionary; over a list only
the empty dictionary can, since a list has no keys. -/
def mergeValues (base override : Value) : Except MergeFault Value :=
  match base, override with
  | dict old, dict new => .ok (dict (merge old new))
  | list items, dict [] => .ok (list items)
  | list _, dict _ => .error .noKeys
  | _, _ => .error .noEntries

end Provisioning.Value
