/-!
Arguments of a call by name: positional ones in order and named ones. They are matched with the
parameters before the call is made.
-/

set_option autoImplicit false

namespace Provisioning

/-- The arguments of a call. -/
structure Arguments (α : Type) where
  positional : List α := []
  named : List (String × α) := []

namespace Arguments

variable {α : Type}

/-- The arguments in the order of the parameters. A parameter with a default may be left out. -/
def arrange? (a : Arguments α) (parameters : List (String × Option α)) : Option (List α) :=
  let rest := parameters.drop a.positional.length
  if parameters.length < a.positional.length then none
  else if !a.named.all fun e ↦ rest.any fun p ↦ p.1 == e.1 then none
  else (rest.mapM fun p ↦ (a.named.lookup p.1).or p.2).map (a.positional ++ ·)

/-- The only argument, whose parameter has the given name. -/
def only? (a : Arguments α) (parameter : String) : Option α :=
  (a.arrange? [(parameter, none)]).bind List.head?

/-- The arguments of a call that takes any number of them but no named ones. -/
def any? (a : Arguments α) : Option (List α) :=
  if a.named.isEmpty then some a.positional else none

/-- Whether there are no arguments. -/
def areNone (a : Arguments α) : Bool :=
  a.positional.isEmpty && a.named.isEmpty

end Arguments
end Provisioning
