import Provisioning.Options.Mutation

/-!
Copies of options. Copying onto a target goes layer by layer: first the common fields, then for each
kind that the source extends the fields that this kind adds, if the target has them. Fields that only
the target has keep their values.
-/

set_option autoImplicit false

namespace Provisioning.Options

/-- The options, if they have everything that the kind `k` has. -/
def tryAs (o : Options) (k : Kind) : Option Options :=
  if o.kind.extends? k then some o else none

/-- The options, which must have everything that the kind `k` has. -/
def asVariant (o : Options) (k : Kind) : Except Error Options :=
  match o.tryAs k with
  | some o => .ok o
  | none => .error (.mismatch o.kind k)

/-- Copies several fields, one by one. -/
def copyFields (source : Options) : List Field → Action Options Unit
  | [] => pure ()
  | f :: rest => do
    match source.get? f with
    | some content => assign f content
    | none => pure ()
    source.copyFields rest

/-- Copies the common fields onto a target, which must not be frozen. -/
def copyBase (source : Options) : Action Options Unit := do
  (← Action.state).checkMutable
  source.copyFields (Field.declaredBy .base)

/-- Copies the fields that a kind declares onto a target that has them. -/
def copyDeclared (source : Options) (k : Kind) : Action Options Unit := do
  if ((← Action.state).tryAs k).isSome then source.copyFields (Field.declaredBy k)

variable [Domain.SuffixList]

/-- Sets the domain of a target that has one. It is checked once more. -/
def copyDomain (domain : String) : Action Options Unit := do
  if ((← Action.state).tryAs .softLayer).isSome then
    (Mutation.domainName (.text domain)).perform

/-- Copies all fields of `source` onto a target. -/
def copy (source : Options) : Action Options Unit := do
  source.copyBase
  match source.extras with
  | .base => pure ()
  | .softLayer s => copyDomain s.domainName
  | .ec2 _ => source.copyDeclared .ec2
  | .awsEc2 _ _ => do
    source.copyDeclared .ec2
    source.copyDeclared .awsEc2

/-- The target after `source` has been copied onto it, and whether that failed. -/
def copyTo (source target : Options) : Options × Outcome Unit :=
  source.copy.run target

/-- An independent copy of the same kind, which is not frozen. -/
def clone (o : Options) : Outcome Options := do
  let (copy, _) ← o.copy.settle (fresh o.kind)
  return copy

end Provisioning.Options
