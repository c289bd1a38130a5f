/-!
The four kinds of options. Every kind extends the base kind, and the Amazon kind also extends the
EC2 kind.
-/

set_option autoImplicit false

namespace Provisioning.Options

/-- What a set of options is for. -/
inductive Kind
  | base
  | softLayer
  | ec2
  | awsEc2
  deriving DecidableEq, Repr

namespace Kind

/-- The name by which messages and tables call a kind. -/
def label : Kind → String
  | base => "TemplateOptions"
  | softLayer => "SoftLayerTemplateOptions"
  | ec2 => "EC2TemplateOptions"
  | awsEc2 => "AWSEC2TemplateOptions"

/-- The kind that a kind extends directly. -/
def parent? : Kind → Option Kind
  | base => none
  | softLayer => some base
  | ec2 => some base
  | awsEc2 => some ec2

/-- Whether options of kind `k` have everything that kind `w` has. -/
def extends? (k w : Kind) : Bool :=
  k == w || w == base || (k == awsEc2 && w == ec2)

theorem extends?_refl (k : Kind) : k.extends? k = true := by
  simp [extends?]

theorem extends?_base (k : Kind) : k.extends? base = true := by
  simp [extends?]

theorem extends?_trans {k w v : Kind} (h : k.extends? w = true) (h' : w.extends? v = true) :
    k.extends? v = true := by
  revert h h'
  cases k <;> cases w <;> cases v <;> decide

theorem extends?_softLayer_iff {k : Kind} : k.extends? softLayer = true ↔ k = softLayer := by
  cases k <;> decide

theorem extends?_ec2_iff {k : Kind} : k.extends? ec2 = true ↔ k = ec2 ∨ k = awsEc2 := by
  cases k <;> decide

theorem extends?_awsEc2_iff {k : Kind} : k.extends? awsEc2 = true ↔ k = awsEc2 := by
  cases k <;> decide

end Kind
end Provisioning.Options
