import Provisioning.Payload

/-!
Options for a batch of machines. What every kind of options has is held in `Common`; what a kind
adds is held in `Extras`, whose constructor tells the kind. Two sets of options are the same when
they are of one kind and agree in every field; whether they are frozen does not matter.
-/

set_option autoImplicit false

namespace Provisioning

namespace Options

/-- A port that must answer before provisioning goes on, and how many seconds it may take. -/
structure Block where
  port : Nat
  seconds : Nat
  deriving DecidableEq, Repr

/-- A value as it was handed over. The mark tells apart the occasions on which values were. -/
structure Held (α : Type) where
  value : α
  mark : Nat

/-- Two values are the same when they are equal. One that does not equal even itself, such as an
amount that is not a number, is the same only as what was handed over on the same occasion. -/
def Held.same {α : Type} [BEq α] (a b : Held α) : Bool :=
  a.value == b.value || (a.mark == b.mark && !(a.value == a.value) && !(b.value == b.value))

/-- Sameness of two values, either of which may be missing. -/
def sameHeld {α : Type} [BEq α] : Option (Held α) → Option (Held α) → Bool
  | some a, some b => a.same b
  | none, none => true
  | _, _ => false

/-- The fields that every kind of options has. -/
@[ext]
structure Common where
  inboundPorts : List Nat := []
  port : Option Nat := none
  seconds : Option Nat := none
  runScript : Option (Held Payload) := none
  privateKey : Option String := none
  publicKey : Option String := none
  loginUser : Option String := none
  loginPrivateKey : Option String := none
  userMetadata : Table String String := []
  includeMetadata : Bool := false

/-- The domain of machines that have none of their own. -/
def defaultDomain : String := "example.org"

/-- What SoftLayer options add. -/
@[ext]
structure SoftLayer where
  domainName : String := defaultDomain

/-- What EC2 options add. -/
@[ext]
structure Ec2 where
  securityGroups : List String := []
  keyPair : Option String := none
  noKeyPair : Bool := false
  userData : Option Bytes := none

/-- What Amazon options add to EC2 options. -/
@[ext]
structure Aws where
  monitoringEnabled : Bool := false
  securityGroupIds : List String := []
  spotPrice : Option (Held Float) := none
  subnetId : Option String := none

/-- What a kind of options adds to the common fields. -/
inductive Extras
  | base
  | softLayer (s : SoftLayer)
  | ec2 (e : Ec2)
  | awsEc2 (e : Ec2) (a : Aws)

namespace Extras

/-- The kind that has these extras. -/
def kind : Extras → Kind
  | base => .base
  | softLayer _ => .softLayer
  | ec2 _ => .ec2
  | awsEc2 _ _ => .awsEc2

/-- The extras of new options of a kind. -/
def fresh : Kind → Extras
  | .base => base
  | .softLayer => softLayer {}
  | .ec2 => ec2 {}
  | .awsEc2 => awsEc2 {} {}

/-- The SoftLayer fields, if there are any. -/
def softLayer? : Extras → Option SoftLayer
  | softLayer s => some s
  | _ => none

/-- The EC2 fields, if there are any. -/
def ec2? : Extras → Option Ec2
  | ec2 e => some e
  | awsEc2 e _ => some e
  | _ => none

/-- The Amazon fields, if there are any. -/
def aws? : Extras → Option Aws
  | awsEc2 _ a => some a
  | _ => none

/-- Changes the SoftLayer fields where there are any. -/
def onSoftLayer (f : SoftLayer → SoftLayer) : Extras → Extras
  | softLayer s => softLayer (f s)
  | x => x

/-- Changes the EC2 fields where there are any. -/
def onEc2 (f : Ec2 → Ec2) : Extras → Extras
  | ec2 e => ec2 (f e)
  | awsEc2 e a => awsEc2 (f e) a
  | x => x

/-- Changes the Amazon fields where there are any. -/
def onAws (f : Aws → Aws) : Extras → Extras
  | awsEc2 e a => awsEc2 e (f a)
  | x => x

@[simp]
theorem kind_onSoftLayer (f : SoftLayer → SoftLayer) (x : Extras) :
    (x.onSoftLayer f).kind = x.kind := by
  cases x <;> rfl

@[simp]
theorem kind_onEc2 (f : Ec2 → Ec2) (x : Extras) : (x.onEc2 f).kind = x.kind := by
  cases x <;> rfl

@[simp]
theorem kind_onAws (f : Aws → Aws) (x : Extras) : (x.onAws f).kind = x.kind := by
  cases x <;> rfl

end Extras
end Options

/-- Options for a batch of machines. Frozen options cannot be changed. -/
structure Options where
  common : Options.Common
  extras : Options.Extras
  frozen : Bool

namespace Options

/-- The kind of options. -/
def kind (o : Options) : Kind :=
  o.extras.kind

/-- Changes the common fields. -/
def onCommon (o : Options) (f : Common → Common) : Options :=
  { o with common := f o.common }

/-- Changes the SoftLayer fields. -/
def onSoftLayer (o : Options) (f : SoftLayer → SoftLayer) : Options :=
  { o with extras := o.extras.onSoftLayer f }

/-- Changes the EC2 fields. -/
def onEc2 (o : Options) (f : Ec2 → Ec2) : Options :=
  { o with extras := o.extras.onEc2 f }

/-- Changes the Amazon fields. -/
def onAws (o : Options) (f : Aws → Aws) : Options :=
  { o with extras := o.extras.onAws f }

/-- New options of a kind, with nothing set. -/
def fresh (k : Kind) : Options :=
  ⟨{}, .fresh k, false⟩

/-- Options that refuse every later change. -/
def freeze (o : Options) : Options :=
  { o with frozen := true }

/-- The options of a kind that stand for "nothing set". -/
def nothing (k : Kind) : Options :=
  (fresh k).freeze

/-- Whether two tables give the same text to the same keys, in whatever order. -/
def sameMetadata (s t : Table String String) : Bool :=
  s.length == t.length && s.all fun e ↦ t.get? e.1 == some e.2

/-- Agreement in all common fields. -/
def Common.same (a b : Common) : Bool :=
  a.inboundPorts == b.inboundPorts && a.port == b.port && a.seconds == b.seconds &&
    sameHeld a.runScript b.runScript && a.privateKey == b.privateKey &&
    a.publicKey == b.publicKey && a.loginUser == b.loginUser &&
    a.loginPrivateKey == b.loginPrivateKey && sameMetadata a.userMetadata b.userMetadata &&
    a.includeMetadata == b.includeMetadata

/-- Agreement in all EC2 fields. -/
def Ec2.same (a b : Ec2) : Bool :=
  a.securityGroups == b.securityGroups && a.keyPair == b.keyPair &&
    a.noKeyPair == b.noKeyPair && a.userData == b.userData

/-- Agreement in all Amazon fields. -/
def Aws.same (a b : Aws) : Bool :=
  a.monitoringEnabled == b.monitoringEnabled && a.securityGroupIds == b.securityGroupIds &&
    sameHeld a.spotPrice b.spotPrice && a.subnetId == b.subnetId

/-- Agreement in kind and in all added fields. -/
def Extras.same : Extras → Extras → Bool
  | base, base => true
  | softLayer s, softLayer t => s.domainName == t.domainName
  | ec2 e, ec2 f => e.same f
  | awsEc2 e a, awsEc2 f b => e.same f && a.same b
  | _, _ => false

/-- Agreement in kind and in all fields. -/
def same (o p : Options) : Bool :=
  o.extras.same p.extras && o.common.same p.common

instance : BEq Options := ⟨same⟩

@[simp]
theorem kind_fresh (k : Kind) : (fresh k).kind = k := by
  cases k <;> rfl

@[simp]
theorem kind_freeze (o : Options) : o.freeze.kind = o.kind := rfl

end Options
end Provisioning
