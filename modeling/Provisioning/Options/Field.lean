import Provisioning.Options.Basic

/-!
The fields of options. Each is declared by one kind of options, and the options of every kind that
extends it have the field. What is shown of options is what their fields hold.
-/

set_option autoImplicit false

namespace Provisioning.Options

/-- The fields of options of any kind. -/
inductive Field
  | inboundPorts
  | port
  | seconds
  | runScript
  | privateKey
  | publicKey
  | loginUser
  | loginPrivateKey
  | userMetadata
  | includeMetadata
  | domainName
  | securityGroups
  | keyPair
  | noKeyPair
  | userData
  | monitoringEnabled
  | securityGroupIds
  | spotPrice
  | subnetId
  deriving DecidableEq, Repr

/-- Several texts as a value. -/
def textTuple (xs : List String) : Value :=
  .tuple (xs.map .text)

/-- Metadata as a value. -/
def metadataValue (t : Table String String) : Value :=
  .dict (t.map fun e ↦ (.text e.1, .text e.2))

namespace Field

/-- All fields in the order in which they are shown. -/
def all : List Field :=
  [inboundPorts, port, seconds, runScript, privateKey, publicKey, loginUser, loginPrivateKey,
    userMetadata, includeMetadata, domainName, securityGroups, keyPair, noKeyPair, userData,
    monitoringEnabled, securityGroupIds, spotPrice, subnetId]

/-- The name of a field. -/
def label : Field → String
  | inboundPorts => "inbound_ports"
  | port => "block_on_port"
  | seconds => "block_seconds"
  | runScript => "run_script"
  | privateKey => "private_key"
  | publicKey => "public_key"
  | loginUser => "login_user"
  | loginPrivateKey => "login_private_key"
  | userMetadata => "user_metadata"
  | includeMetadata => "include_metadata"
  | domainName => "domain_name"
  | securityGroups => "security_groups"
  | keyPair => "key_pair"
  | noKeyPair => "no_key_pair"
  | userData => "user_data"
  | monitoringEnabled => "monitoring_enabled"
  | securityGroupIds => "security_group_ids"
  | spotPrice => "spot_price"
  | subnetId => "subnet_id"

/-- The kind of options that declares a field. -/
def owner : Field → Kind
  | domainName => .softLayer
  | securityGroups | keyPair | noKeyPair | userData => .ec2
  | monitoringEnabled | securityGroupIds | spotPrice | subnetId => .awsEc2
  | _ => .base

/-- The fields that a kind declares. -/
def declaredBy (k : Kind) : List Field :=
  all.filter fun f ↦ f.owner == k

/-- What a field holds. -/
abbrev Content : Field → Type
  | inboundPorts => List Nat
  | port | seconds => Option Nat
  | runScript => Option (Held Payload)
  | privateKey | publicKey | loginUser | loginPrivateKey | keyPair | subnetId => Option String
  | userMetadata => Table String String
  | includeMetadata | noKeyPair | monitoringEnabled => Bool
  | domainName => String
  | securityGroups | securityGroupIds => List String
  | userData => Option Bytes
  | spotPrice => Option (Held Float)

/-- What a field holds in new options. -/
def initial : (f : Field) → f.Content
  | inboundPorts | userMetadata | securityGroups | securityGroupIds => []
  | port | seconds | runScript | privateKey | publicKey | loginUser | loginPrivateKey | keyPair
  | userData | spotPrice | subnetId => none
  | includeMetadata | noKeyPair | monitoringEnabled => false
  | domainName => defaultDomain

/-- The content of a field as a value. -/
def toValue : (f : Field) → f.Content → Value
  | inboundPorts, ports => .tuple (List.map (fun (n : Nat) ↦ .int n) ports)
  | port, n | seconds, n => .ofNat? n
  | runScript, script => (Option.map (fun s ↦ s.value.toValue) script).getD .null
  | privateKey, s | publicKey, s | loginUser, s | loginPrivateKey, s | keyPair, s | subnetId, s =>
    .ofText? s
  | userMetadata, t => metadataValue t
  | includeMetadata, b | noKeyPair, b | monitoringEnabled, b => .bool b
  | domainName, s => .text s
  | securityGroups, xs | securityGroupIds, xs => textTuple xs
  | userData, data => (Option.map .bytes data).getD .null
  | spotPrice, price => (Option.map (fun p ↦ .float p.value) price).getD .null

end Field

/-- What a field of options holds; nothing if their kind does not have the field. -/
def get? (o : Options) : (f : Field) → Option f.Content
  | .inboundPorts => some o.common.inboundPorts
  | .port => some o.common.port
  | .seconds => some o.common.seconds
  | .runScript => some o.common.runScript
  | .privateKey => some o.common.privateKey
  | .publicKey => some o.common.publicKey
  | .loginUser => some o.common.loginUser
  | .loginPrivateKey => some o.common.loginPrivateKey
  | .userMetadata => some o.common.userMetadata
  | .includeMetadata => some o.common.includeMetadata
  | .domainName => o.extras.softLayer?.map SoftLayer.domainName
  | .securityGroups => o.extras.ec2?.map Ec2.securityGroups
  | .keyPair => o.extras.ec2?.map Ec2.keyPair
  | .noKeyPair => o.extras.ec2?.map Ec2.noKeyPair
  | .userData => o.extras.ec2?.map Ec2.userData
  | .monitoringEnabled => o.extras.aws?.map Aws.monitoringEnabled
  | .securityGroupIds => o.extras.aws?.map Aws.securityGroupIds
  | .spotPrice => o.extras.aws?.map Aws.spotPrice
  | .subnetId => o.extras.aws?.map Aws.subnetId

/-- Options with a field that holds something else. Options of a kind that does not have the field
stay as they are. -/
def set (o : Options) : (f : Field) → f.Content → Options
  | .inboundPorts, x => o.onCommon fun c ↦ { c with inboundPorts := x }
  | .port, x => o.onCommon fun c ↦ { c with port := x }
  | .seconds, x => o.onCommon fun c ↦ { c with seconds := x }
  | .runScript, x => o.onCommon fun c ↦ { c with runScript := x }
  | .privateKey, x => o.onCommon fun c ↦ { c with privateKey := x }
  | .publicKey, x => o.onCommon fun c ↦ { c with publicKey := x }
  | .loginUser, x => o.onCommon fun c ↦ { c with loginUser := x }
  | .loginPrivateKey, x => o.onCommon fun c ↦ { c with loginPrivateKey := x }
  | .userMetadata, x => o.onCommon fun c ↦ { c with userMetadata := x }
  | .includeMetadata, x => o.onCommon fun c ↦ { c with includeMetadata := x }
  | .domainName, x => o.onSoftLayer fun s ↦ { s with domainName := x }
  | .securityGroups, x => o.onEc2 fun e ↦ { e with securityGroups := x }
  | .keyPair, x => o.onEc2 fun e ↦ { e with keyPair := x }
  | .noKeyPair, x => o.onEc2 fun e ↦ { e with noKeyPair := x }
  | .userData, x => o.onEc2 fun e ↦ { e with userData := x }
  | .monitoringEnabled, x => o.onAws fun a ↦ { a with monitoringEnabled := x }
  | .securityGroupIds, x => o.onAws fun a ↦ { a with securityGroupIds := x }
  | .spotPrice, x => o.onAws fun a ↦ { a with spotPrice := x }
  | .subnetId, x => o.onAws fun a ↦ { a with subnetId := x }

/-- All fields by name, in the order in which they are shown. -/
def fields (o : Options) : List (String × Value) :=
  Field.all.filterMap fun f ↦ (o.get? f).map fun content ↦ (f.label, f.toValue content)

/-- Whether a field is left out of a description because nothing is set in it. Zero and the empty
byte string are settings. -/
def isUnset : Value → Bool
  | .null | .bool false | .tuple [] | .dict [] => true
  | _ => false

/-- The kind and all fields that are set, if their texts can be made. -/
def description (o : Options) : Except Error String := do
  let shown := o.fields.filter fun e ↦ !isUnset e.2
  let parts ← shown.mapM fun e ↦ do return e.1 ++ "=" ++ (← e.2.write)
  return o.kind.label ++ "(" ++ ", ".intercalate parts ++ ")"

variable {o p : Options}

/-- Options have the fields that their kind or a wider one declares. -/
theorem isSome_get? (o : Options) (f : Field) : (o.get? f).isSome = o.kind.extends? f.owner := by
  obtain ⟨c, x, frozen⟩ := o
  cases x <;> cases f <;> rfl

theorem get?_fresh (k : Kind) (f : Field) :
    (fresh k).get? f = if k.extends? f.owner then some f.initial else none := by
  cases k <;> cases f <;> rfl

@[simp]
theorem kind_set (o : Options) (f : Field) (x : f.Content) : (o.set f x).kind = o.kind := by
  cases f <;> simp [set, kind, onCommon, onSoftLayer, onEc2, onAws]

@[simp]
theorem frozen_set (o : Options) (f : Field) (x : f.Content) : (o.set f x).frozen = o.frozen := by
  cases f <;> rfl

/-- A field that is set holds what it was set to, where there is such a field. -/
theorem get?_set_self (o : Options) (f : Field) (x : f.Content) :
    (o.set f x).get? f = (o.get? f).map fun _ ↦ x := by
  obtain ⟨c, y, frozen⟩ := o
  cases y <;> cases f <;> rfl

/-- Setting one field leaves all others alone. -/
theorem get?_set_of_ne {f g : Field} (h : f ≠ g) (o : Options) (x : f.Content) :
    (o.set f x).get? g = o.get? g := by
  obtain ⟨c, y, frozen⟩ := o
  cases f <;> cases g <;> first | rfl | contradiction | (cases y <;> rfl)

theorem get?_withFrozen (o : Options) (frozen : Bool) (f : Field) :
    ({ o with frozen := frozen } : Options).get? f = o.get? f := by
  cases f <;> rfl

/-- Options are told apart by their kind, their fields and whether they are frozen. -/
theorem ext_get? (hkind : o.kind = p.kind) (hfrozen : o.frozen = p.frozen)
    (hget : ∀ f, o.get? f = p.get? f) : o = p := by
  obtain ⟨c, x, frozen⟩ := o
  obtain ⟨d, y, frozen'⟩ := p
  have hcommon : c = d :=
    Common.ext (Option.some.inj (hget .inboundPorts)) (Option.some.inj (hget .port))
      (Option.some.inj (hget .seconds)) (Option.some.inj (hget .runScript))
      (Option.some.inj (hget .privateKey)) (Option.some.inj (hget .publicKey))
      (Option.some.inj (hget .loginUser)) (Option.some.inj (hget .loginPrivateKey))
      (Option.some.inj (hget .userMetadata)) (Option.some.inj (hget .includeMetadata))
  have hextras : x = y := by
    cases x <;> cases y <;> cases hkind
    case base => rfl
    case softLayer s t =>
      exact congrArg Extras.softLayer (SoftLayer.ext (Option.some.inj (hget .domainName)))
    case ec2 e e' =>
      exact congrArg Extras.ec2 (Ec2.ext (Option.some.inj (hget .securityGroups))
        (Option.some.inj (hget .keyPair)) (Option.some.inj (hget .noKeyPair))
        (Option.some.inj (hget .userData)))
    case awsEc2 e a e' a' =>
      have hec2 : e = e' := Ec2.ext (Option.some.inj (hget .securityGroups))
        (Option.some.inj (hget .keyPair)) (Option.some.inj (hget .noKeyPair))
        (Option.some.inj (hget .userData))
      have haws : a = a' := Aws.ext (Option.some.inj (hget .monitoringEnabled))
        (Option.some.inj (hget .securityGroupIds)) (Option.some.inj (hget .spotPrice))
        (Option.some.inj (hget .subnetId))
      rw [hec2, haws]
  cases hfrozen
  rw [hcommon, hextras]

end Provisioning.Options
