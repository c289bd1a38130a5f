import Provisioning.Arguments
import Provisioning.Options.Copy

/-!
Members of options by name: setters, getters and the operations on options as a whole. A call by
name comes with positional and named arguments, which are matched with the parameters of the
member before it runs.
-/

set_option autoImplicit false

namespace Provisioning.Options

namespace Setter

/-- The change that a setter asks for with these arguments, if they fit its parameters. -/
def mutation? (s : Setter) (a : Arguments Value) (mark : Nat) : Option Mutation :=
  match s with
  | inboundPorts => a.any?.map .inboundPorts
  | securityGroups => a.any?.map .securityGroups
  | securityGroupIds => a.any?.map .securityGroupIds
  | withMetadata => if a.areNone then some .withMetadata else none
  | noKeyPair => if a.areNone then some .noKeyPair else none
  | enableMonitoring => if a.areNone then some .enableMonitoring else none
  | blockOnPort =>
    match a.arrange? [("port", none), ("seconds", none)] with
    | some [port, seconds] => some (.blockOnPort port seconds)
    | _ => none
  | userMetadata =>
    match a.arrange? [("key_or_mapping", none), ("value", some .null)] with
    | some [keyOrMapping, value] => some (.userMetadata keyOrMapping value)
    | _ => none
  | runScript => (a.only? "script").map fun script ↦ .runScript script mark
  | installPrivateKey => (a.only? "private_key").map .installPrivateKey
  | authorizePublicKey => (a.only? "public_key").map .authorizePublicKey
  | overrideLoginUser => (a.only? "user").map .overrideLoginUser
  | overrideLoginPrivateKey => (a.only? "private_key").map .overrideLoginPrivateKey
  | domainName => (a.only? "domain_name").map .domainName
  | keyPair => (a.only? "key_pair").map .keyPair
  | userData => (a.only? "data").map .userData
  | spotPrice => (a.only? "price").map fun price ↦ .spotPrice price mark
  | subnetId => (a.only? "subnet_id").map .subnetId

end Setter

/-- The members of options. -/
inductive Member
  | setter (s : Setter)
  | getter (field : String)
  | isFrozen
  | createsKeyPair
  | freeze
  | checkMutable
  | toDict
  | clone
  | copyTo
  | tryAs
  | asVariant
  deriving DecidableEq, Repr

namespace Member

/-- The getters: their names, the fields they read and the kinds of options they are first defined
for. -/
def getters : List (String × String × Kind) :=
  [("get_inbound_ports", "inbound_ports", .base), ("get_port", "block_on_port", .base),
    ("get_seconds", "block_seconds", .base), ("get_run_script", "run_script", .base),
    ("get_private_key", "private_key", .base), ("get_public_key", "public_key", .base),
    ("get_login_user", "login_user", .base),
    ("get_login_private_key", "login_private_key", .base),
    ("get_user_metadata", "user_metadata", .base),
    ("is_include_metadata", "include_metadata", .base),
    ("get_domain_name", "domain_name", .softLayer),
    ("get_security_groups", "security_groups", .ec2), ("get_key_pair", "key_pair", .ec2),
    ("is_no_key_pair", "no_key_pair", .ec2), ("get_user_data", "user_data", .ec2),
    ("is_monitoring_enabled", "monitoring_enabled", .awsEc2),
    ("get_security_group_ids", "security_group_ids", .awsEc2),
    ("get_spot_price", "spot_price", .awsEc2), ("get_subnet_id", "subnet_id", .awsEc2)]

/-- The other members: their names, and the kinds of options they are first defined for. -/
def others : List (String × Member × Kind) :=
  [("is_frozen", isFrozen, .base), ("should_create_key_pair", createsKeyPair, .ec2),
    ("_freeze", freeze, .base), ("_check_mutable", checkMutable, .base),
    ("to_dict", toDict, .base), ("clone", clone, .base), ("copy_to", copyTo, .base),
    ("try_as", tryAs, .base), ("as_variant", asVariant, .base)]

/-- The member of that name which options of kind `k` have. -/
def ofLabel? (k : Kind) (name : String) : Option Member :=
  let setter := ((Setter.ofLabel? name).filter fun s ↦ k.extends? s.owner).map Member.setter
  let getter := (getters.find? fun g ↦ g.1 == name && k.extends? g.2.2).map fun g ↦ getter g.2.1
  let other := (others.find? fun m ↦ m.1 == name && k.extends? m.2.2).map fun m ↦ m.2.1
  setter.or (getter.or other)

end Member

/-- What a call by name answers: the options themselves, other options, or a value. -/
inductive Answer
  | itself
  | options (o : Options)
  | value (v : Value)

/-- The value of a field; nothing if there is no such field. -/
def field (o : Options) (name : String) : Value :=
  (o.fields.lookup name).getD .null

/-- Whether a key pair is to be created: none is named and none is ruled out. -/
def createsKeyPair (o : Options) : Bool :=
  !o.rulesOutKeyPair && o.keyPair?.isNone

/-- All fields as a dictionary. -/
def toDict (o : Options) : Value :=
  .dict (o.fields.map fun e ↦ (.text e.1, e.2))

variable [Domain.SuffixList]

/-- Calls a member without parameters. -/
def Member.read : Member → Action Options Answer
  | getter field => do return .value ((← Action.state).field field)
  | isFrozen => do return .value (.bool (← Action.state).frozen)
  | createsKeyPair => do return .value (.bool (← Action.state).createsKeyPair)
  | freeze => do
    Action.write Options.freeze
    return .itself
  | checkMutable => do
    (← Action.state).checkMutable
    return .value .null
  | toDict => do return .value (← Action.state).toDict
  | clone => do return .options (← (← Action.state).clone)
  | _ => Action.fail .callShape

/-- Calls a setter. -/
def Setter.perform (s : Setter) (a : Arguments Value) (mark : Nat) : Action Options Answer :=
  match s.mutation? a mark with
  | none => Action.fail .callShape
  | some m => do
    m.perform
    return .itself

/-- Calls a member by name. The mark is the occasion of the call. -/
def invoke (name : String) (a : Arguments Value) (mark : Nat := 0) : Action Options Answer := do
  match Member.ofLabel? (← Action.state).kind name with
  | none => Action.fail .noSuchMember
  | some (.setter s) => s.perform a mark
  | some .copyTo => Action.fail (if (a.only? "to").isSome then .noSuchMember else .callShape)
  | some m => if a.areNone then m.read else Action.fail .callShape

/-- The options after a call by name that succeeds, and what it answers. -/
def call (o : Options) (name : String) (a : Arguments Value) (mark : Nat := 0) :
    Outcome (Options × Answer) :=
  (invoke name a mark).settle o

end Provisioning.Options
