import Provisioning.Action
import Provisioning.Domain.Suffix
import Provisioning.Options.Check
import Provisioning.Options.Setter

/-!
Changes to options. A `Mutation` is a call with arguments of any kind. It is checked first, which
gives a `Change` that holds nothing but good values; then the options must not be frozen; only then
is anything written, field by field.
-/

set_option autoImplicit false

namespace Provisioning.Options

/-- A call that is to change options, with its arguments as they were given. The mark of a script or a
price is the occasion of the call. -/
inductive Mutation
  | inboundPorts (ports : List Value)
  | blockOnPort (port seconds : Value)
  | runScript (script : Value) (mark : Nat)
  | installPrivateKey (key : Value)
  | authorizePublicKey (key : Value)
  | overrideLoginUser (user : Value)
  | overrideLoginPrivateKey (key : Value)
  | userMetadata (keyOrMapping value : Value)
  | withMetadata
  | domainName (name : Value)
  | securityGroups (names : List Value)
  | keyPair (name : Value)
  | noKeyPair
  | userData (data : Value)
  | enableMonitoring
  | securityGroupIds (ids : List Value)
  | spotPrice (price : Value) (mark : Nat)
  | subnetId (id : Value)

/-- The setter that is called. -/
def Mutation.setter : Mutation → Setter
  | inboundPorts _ => .inboundPorts
  | blockOnPort _ _ => .blockOnPort
  | runScript _ _ => .runScript
  | installPrivateKey _ => .installPrivateKey
  | authorizePublicKey _ => .authorizePublicKey
  | overrideLoginUser _ => .overrideLoginUser
  | overrideLoginPrivateKey _ => .overrideLoginPrivateKey
  | userMetadata _ _ => .userMetadata
  | withMetadata => .withMetadata
  | domainName _ => .domainName
  | securityGroups _ => .securityGroups
  | keyPair _ => .keyPair
  | noKeyPair => .noKeyPair
  | userData _ => .userData
  | enableMonitoring => .enableMonitoring
  | securityGroupIds _ => .securityGroupIds
  | spotPrice _ _ => .spotPrice
  | subnetId _ => .subnetId

/-- The arguments that the text of a refusal may show. -/
def Mutation.mentioned : Mutation → List Value
  | inboundPorts vs | securityGroups vs | securityGroupIds vs => vs
  | blockOnPort v w | userMetadata v w => [v, w]
  | installPrivateKey v | authorizePublicKey v | overrideLoginUser v | overrideLoginPrivateKey v
  | domainName v | keyPair v | spotPrice v _ | subnetId v => [v]
  | runScript _ _ | withMetadata | noKeyPair | userData _ | enableMonitoring => []

/-- A change whose values have been checked. -/
inductive Change
  | inboundPorts (ports : List Nat)
  | block (block : Block)
  | runScript (script : Payload) (mark : Nat)
  | privateKey (key : String)
  | publicKey (key : String)
  | loginUser (user : String)
  | loginPrivateKey (key : String)
  | metadata (entries : Table String String)
  | metadataEntry (key value : String)
  | includeMetadata
  | domainName (name : String)
  | securityGroups (names : List String)
  | keyPair (name : String)
  | noKeyPair
  | userData (data : Bytes)
  | monitoring
  | securityGroupIds (ids : List String)
  | spotPrice (offer : Offer) (mark : Nat)
  | subnetId (id : String)

variable [Domain.SuffixList]

/-- A domain that ends in a public suffix. -/
def checkDomain (name : Value) : Except Error String :=
  match name with
  | .null => refuse (.absent "domain_name")
  | .text s => if Domain.hasPublicSuffix s then .ok s else .error (.noPublicSuffix s)
  | v => refuse (.notDomain v)

/-- Names of which there must be at least one; each counts once. -/
def checkNames (what : String) (names : List Value) : Except Error (List String) := do
  if names.isEmpty then refuse (.noGroups what)
  else return distinct (← names.mapM (checkText what))

/-- Port numbers, each of which counts once. -/
def checkPorts (ports : List Value) : Except Error (List Nat) := do
  return distinct (← ports.mapM (checkPort "port"))

/-- Metadata: a mapping that replaces all entries, or a key and its value. Of several values for one
key in a mapping the last counts. -/
def checkUserMetadata (keyOrMapping value : Value) : Except Error Change :=
  match keyOrMapping with
  | .dict entries =>
    match value with
    | .null => do return .metadata (Table.ofList (← entries.mapM fun e ↦ checkEntry e.1 e.2))
    | _ => refuse .valueBesideMapping
  | key => do
    let (k, v) ← checkEntry key value
    return .metadataEntry k v

/-- Refuses when a key pair is named and ruled out at the same time. -/
def checkNoConflict (conflict : Bool) (change : Change) : Except Error Change :=
  if conflict then refuse .keyPairConflict else .ok change

/-- Whether the options rule out a key pair. -/
def rulesOutKeyPair (o : Options) : Bool :=
  (o.extras.ec2?.map Ec2.noKeyPair).getD false

/-- The key pair that the options name. -/
def keyPair? (o : Options) : Option String :=
  o.extras.ec2?.bind Ec2.keyPair

/-- Checks the arguments of a call on `o`. -/
def Mutation.check (o : Options) : Mutation → Outcome Change
  | inboundPorts ports => do return .inboundPorts (← checkPorts ports)
  | blockOnPort port seconds => do
    let p ← checkPort "port" port
    let s ← checkSeconds seconds
    return .block ⟨p, s⟩
  | runScript script mark => do return .runScript (← checkScript script) mark
  | installPrivateKey key => do return .privateKey (← checkPrivateKey "private_key" key)
  | authorizePublicKey key => do return .publicKey (← checkKey "public_key" key)
  | overrideLoginUser user => do return .loginUser (← checkText "user" user)
  | overrideLoginPrivateKey key => do
    return .loginPrivateKey (← checkPrivateKey "login_private_key" key)
  | userMetadata keyOrMapping value => checkUserMetadata keyOrMapping value
  | withMetadata => return .includeMetadata
  | domainName name => do return .domainName (← checkDomain name)
  | securityGroups names => do return .securityGroups (← checkNames "security group" names)
  | keyPair name => do
    checkNoConflict o.rulesOutKeyPair (.keyPair (← checkText "key_pair" name))
  | noKeyPair => checkNoConflict o.keyPair?.isSome .noKeyPair
  | userData data => do return .userData (← checkUserData data)
  | enableMonitoring => return .monitoring
  | securityGroupIds ids => do
    return .securityGroupIds (← checkNames "security group id" ids)
  | spotPrice price mark => do return .spotPrice (← checkPrice price) mark
  | subnetId id => do return .subnetId (← checkText "subnet_id" id)

/-- Writes a field. -/
def assign (f : Field) (content : f.Content) : Action Options Unit :=
  .write fun o ↦ o.set f content

/-- Writes a change, each field by itself. Only a price can still fail, namely when no double holds
it. -/
def Change.write : Change → Action Options Unit
  | inboundPorts ports => assign .inboundPorts ports
  | block b => do
    assign .port (some b.port)
    assign .seconds (some b.seconds)
  | runScript script mark => assign .runScript (some ⟨script, mark⟩)
  | privateKey key => assign .privateKey (some key)
  | publicKey key => assign .publicKey (some key)
  | loginUser user => assign .loginUser (some user)
  | loginPrivateKey key => assign .loginPrivateKey (some key)
  | metadata entries => assign .userMetadata entries
  | metadataEntry key value => do
    let o ← Action.state
    assign .userMetadata (o.common.userMetadata.put key value)
  | includeMetadata => assign .includeMetadata true
  | domainName name => assign .domainName name
  | securityGroups names => assign .securityGroups names
  | keyPair name => assign .keyPair (some name)
  | noKeyPair => assign .noKeyPair true
  | userData data => assign .userData (some data)
  | monitoring => assign .monitoringEnabled true
  | securityGroupIds ids => assign .securityGroupIds ids
  | spotPrice offer mark => do
    let amount ← offer.amount
    assign .spotPrice (some ⟨amount, mark⟩)
  | subnetId id => assign .subnetId (some id)

/-- Refuses frozen options. -/
def checkMutable (o : Options) : Except Error Unit :=
  if o.frozen then .error (.readOnly o.kind) else .ok ()

/-- Makes a call on options. -/
def Mutation.perform (m : Mutation) : Action Options Unit := do
  let o ← Action.state
  if o.kind.extends? m.setter.owner then
    let change ← m.check o
    o.checkMutable
    change.write
  else Action.fail .noSuchMember

/-- The options after a call that succeeds. -/
def mutate (o : Options) (m : Mutation) : Outcome Options := do
  let (o, _) ← m.perform.settle o
  return o

end Provisioning.Options
