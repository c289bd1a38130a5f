import Provisioning.Options.Field
import Provisioning.Settings

/-!
Template specifications: the fields that a named template may set.
-/

set_option autoImplicit false

namespace Provisioning.Template

open Validation
open Options (Block)

/-- The fields of a template. -/
structure Spec where
  name : String
  provider : Option String := none
  parent : Option String := none
  inboundPorts : List Nat := []
  blockOnPort : Option Block := none
  runScript : Option String := none
  bindings : Table String Value := []
  privateKey : Option String := none
  publicKey : Option String := none
  loginUser : Option String := none
  loginPrivateKey : Option String := none
  userMetadata : Table String String := []
  includeMetadata : Bool := false
  domainName : Option String := none
  securityGroups : List String := []
  keyPair : Option String := none
  noKeyPair : Bool := false
  userData : Option String := none
  enableMonitoring : Bool := false
  securityGroupIds : List String := []
  spotPrice : Option Float := none
  subnetId : Option String := none

variable [Reader]

/-- A port number. -/
def checkPortNumber : Check Nat :=
  natural (some maxPort)

/-- The names of the fields of a port to wait for. -/
def blockFields : List String :=
  ["port", "seconds"]

/-- A port to wait for, and for how long. -/
def checkBlock (es : List (Value × Value)) : Checked Block :=
  (Block.mk <$> required es "port" checkPortNumber <*> required es "seconds" (natural none)).also
    (onlyFields blockFields es)

/-- A dictionary that describes a port to wait for. -/
def blockOf (es : List (Value × Value)) : Except Error Block :=
  if Settings.hasTextKeys es then
    ((checkBlock es).toExcept "BlockOnPortSpec").mapError .invalid
  else .error .notMapping

/-- A port to wait for as a dictionary. -/
def blockValue (b : Block) : Value :=
  .dict [(.text "port", .int b.port), (.text "seconds", .int b.seconds)]

namespace Spec

/-- The names of the fields. -/
def fieldNames : List String :=
  ["name", "provider", "extends", "inbound_ports", "block_on_port", "run_script", "variables",
    "private_key", "public_key", "login_user", "login_private_key", "user_metadata",
    "include_metadata", "domain_name", "security_groups", "key_pair", "no_key_pair", "user_data",
    "enable_monitoring", "security_group_ids", "spot_price", "subnet_id"]

/-- The fields that a dictionary holds. -/
def checkEntries (es : List (Value × Value)) : Checked Spec :=
  (Spec.mk
    <$> required es "name" text
    <*> field es "provider" none (optional text)
    <*> field es "extends" none (optional text)
    <*> field es "inbound_ports" [] (list checkPortNumber)
    <*> field es "block_on_port" none (optional (record "BlockOnPortSpec" checkBlock))
    <*> field es "run_script" none (optional text)
    <*> field es "variables" [] (dict any)
    <*> field es "private_key" none (optional text)
    <*> field es "public_key" none (optional text)
    <*> field es "login_user" none (optional text)
    <*> field es "login_private_key" none (optional text)
    <*> field es "user_metadata" [] (dict text)
    <*> field es "include_metadata" false flag
    <*> field es "domain_name" none (optional text)
    <*> field es "security_groups" [] (list text)
    <*> field es "key_pair" none (optional text)
    <*> field es "no_key_pair" false flag
    <*> field es "user_data" none (optional text)
    <*> field es "enable_monitoring" false flag
    <*> field es "security_group_ids" [] (list text)
    <*> field es "spot_price" none (optional positive)
    <*> field es "subnet_id" none (optional text)).also (onlyFields fieldNames es)

/-- The specification that a dictionary with text keys holds. -/
def ofEntries (es : List (Value × Value)) : Except Error Spec :=
  if Settings.hasTextKeys es then
    ((checkEntries es).toExcept "TemplateSpec").mapError .invalid
  else .error .notMapping

/-- A list of texts as a value. -/
def textList (xs : List String) : Value :=
  .list (xs.map .text)

/-- The values of the fields, in the order of their names. -/
def fieldValues (s : Spec) : List Value :=
  [.text s.name, .ofText? s.provider, .ofText? s.parent,
    .list (s.inboundPorts.map fun (n : Nat) ↦ .int n),
    (s.blockOnPort.map blockValue).getD .null, .ofText? s.runScript,
    .dict (s.bindings.map fun e ↦ (.text e.1, e.2)),
    .ofText? s.privateKey, .ofText? s.publicKey, .ofText? s.loginUser,
    .ofText? s.loginPrivateKey, Options.metadataValue s.userMetadata, .bool s.includeMetadata,
    .ofText? s.domainName, textList s.securityGroups, .ofText? s.keyPair, .bool s.noKeyPair,
    .ofText? s.userData, .bool s.enableMonitoring, textList s.securityGroupIds,
    (s.spotPrice.map .float).getD .null, .ofText? s.subnetId]

/-- A specification as a dictionary. -/
def toValue (s : Spec) : Value :=
  .dict ((fieldNames.map .text).zip s.fieldValues)

end Spec
end Provisioning.Template
