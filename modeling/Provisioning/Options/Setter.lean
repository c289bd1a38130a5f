import Provisioning.Options.Field

/-!
The setters by name, the kind of options that each is first defined for, and the fields that it
writes. Only the two fields of a port to wait for share a setter.
-/

set_option autoImplicit false

namespace Provisioning.Options

/-- The setters by name. -/
inductive Setter
  | inboundPorts
  | blockOnPort
  | runScript
  | installPrivateKey
  | authorizePublicKey
  | overrideLoginUser
  | overrideLoginPrivateKey
  | userMetadata
  | withMetadata
  | domainName
  | securityGroups
  | keyPair
  | noKeyPair
  | userData
  | enableMonitoring
  | securityGroupIds
  | spotPrice
  | subnetId
  deriving DecidableEq, Repr

namespace Setter

/-- All setters. -/
def all : List Setter :=
  [inboundPorts, blockOnPort, runScript, installPrivateKey, authorizePublicKey, overrideLoginUser,
    overrideLoginPrivateKey, userMetadata, withMetadata, domainName, securityGroups, keyPair,
    noKeyPair, userData, enableMonitoring, securityGroupIds, spotPrice, subnetId]

/-- The name by which a setter is called. -/
def label : Setter → String
  | inboundPorts => "inbound_ports"
  | blockOnPort => "block_on_port"
  | runScript => "run_script"
  | installPrivateKey => "install_private_key"
  | authorizePublicKey => "authorize_public_key"
  | overrideLoginUser => "override_login_user"
  | overrideLoginPrivateKey => "override_login_private_key"
  | userMetadata => "user_metadata"
  | withMetadata => "with_metadata"
  | domainName => "domain_name"
  | securityGroups => "security_groups"
  | keyPair => "key_pair"
  | noKeyPair => "no_key_pair"
  | userData => "user_data"
  | enableMonitoring => "enable_monitoring"
  | securityGroupIds => "security_group_ids"
  | spotPrice => "spot_price"
  | subnetId => "subnet_id"

/-- The setter of that name. -/
def ofLabel? (name : String) : Option Setter :=
  all.find? fun s ↦ s.label == name

/-- The kind of options that a setter is first defined for. -/
def owner : Setter → Kind
  | domainName => .softLayer
  | securityGroups | keyPair | noKeyPair | userData => .ec2
  | enableMonitoring | securityGroupIds | spotPrice | subnetId => .awsEc2
  | _ => .base

/-- The fields that a setter writes. -/
def fields : Setter → List Field
  | inboundPorts => [.inboundPorts]
  | blockOnPort => [.port, .seconds]
  | runScript => [.runScript]
  | installPrivateKey => [.privateKey]
  | authorizePublicKey => [.publicKey]
  | overrideLoginUser => [.loginUser]
  | overrideLoginPrivateKey => [.loginPrivateKey]
  | userMetadata => [.userMetadata]
  | withMetadata => [.includeMetadata]
  | domainName => [.domainName]
  | securityGroups => [.securityGroups]
  | keyPair => [.keyPair]
  | noKeyPair => [.noKeyPair]
  | userData => [.userData]
  | enableMonitoring => [.monitoringEnabled]
  | securityGroupIds => [.securityGroupIds]
  | spotPrice => [.spotPrice]
  | subnetId => [.subnetId]

end Setter
end Provisioning.Options
