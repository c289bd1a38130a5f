import Provisioning.Options.Copy
import Provisioning.Settings

/-!
Provider modules. A module makes new options of one kind and layers its own defaults onto them,
which may depend on the settings it holds. What modules do when they are made and when they are given
settings is up to their blueprints, which may do something else each time.
-/

set_option autoImplicit false

namespace Provisioning.Provider

open Options (Kind)

/-- What is fixed about a module: its name, the kind of its options, the defaults of templates that
use it and what it layers onto new options. At each point in time, `make` says what settings a module
holds that is made then, and `setUp` what it holds after it has been given some; either may fail, and
`setUp` may have stored something by then. -/
structure Blueprint where
  name : String
  kind : Kind
  templateDefaults : List (String × Value) := []
  layer : Option Settings → Options → Outcome Options := fun _ o ↦ .ok o
  make : (now : Nat) → Except Error (Option Settings) := fun _ ↦ .ok none
  setUp : (now : Nat) → (given : Settings) → (held : Option Settings) →
    Option Settings × Except Error Unit := fun _ given _ ↦ (some given, .ok ())

/-- A module with the settings it holds, if any, and the time at which it was made. -/
structure Module where
  blueprint : Blueprint
  settings : Option Settings
  madeAt : Nat := 0

namespace Module

/-- Gives settings to a module. -/
def setUp (m : Module) (now : Nat) (given : Settings) : Module × Except Error Unit :=
  let (settings, result) := m.blueprint.setUp now given m.settings
  ({ m with settings }, result)

/-- New options with the defaults of a module. -/
def templateOptions (m : Module) : Outcome Options :=
  m.blueprint.layer m.settings (Options.fresh m.blueprint.kind)

end Module

namespace Blueprint

/-- A module that belongs to no provider. -/
def generic : Blueprint :=
  { name := "generic", kind := .base }

variable [Domain.SuffixList]

/-- Sets the configured domain, if there is one that is not empty. -/
def layerDomain (settings : Option Settings) (o : Options) : Outcome Options :=
  match settings.bind fun s ↦ s.softLayer.domainName with
  | none => .ok o
  | some domain =>
    if domain.isEmpty then .ok o
    else do
      let variant ← o.asVariant .softLayer
      variant.mutate (.domainName (.text domain))

/-- The SoftLayer module. -/
def softLayer : Blueprint :=
  { name := "softlayer", kind := .softLayer, layer := layerDomain }

/-- The module of all EC2 compatible clouds. -/
def ec2 : Blueprint :=
  { name := "ec2", kind := .ec2 }

/-- The user data that says which packages are upgraded when a machine first starts. -/
def cloudConfig (r : RepoUpgrade) : String :=
  "#cloud-config\nrepo_upgrade: " ++ r.label ++ "\n"

/-- Sets the user data and, where it is configured, monitoring. -/
def layerCloudConfig (settings : Option Settings) (o : Options) : Outcome Options := do
  let aws : AwsSettings := (settings.map Settings.awsEc2).getD {}
  let variant ← o.asVariant .awsEc2
  let withData ← variant.mutate (.userData (.text (cloudConfig aws.repoUpgrade)))
  if aws.enableMonitoring then withData.mutate .enableMonitoring else return withData

/-- The Amazon module. -/
def awsEc2 : Blueprint :=
  { name := "aws-ec2"
    kind := .awsEc2
    templateDefaults := [("os_family", .text "amzn-linux"), ("os_64bit", .bool true)]
    layer := layerCloudConfig }

/-- The modules that are always known. -/
def builtIn : List Blueprint :=
  [generic, softLayer, ec2, awsEc2]

end Blueprint
end Provisioning.Provider
