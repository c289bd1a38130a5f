import Provisioning.Error
import Provisioning.Text.Case
import Provisioning.Validation.Check

/-!
The main settings: how much is logged, which provider is used where a template names none, where
the templates are, and the defaults of two providers.
-/

set_option autoImplicit false

namespace Provisioning

/-- Which packages are upgraded when a machine first starts. -/
inductive RepoUpgrade
  | none
  | security
  | bugfix
  | all
  deriving DecidableEq, Repr

namespace RepoUpgrade

/-- The word for a choice. -/
def label : RepoUpgrade → String
  | none => "none"
  | security => "security"
  | bugfix => "bugfix"
  | all => "all"

/-- The words for all choices. -/
def labels : List String :=
  [none, security, bugfix, all].map label

/-- The choice that a word stands for. -/
def ofLabel (s : String) : RepoUpgrade :=
  ([security, bugfix, all].find? fun r ↦ r.label == s).getD none

end RepoUpgrade

/-- Defaults of the Amazon provider. -/
structure AwsSettings where
  repoUpgrade : RepoUpgrade := .none
  enableMonitoring : Bool := false
  deriving DecidableEq, Repr

/-- Defaults of the SoftLayer provider. -/
structure SoftLayerSettings where
  domainName : Option String := .none
  deriving DecidableEq, Repr

/-- The main settings. -/
structure Settings where
  logLevel : String := "INFO"
  defaultProvider : String := "generic"
  templatesDir : String := "templates"
  awsEc2 : AwsSettings := {}
  softLayer : SoftLayerSettings := {}
  deriving DecidableEq, Repr

namespace Settings

open Validation

/-- The levels that can be set. -/
def logLevels : List String :=
  ["DEBUG", "INFO", "WARNING", "ERROR", "CRITICAL"]

variable [Reader]

/-- A log level, in whatever case. -/
def checkLevel : Check String :=
  text.andThen fun s ↦
    let level := Text.toUpper s
    if logLevels.contains level then .ok level else .error (.custom ("Invalid log level: " ++ s))

/-- Which packages are to be upgraded. -/
def checkRepoUpgrade : Check RepoUpgrade := fun v ↦
  (choice RepoUpgrade.labels v).map RepoUpgrade.ofLabel

/-- The Amazon defaults that a dictionary holds. -/
def checkAws (es : List (Value × Value)) : Checked AwsSettings :=
  AwsSettings.mk
    <$> field es "repo_upgrade" RepoUpgrade.none checkRepoUpgrade
    <*> field es "enable_monitoring" false flag

/-- The SoftLayer defaults that a dictionary holds. -/
def checkSoftLayer (es : List (Value × Value)) : Checked SoftLayerSettings :=
  SoftLayerSettings.mk <$> field es "domain_name" .none (optional text)

/-- The settings that a dictionary holds; unknown keys do not matter. -/
def checkEntries (es : List (Value × Value)) : Checked Settings :=
  Settings.mk
    <$> field es "log_level" "INFO" checkLevel
    <*> field es "default_provider" "generic" text
    <*> field es "templates_dir" "templates" text
    <*> field es "aws_ec2" {} (record "AWSEC2Config" checkAws)
    <*> field es "softlayer" {} (record "SoftLayerConfig" checkSoftLayer)

/-- Whether all keys of a dictionary are texts. -/
def hasTextKeys (es : List (Value × Value)) : Bool :=
  es.all fun e ↦ e.1 matches .text _

/-- The settings that a dictionary with text keys holds. -/
def ofEntries (es : List (Value × Value)) : Except Error Settings :=
  if hasTextKeys es then ((checkEntries es).toExcept "NimbusConfig").mapError .invalid
  else .error .notMapping

/-- Settings as a dictionary. -/
def toValue (s : Settings) : Value :=
  .dict
    [(.text "log_level", .text s.logLevel),
      (.text "default_provider", .text s.defaultProvider),
      (.text "templates_dir", .text s.templatesDir),
      (.text "aws_ec2", .dict
        [(.text "repo_upgrade", .text s.awsEc2.repoUpgrade.label),
          (.text "enable_monitoring", .bool s.awsEc2.enableMonitoring)]),
      (.text "softlayer", .dict [(.text "domain_name", .ofText? s.softLayer.domainName)])]

end Settings
end Provisioning
