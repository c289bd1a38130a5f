import Provisioning.Options.Copy
import Provisioning.Rendering
import Provisioning.Template.Spec

/-!
Applying a specification to options. Every field that is set becomes one step, which calls a setter;
fields that only some kinds of options have ask for such a kind first. The steps are taken in a
fixed order, and after a failure no further step is taken.
-/

set_option autoImplicit false

namespace Provisioning.Template

open Options (Kind Mutation)

/-- One step of an application: the kind of options it needs, and the setter that it calls, unless
its arguments cannot be made. -/
structure Step where
  needs : Kind
  mutation : Except Error Mutation

namespace Step

/-- A step that any options can take. -/
def always (m : Mutation) : Step :=
  ⟨.base, .ok m⟩

/-- A step that needs some kind of options. -/
def on (k : Kind) (m : Mutation) : Step :=
  ⟨k, .ok m⟩

variable [Domain.SuffixList]

/-- Takes a step on options. -/
def perform (s : Step) : Action Options Unit := do
  let _ ← (← Action.state).asVariant s.needs
  let m ← s.mutation
  m.perform

/-- Takes several steps, up to the first that fails. -/
def performAll : List Step → Action Options Unit
  | [] => pure ()
  | s :: rest => do
    s.perform
    performAll rest

end Step

/-- The step of a field that may be left out. -/
def stepFor {α : Type} (field : Option α) (step : α → Step) : List Step :=
  (field.map step).toList

/-- The step of a list, which is only taken if the list has items. -/
def stepForAll {α : Type} (items : List α) (step : List α → Step) : List Step :=
  if items.isEmpty then [] else [step items]

/-- A step that is only taken if it is asked for. -/
def stepIf (wanted : Bool) (step : Step) : List Step :=
  if wanted then [step] else []

namespace Spec

variable [Script.Engine]

/-- The step that fills in the script at some time and sets it. A script that a specification sets
has the mark 0. -/
def scriptStep (s : Spec) (now : Nat) (script : String) : Step :=
  ⟨.base, (Payload.ofTemplate script s.bindings now).map fun p ↦ .runScript p.toValue 0⟩

/-- The steps for the fields that all options have. -/
def commonSteps (s : Spec) (now : Nat) : List Step :=
  stepForAll s.inboundPorts
      (fun ports ↦ .always (.inboundPorts (ports.map fun (n : Nat) ↦ .int n))) ++
    stepFor s.blockOnPort (fun b ↦ .always (.blockOnPort (.int b.port) (.int b.seconds))) ++
    stepFor s.runScript (s.scriptStep now) ++
    stepFor s.privateKey (fun k ↦ .always (.installPrivateKey (.text k))) ++
    stepFor s.publicKey (fun k ↦ .always (.authorizePublicKey (.text k))) ++
    stepFor s.loginUser (fun u ↦ .always (.overrideLoginUser (.text u))) ++
    stepFor s.loginPrivateKey (fun k ↦ .always (.overrideLoginPrivateKey (.text k))) ++
    s.userMetadata.map (fun e ↦ .always (.userMetadata (.text e.1) (.text e.2))) ++
    stepIf s.includeMetadata (.always .withMetadata)

/-- The steps for the fields of SoftLayer options. -/
def softLayerSteps (s : Spec) : List Step :=
  stepFor s.domainName fun d ↦ .on .softLayer (.domainName (.text d))

/-- The steps for the fields of EC2 options. -/
def ec2Steps (s : Spec) : List Step :=
  stepForAll s.securityGroups (fun names ↦ .on .ec2 (.securityGroups (names.map .text))) ++
    stepFor s.keyPair (fun k ↦ .on .ec2 (.keyPair (.text k))) ++
    stepIf s.noKeyPair (.on .ec2 .noKeyPair) ++
    stepFor s.userData (fun d ↦ .on .ec2 (.userData (.text d)))

/-- The steps for the fields of Amazon options. A price that a specification sets has the mark 0. -/
def awsSteps (s : Spec) : List Step :=
  stepIf s.enableMonitoring (.on .awsEc2 .enableMonitoring) ++
    stepForAll s.securityGroupIds (fun ids ↦ .on .awsEc2 (.securityGroupIds (ids.map .text))) ++
    stepFor s.spotPrice (fun p ↦ .on .awsEc2 (.spotPrice (.float p) 0)) ++
    stepFor s.subnetId (fun i ↦ .on .awsEc2 (.subnetId (.text i)))

/-- All steps of a specification in order. -/
def steps (s : Spec) (now : Nat) : List Step :=
  s.commonSteps now ++ s.softLayerSteps ++ s.ec2Steps ++ s.awsSteps

/-- The options after a specification has been applied to them at some time, as far as it goes. -/
def applyTo [Domain.SuffixList] (s : Spec) (o : Options) (now : Nat) : Options × Outcome Unit :=
  (Step.performAll (s.steps now)).run o

/-- A specification once its script has been made. -/
def left (s : Spec) (now : Nat) : Spec :=
  match s.runScript with
  | none => s
  | some script => { s with bindings := Variables.left s.bindings script now }

end Spec
end Provisioning.Template
