import Provisioning.Options.Member

/-!
Shortcuts: functions that make new options of one kind and call one member of them at once.
-/

set_option autoImplicit false

namespace Provisioning.Options

/-- A shortcut to a member of new options of a kind. -/
structure Shortcut where
  kind : Kind
  member : String
  deriving DecidableEq, Repr

namespace Shortcut

/-- The shortcut to a member, which must exist. -/
def make (kind : Kind) (member : String) : Except Error Shortcut :=
  match Member.ofLabel? kind member with
  | some _ => .ok ⟨kind, member⟩
  | none => .error (.noSuchMutator kind member)

/-- What a shortcut does, in a sentence. -/
def summary (s : Shortcut) : String :=
  "Create a " ++ s.kind.label ++ " and apply " ++ s.kind.label ++ "." ++ s.member ++ "."

variable [Domain.SuffixList] in
/-- What the call answers; options that answer themselves are given as they are after it. The mark is
the occasion of the call. -/
def call (s : Shortcut) (a : Arguments Value) (mark : Nat := 0) : Outcome Answer := do
  let (o, answer) ← (fresh s.kind).call s.member a mark
  match answer with
  | .itself => return .options o
  | other => return other

/-- The setters that have a shortcut in each kind of options. -/
def offered : Kind → List Setter
  | .base => common
  | .softLayer => .domainName :: common
  | .ec2 => ec2 ++ common
  | .awsEc2 => [.enableMonitoring, .securityGroupIds, .spotPrice, .subnetId] ++ ec2 ++ common
where
  /-- The shortcuts that every kind offers. -/
  common : List Setter :=
    [.inboundPorts, .blockOnPort, .runScript, .installPrivateKey, .authorizePublicKey,
      .userMetadata, .withMetadata]
  /-- The shortcuts that the EC2 kinds add. -/
  ec2 : List Setter := [.securityGroups, .keyPair, .noKeyPair, .userData]

/-- The shortcut that a kind offers under a name. -/
def find (kind : Kind) (name : String) : Except Error Shortcut :=
  if (offered kind).any fun s ↦ s.label == name then .ok ⟨kind, name⟩ else .error .noSuchMember

end Shortcut
end Provisioning.Options
