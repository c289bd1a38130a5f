import Provisioning.Proofs.Template.Stage
import Provisioning.Script.Template
import Provisioning.Validation.Lax

/-!
What comes of applying a specification. Every field has its stage, with the condition on which what
the specification has for the field is taken. An application succeeds just if all of these
conditions are met, and then every field holds what the specification says.
-/

set_option autoImplicit false

namespace Provisioning.Template.Spec

open Options (Kind Field Change Mutation)
open Provisioning.Action (Leads)

/-- What the specification and the options say about a key pair does not contradict each other. -/
structure Agrees (s : Spec) (o : Options) : Prop where
  keyPair : ∀ name ∈ s.keyPair, o.rulesOutKeyPair = false
  noKeyPair : s.noKeyPair = true → o.keyPair? = none

section Fields

variable [Domain.SuffixList]

/-- The steps for metadata write one entry after another. -/
theorem performAll_userMetadata (entries : List (String × String)) (o : Options)
    (hfrozen : o.frozen = false) :
    (Step.performAll
        (entries.map fun e ↦ .always (.userMetadata (.text e.1) (.text e.2)))).Leads o
      (∀ e ∈ entries, e.1 ≠ "") (o.set .userMetadata (o.common.userMetadata.putAll entries)) := by
  induction entries generalizing o with
  | nil => exact (Leads.pure o).congr (by simp)
  | cons e entries ih =>
    have hstep : (Step.always (.userMetadata (.text e.1) (.text e.2))).perform.Leads o _ _ :=
      Step.leads rfl hfrozen (fun _ ↦ Options.decides_checkUserMetadata e.1 e.2) rfl
    have hrest := ih (o.set .userMetadata (o.common.userMetadata.put e.1 e.2)) hfrozen
    refine (hstep.bind fun _ ↦ hrest).congr ?_
    rw [and_iff_right o.kind.extends?_base, List.forall_mem_cons]

variable [Script.Engine] {s : Spec} {now : Nat} {o : Options} {done : List Field}

/-! ### Fields of all options -/

theorem stage_inboundPorts :
    Stage s now o done
      (stepForAll s.inboundPorts
        fun ports ↦ .always (.inboundPorts (ports.map fun (n : Nat) ↦ .int n)))
      [.inboundPorts] (s.inboundPorts ≠ [] → ∀ p ∈ s.inboundPorts, p ≤ maxPort) :=
  .stepForAll (fun h ↦ List.forall_mem_singleton.mpr fun y ↦ by simp [updated, h]) fun h ↦
    .always rfl (fun _ _ ↦ (Options.decides_checkPorts s.inboundPorts).outcome Change.inboundPorts)
      (fun _ ↦ rfl) (fun y ↦ by simp [updated, h])

theorem stage_blockOnPort :
    Stage s now o done
      (stepFor s.blockOnPort fun b ↦ .always (.blockOnPort (.int b.port) (.int b.seconds)))
      [.port, .seconds] (∀ b ∈ s.blockOnPort, b.port ≤ maxPort) := by
  refine .stepFor (fun h f hf y ↦ ?_) fun b hb o' hfilled ↦ ?_
  · simp only [List.mem_cons, List.not_mem_nil, or_false] at hf
    rcases hf with rfl | rfl <;> simp [updated, h]
  · have hcheck : Decides (Mutation.check o' (.blockOnPort (.int b.port) (.int b.seconds))).result
        (b.port ≤ maxPort ∧ True) (.block b) := by
      simp only [Mutation.check, Outcome.result_bind]
      exact (Options.decides_checkPort "port" b.port).bind fun _ ↦
        (Options.decides_checkSeconds b.seconds).map fun seconds ↦ Change.block ⟨b.port, seconds⟩
    have hleads := Step.leads (k := .base) rfl hfilled.frozen (fun _ ↦ hcheck) rfl
    refine ⟨(o'.set .port (some b.port)).set .seconds (some b.seconds), ?_, fun _ ↦ ?_⟩
    · refine (hleads.bind fun _ ↦ Leads.pure _).congr ?_
      rw [and_iff_left trivial, and_iff_left trivial, and_iff_right o'.kind.extends?_base]
    · rw [List.append_cons]
      exact (hfilled.set fun y _ ↦ by simp [updated, hb]).set fun y _ ↦ by simp [updated, hb]

/-- A script is set to what its template gives. -/
theorem stage_runScript :
    Stage s now o done (stepFor s.runScript (s.scriptStep now)) [.runScript]
      (∀ script ∈ s.runScript, ∃ text, s.scriptText now script = .ok text ∧ text ≠ "") := by
  refine .stepFor (fun h ↦ List.forall_mem_singleton.mpr fun y ↦ by simp [updated, h])
    fun script hscript ↦ ?_
  cases htext : s.scriptText now script with
  | error e =>
    have hstep : s.scriptStep now script = ⟨.base, .error e⟩ := by
      rw [scriptStep, ofTemplate_eq, htext]
      rfl
    rw [hstep]
    exact (Stage.unmade e).congr (by simp)
  | ok text =>
    have hstep : s.scriptStep now script =
        .always (.runScript (Payload.ofText text Payload.shellScript).toValue 0) := by
      rw [scriptStep, ofTemplate_eq, htext]
      rfl
    have hiff : text ≠ "" ↔ ∃ t, Except.ok (ε := Error) text = .ok t ∧ t ≠ "" := by simp
    rw [hstep]
    refine (Stage.always (c := .runScript (.ofText text Payload.shellScript) 0) rfl
      (fun _ _ ↦ ?_) (fun _ ↦ rfl) fun y ↦ ?_).congr hiff
    · exact (Options.decides_checkScript text Payload.shellScript).outcome
        fun script ↦ Change.runScript script 0
    · simp only [updated, hscript, Option.bind_some, htext]
      rfl

theorem stage_privateKey :
    Stage s now o done (stepFor s.privateKey fun k ↦ .always (.installPrivateKey (.text k)))
      [.privateKey] (∀ k ∈ s.privateKey, Options.isPem k = true) :=
  .stepFor (fun h ↦ List.forall_mem_singleton.mpr fun y ↦ by simp [updated, h]) fun k hk ↦
    .always rfl (fun _ _ ↦ (Options.decides_checkPrivateKey _ k).outcome Change.privateKey)
      (fun _ ↦ rfl) (fun y ↦ by simp [updated, hk])

theorem stage_publicKey :
    Stage s now o done (stepFor s.publicKey fun k ↦ .always (.authorizePublicKey (.text k)))
      [.publicKey] (∀ k ∈ s.publicKey, k ≠ "") :=
  .stepFor (fun h ↦ List.forall_mem_singleton.mpr fun y ↦ by simp [updated, h]) fun k hk ↦
    .always rfl (fun _ _ ↦ (Options.decides_checkKey _ k).outcome Change.publicKey)
      (fun _ ↦ rfl) (fun y ↦ by simp [updated, hk])

theorem stage_loginUser :
    Stage s now o done (stepFor s.loginUser fun u ↦ .always (.overrideLoginUser (.text u)))
      [.loginUser] (∀ u ∈ s.loginUser, u ≠ "") :=
  .stepFor (fun h ↦ List.forall_mem_singleton.mpr fun y ↦ by simp [updated, h]) fun u hu ↦
    .always rfl (fun _ _ ↦ (Options.decides_checkText _ u).outcome Change.loginUser)
      (fun _ ↦ rfl) (fun y ↦ by simp [updated, hu])

theorem stage_loginPrivateKey :
    Stage s now o done (stepFor s.loginPrivateKey fun k ↦ .always (.overrideLoginPrivateKey (.text k)))
      [.loginPrivateKey] (∀ k ∈ s.loginPrivateKey, Options.isPem k = true) :=
  .stepFor (fun h ↦ List.forall_mem_singleton.mpr fun y ↦ by simp [updated, h]) fun k hk ↦
    .always rfl (fun _ _ ↦ (Options.decides_checkPrivateKey _ k).outcome Change.loginPrivateKey)
      (fun _ ↦ rfl) (fun y ↦ by simp [updated, hk])

theorem stage_userMetadata (hdone : .userMetadata ∉ done) :
    Stage s now o done (s.userMetadata.map fun e ↦ .always (.userMetadata (.text e.1) (.text e.2)))
      [.userMetadata] (∀ k ∈ s.userMetadata.keys, k ≠ "") := by
  intro o' hfilled
  have hentries : o'.common.userMetadata = o.common.userMetadata := by
    have hget := hfilled.get? .userMetadata
    simp only [if_neg hdone, Options.get?, Option.map_some] at hget
    exact Option.some.inj hget
  refine ⟨_, (performAll_userMetadata s.userMetadata o' hfilled.frozen).congr ?_, fun _ ↦
    hfilled.set fun y hy ↦ ?_⟩
  · simp [Table.keys]
  · rw [hentries, ← Option.some.inj hy, updated]

theorem stage_includeMetadata :
    Stage s now o done (stepIf s.includeMetadata (.always .withMetadata)) [.includeMetadata] True := by
  have hstage : Stage s now o done (stepIf s.includeMetadata (.always .withMetadata))
      [.includeMetadata] (s.includeMetadata = true → True) :=
    .stepIf (fun h ↦ List.forall_mem_singleton.mpr fun y ↦ by simp [updated, h]) fun h ↦
      .always rfl (fun _ _ ↦ .of_ok rfl) (fun _ ↦ rfl) (fun y ↦ by simp [updated, h])
  exact hstage.congr (by simp)

/-- What the fields that all options have ask for. -/
structure FitsCommon (s : Spec) (now : Nat) : Prop where
  runScript : ∀ script ∈ s.runScript, ∃ text, s.scriptText now script = .ok text ∧ text ≠ ""
  privateKey : ∀ key ∈ s.privateKey, Options.isPem key = true
  publicKey : ∀ key ∈ s.publicKey, key ≠ ""
  loginUser : ∀ user ∈ s.loginUser, user ≠ ""
  loginPrivateKey : ∀ key ∈ s.loginPrivateKey, Options.isPem key = true
  userMetadata : ∀ key ∈ s.userMetadata.keys, key ≠ ""

theorem stage_commonSteps (hvalid : s.Valid) :
    Stage s now o [] (s.commonSteps now)
      [.inboundPorts, .port, .seconds, .runScript, .privateKey, .publicKey, .loginUser,
        .loginPrivateKey, .userMetadata, .includeMetadata] (s.FitsCommon now) := by
  have hstage := (@stage_inboundPorts _ _ s now o []).append stage_blockOnPort
    |>.append stage_runScript |>.append stage_privateKey |>.append stage_publicKey
    |>.append stage_loginUser |>.append stage_loginPrivateKey
    |>.append (stage_userMetadata (by decide)) |>.append stage_includeMetadata
  refine hstage.congr ⟨fun h ↦ ?_, fun h ↦ ?_⟩
  · obtain ⟨⟨⟨⟨⟨⟨⟨-, hscript⟩, hprivate⟩, hpublic⟩, huser⟩, hlogin⟩, hmetadata⟩, -⟩ := h
    exact ⟨hscript, hprivate, hpublic, huser, hlogin, hmetadata⟩
  · exact ⟨⟨⟨⟨⟨⟨⟨⟨fun _ ↦ hvalid.inboundPorts, hvalid.blockOnPort⟩, h.runScript⟩, h.privateKey⟩,
      h.publicKey⟩, h.loginUser⟩, h.loginPrivateKey⟩, h.userMetadata⟩, trivial⟩

/-! ### Fields of SoftLayer options -/

/-- What the fields of SoftLayer options ask for. -/
structure FitsSoftLayer (s : Spec) (k : Kind) : Prop where
  domainName : ∀ d ∈ s.domainName, k = .softLayer ∧ Domain.hasPublicSuffix d = true

theorem stage_softLayerSteps :
    Stage s now o done s.softLayerSteps [.domainName] (s.FitsSoftLayer o.kind) := by
  have hstage : Stage s now o done s.softLayerSteps [.domainName]
      (∀ d ∈ s.domainName,
        o.kind.extends? .softLayer = true ∧ Domain.hasPublicSuffix d = true) :=
    .stepFor (fun h ↦ List.forall_mem_singleton.mpr fun y ↦ by simp [updated, h]) fun d hd ↦
      .one rfl (fun _ _ _ ↦ (Options.decides_checkDomain d).outcome Change.domainName)
        (fun _ ↦ rfl) (fun y ↦ by simp [updated, hd])
  simp only [Kind.extends?_softLayer_iff] at hstage
  exact hstage.congr ⟨fun h ↦ ⟨h⟩, fun h ↦ h.domainName⟩

/-! ### Fields of EC2 options -/

theorem stage_securityGroups :
    Stage s now o done
      (stepForAll s.securityGroups fun names ↦ .on .ec2 (.securityGroups (names.map .text)))
      [.securityGroups]
      (s.securityGroups ≠ [] → o.kind.extends? .ec2 = true ∧ "" ∉ s.securityGroups) :=
  .stepForAll (fun h ↦ List.forall_mem_singleton.mpr fun y ↦ by simp [updated, h]) fun h ↦
    .one rfl (fun _ _ _ ↦ (Options.decides_checkNames _ h).outcome Change.securityGroups)
      (fun _ ↦ rfl) (fun y ↦ by simp [updated, h])

theorem stage_keyPair (hdone : .noKeyPair ∉ done) :
    Stage s now o done (stepFor s.keyPair fun k ↦ .on .ec2 (.keyPair (.text k))) [.keyPair]
      (∀ k ∈ s.keyPair,
        o.kind.extends? .ec2 = true ∧ k ≠ "" ∧ o.rulesOutKeyPair = false) := by
  refine .stepFor (fun h ↦ List.forall_mem_singleton.mpr fun y ↦ by simp [updated, h])
    fun k hk ↦ .one (c := .keyPair k) rfl (fun o' hfilled _ ↦ ?_) (fun _ ↦ rfl)
      (fun y ↦ by simp [updated, hk])
  have hsame : o'.rulesOutKeyPair = o.rulesOutKeyPair := by
    have hget := hfilled.get? .noKeyPair
    simp only [if_neg hdone, Option.map_id'] at hget
    rw [Bool.eq_iff_iff, Options.rulesOutKeyPair_iff, Options.rulesOutKeyPair_iff, hget]
  simp only [Mutation.check, Outcome.result_bind]
  rw [← hsame]
  exact (Options.decides_checkText "key_pair" k).bind fun _ ↦
    Options.decides_checkNoConflict o'.rulesOutKeyPair (.keyPair k)

theorem stage_noKeyPair (hdone : .keyPair ∈ done) :
    Stage s now o done (stepIf s.noKeyPair (.on .ec2 .noKeyPair)) [.noKeyPair]
      (s.noKeyPair = true →
        o.kind.extends? .ec2 = true ∧ s.keyPair = none ∧ o.keyPair? = none) := by
  refine .stepIf (fun h ↦ List.forall_mem_singleton.mpr fun y ↦ by simp [updated, h])
    fun h ↦ .one (c := .noKeyPair) rfl (fun o' hfilled hkind ↦ ?_) (fun _ ↦ rfl)
      (fun y ↦ by simp [updated, h])
  have hname : o'.keyPair? = s.keyPair.or o.keyPair? := by
    have hhas := (Options.isSome_get? o .keyPair).trans hkind
    obtain ⟨name, hget⟩ := Option.isSome_iff_exists.mp hhas
    have hget' := hfilled.get? .keyPair
    simp only [hget, Option.map_some, if_pos hdone] at hget'
    rw [Options.keyPair?_eq_of_get? hget, Options.keyPair?_eq_of_get? hget']
    rfl
  refine (Options.decides_checkNoConflict o'.keyPair?.isSome .noKeyPair).congr ?_
  rw [hname]
  cases s.keyPair <;> cases o.keyPair? <;> simp

theorem stage_userData :
    Stage s now o done (stepFor s.userData fun d ↦ .on .ec2 (.userData (.text d))) [.userData]
      (∀ d ∈ s.userData, o.kind.extends? .ec2 = true ∧
        (Text.Utf8.encode d).length ≤ Options.maxUserData) :=
  .stepFor (fun h ↦ List.forall_mem_singleton.mpr fun y ↦ by simp [updated, h]) fun d hd ↦
    .one rfl (fun _ _ _ ↦ (Options.decides_checkUserData d).outcome Change.userData)
      (fun _ ↦ rfl) (fun y ↦ by simp [updated, hd])

/-- What the fields of EC2 options ask for. -/
structure FitsEc2 (s : Spec) (k : Kind) : Prop where
  securityGroups : s.securityGroups ≠ [] → (k = .ec2 ∨ k = .awsEc2) ∧ "" ∉ s.securityGroups
  keyPair : ∀ name ∈ s.keyPair, (k = .ec2 ∨ k = .awsEc2) ∧ name ≠ ""
  noKeyPair : s.noKeyPair = true → (k = .ec2 ∨ k = .awsEc2) ∧ s.keyPair = none
  userData : ∀ data ∈ s.userData,
    (k = .ec2 ∨ k = .awsEc2) ∧ (Text.Utf8.encode data).length ≤ Options.maxUserData

theorem stage_ec2Steps (hdone : .noKeyPair ∉ done) :
    Stage s now o done s.ec2Steps [.securityGroups, .keyPair, .noKeyPair, .userData]
      (s.FitsEc2 o.kind ∧ s.Agrees o) := by
  have hstage := (@stage_securityGroups _ _ s now o done).append
    (stage_keyPair (by simp [hdone])) |>.append (stage_noKeyPair (by simp))
    |>.append stage_userData
  simp only [Kind.extends?_ec2_iff] at hstage
  refine hstage.congr ⟨fun h ↦ ?_, fun ⟨h, hagrees⟩ ↦ ?_⟩
  · obtain ⟨⟨⟨hgroups, hpair⟩, hnone⟩, hdata⟩ := h
    refine ⟨⟨hgroups, fun name hname ↦ ?_, fun hwanted ↦ ?_, hdata⟩,
      fun name hname ↦ (hpair name hname).2.2, fun hwanted ↦ (hnone hwanted).2.2⟩
    · exact ⟨(hpair name hname).1, (hpair name hname).2.1⟩
    · exact ⟨(hnone hwanted).1, (hnone hwanted).2.1⟩
  · refine ⟨⟨⟨h.securityGroups, fun name hname ↦ ?_⟩, fun hwanted ↦ ?_⟩, h.userData⟩
    · exact ⟨(h.keyPair name hname).1, (h.keyPair name hname).2, hagrees.keyPair name hname⟩
    · exact ⟨(h.noKeyPair hwanted).1, (h.noKeyPair hwanted).2, hagrees.noKeyPair hwanted⟩

/-! ### Fields of Amazon options -/

theorem stage_enableMonitoring :
    Stage s now o done (stepIf s.enableMonitoring (.on .awsEc2 .enableMonitoring))
      [.monitoringEnabled]
      (s.enableMonitoring = true → o.kind.extends? .awsEc2 = true ∧ True) :=
  .stepIf (fun h ↦ List.forall_mem_singleton.mpr fun y ↦ by simp [updated, h]) fun h ↦
    .one rfl (fun _ _ _ ↦ .of_ok rfl) (fun _ ↦ rfl) (fun y ↦ by simp [updated, h])

theorem stage_securityGroupIds :
    Stage s now o done
      (stepForAll s.securityGroupIds fun ids ↦ .on .awsEc2 (.securityGroupIds (ids.map .text)))
      [.securityGroupIds]
      (s.securityGroupIds ≠ [] → o.kind.extends? .awsEc2 = true ∧ "" ∉ s.securityGroupIds) :=
  .stepForAll (fun h ↦ List.forall_mem_singleton.mpr fun y ↦ by simp [updated, h]) fun h ↦
    .one rfl (fun _ _ _ ↦ (Options.decides_checkNames _ h).outcome Change.securityGroupIds)
      (fun _ ↦ rfl) (fun y ↦ by simp [updated, h])

theorem stage_spotPrice :
    Stage s now o done (stepFor s.spotPrice fun p ↦ .on .awsEc2 (.spotPrice (.float p) 0))
      [.spotPrice]
      (∀ price ∈ s.spotPrice, o.kind.extends? .awsEc2 = true ∧ ¬price ≤ 0) :=
  .stepFor (fun h ↦ List.forall_mem_singleton.mpr fun y ↦ by simp [updated, h]) fun price hprice ↦
    .one rfl
      (fun _ _ _ ↦ (Options.decides_checkPrice price).outcome fun offer ↦ Change.spotPrice offer 0)
      (fun _ ↦ rfl) (fun y ↦ by simp [updated, hprice])

theorem stage_subnetId :
    Stage s now o done (stepFor s.subnetId fun i ↦ .on .awsEc2 (.subnetId (.text i))) [.subnetId]
      (∀ id ∈ s.subnetId, o.kind.extends? .awsEc2 = true ∧ id ≠ "") :=
  .stepFor (fun h ↦ List.forall_mem_singleton.mpr fun y ↦ by simp [updated, h]) fun id hid ↦
    .one rfl (fun _ _ _ ↦ (Options.decides_checkText _ id).outcome Change.subnetId)
      (fun _ ↦ rfl) (fun y ↦ by simp [updated, hid])

/-- What the fields of Amazon options ask for. -/
structure FitsAws (s : Spec) (k : Kind) : Prop where
  enableMonitoring : s.enableMonitoring = true → k = .awsEc2
  securityGroupIds : s.securityGroupIds ≠ [] → k = .awsEc2 ∧ "" ∉ s.securityGroupIds
  spotPrice : ∀ price ∈ s.spotPrice, k = .awsEc2
  subnetId : ∀ id ∈ s.subnetId, k = .awsEc2 ∧ id ≠ ""

theorem stage_awsSteps (hvalid : s.Valid) :
    Stage s now o done s.awsSteps [.monitoringEnabled, .securityGroupIds, .spotPrice, .subnetId]
      (s.FitsAws o.kind) := by
  have hstage := (@stage_enableMonitoring _ _ s now o done).append
    stage_securityGroupIds |>.append stage_spotPrice |>.append stage_subnetId
  simp only [Kind.extends?_awsEc2_iff] at hstage
  refine hstage.congr ⟨fun h ↦ ?_, fun h ↦ ?_⟩
  · obtain ⟨⟨⟨hmonitoring, hids⟩, hprice⟩, hsubnet⟩ := h
    exact ⟨fun h ↦ (hmonitoring h).1, hids, fun price h ↦ (hprice price h).1, hsubnet⟩
  · exact ⟨⟨⟨fun hwanted ↦ ⟨h.enableMonitoring hwanted, trivial⟩, h.securityGroupIds⟩,
      fun price hprice ↦ ⟨h.spotPrice price hprice, hvalid.spotPrice price hprice⟩⟩, h.subnetId⟩

/-! ### All fields -/

/-- What a specification asks of options of a kind: scripts that can be filled in, keys, names and
texts that are not empty, and nothing that options of that kind do not have. -/
structure Fits (s : Spec) (now : Nat) (k : Kind) : Prop
  extends s.FitsCommon now, s.FitsSoftLayer k, s.FitsEc2 k, s.FitsAws k

theorem stage_steps (hvalid : s.Valid) :
    Stage s now o [] (s.steps now) Field.all (s.Fits now o.kind ∧ s.Agrees o) := by
  have hstage := (@stage_commonSteps _ _ s now o hvalid).append stage_softLayerSteps
    |>.append (stage_ec2Steps (by decide)) |>.append (stage_awsSteps hvalid)
  refine hstage.congr ⟨fun h ↦ ?_, fun ⟨h, hagrees⟩ ↦ ?_⟩
  · obtain ⟨⟨⟨hcommon, hsoftLayer⟩, hec2, hagrees⟩, haws⟩ := h
    exact ⟨{ hcommon, hsoftLayer, hec2, haws with }, hagrees⟩
  · exact ⟨⟨⟨h.toFitsCommon, h.toFitsSoftLayer⟩, h.toFitsEc2, hagrees⟩, h.toFitsAws⟩

end Fields

/-! ### Applying a specification -/

section Application

variable [Domain.SuffixList] [Script.Engine]

/-- A specification is applied to options that are not frozen just if it fits their kind and agrees
with them, and then every field holds what the specification says. -/
theorem applyTo_spec {s : Spec} (hvalid : s.Valid) {o : Options} (hfrozen : o.frozen = false)
    (now : Nat) :
    Decides (s.applyTo o now).2.result (s.Fits now o.kind ∧ s.Agrees o) () ∧
      (s.Fits now o.kind ∧ s.Agrees o → Filled s now o Field.all (s.applyTo o now).1) := by
  obtain ⟨o', hleads, hfilled⟩ := stage_steps hvalid o (filled_nil hfrozen)
  refine ⟨hleads.decides, fun hfits ↦ ?_⟩
  have hafter : (s.applyTo o now).1 = o' := hleads.after hfits
  rw [hafter]
  exact hfilled hfits

end Application

end Provisioning.Template.Spec
