import Provisioning.Outcome
import Provisioning.Proofs.Decimal
import Provisioning.Proofs.Validation.Check
import Provisioning.Template.Spec

/-!
What is known of a specification that has been read from a dictionary.
-/

set_option autoImplicit false

namespace Provisioning.Template

open Validation
open Options (Block)

variable [Reader]

theorem checkBlock_ensures {es : List (Value × Value)} {b : Block} (h : checkBlock es = .good b) :
    b.port ≤ maxPort := by
  obtain ⟨_, _, hblock, _, rfl⟩ := Checked.seq_eq_good_iff.mp (Checked.eq_good_of_also h)
  obtain ⟨port, hport, rfl⟩ := Checked.map_eq_good_iff.mp hblock
  exact natural_ensures.required hport

namespace Spec

/-- What the checks of the fields have seen to. Texts may still be empty, and nothing is known yet
of scripts, keys and domains. -/
structure Valid (s : Spec) : Prop where
  inboundPorts : ∀ p ∈ s.inboundPorts, p ≤ maxPort
  blockOnPort : ∀ b ∈ s.blockOnPort, b.port ≤ maxPort
  userMetadata : s.userMetadata.keys.Nodup
  spotPrice : ∀ price ∈ s.spotPrice, ¬price ≤ 0

/-- Each field of a specification is what the check of that field has let through. -/
structure Reads (s : Spec) (es : List (Value × Value)) : Prop where
  name : required es "name" text = .good s.name
  provider : field es "provider" none (optional text) = .good s.provider
  parent : field es "extends" none (optional text) = .good s.parent
  inboundPorts : field es "inbound_ports" [] (list checkPortNumber) = .good s.inboundPorts
  blockOnPort : field es "block_on_port" none (optional (record "BlockOnPortSpec" checkBlock)) =
    .good s.blockOnPort
  runScript : field es "run_script" none (optional text) = .good s.runScript
  bindings : field es "variables" [] (dict any) = .good s.bindings
  privateKey : field es "private_key" none (optional text) = .good s.privateKey
  publicKey : field es "public_key" none (optional text) = .good s.publicKey
  loginUser : field es "login_user" none (optional text) = .good s.loginUser
  loginPrivateKey : field es "login_private_key" none (optional text) = .good s.loginPrivateKey
  userMetadata : field es "user_metadata" [] (dict text) = .good s.userMetadata
  includeMetadata : field es "include_metadata" false flag = .good s.includeMetadata
  domainName : field es "domain_name" none (optional text) = .good s.domainName
  securityGroups : field es "security_groups" [] (list text) = .good s.securityGroups
  keyPair : field es "key_pair" none (optional text) = .good s.keyPair
  noKeyPair : field es "no_key_pair" false flag = .good s.noKeyPair
  userData : field es "user_data" none (optional text) = .good s.userData
  enableMonitoring : field es "enable_monitoring" false flag = .good s.enableMonitoring
  securityGroupIds : field es "security_group_ids" [] (list text) = .good s.securityGroupIds
  spotPrice : field es "spot_price" none (optional positive) = .good s.spotPrice
  subnetId : field es "subnet_id" none (optional text) = .good s.subnetId

theorem reads_of_checkEntries {es : List (Value × Value)} {s : Spec}
    (h : checkEntries es = .good s) : s.Reads es := by
  replace h := Checked.eq_good_of_also h
  simp only [Checked.seq_eq_good_iff, Checked.map_eq_good_iff] at h
  -- The checks come off from the last field to the first.
  obtain ⟨_, _, ⟨_, _, ⟨_, _, h, hids, rfl⟩, hprice, rfl⟩, hsubnet, rfl⟩ := h
  obtain ⟨_, _, ⟨_, _, ⟨_, _, h, hnone, rfl⟩, hdata, rfl⟩, hmonitoring, rfl⟩ := h
  obtain ⟨_, _, ⟨_, _, ⟨_, _, h, hdomain, rfl⟩, hgroups, rfl⟩, hpair, rfl⟩ := h
  obtain ⟨_, _, ⟨_, _, ⟨_, _, h, hlogin, rfl⟩, hmetadata, rfl⟩, hinclude, rfl⟩ := h
  obtain ⟨_, _, ⟨_, _, ⟨_, _, h, hprivate, rfl⟩, hpublic, rfl⟩, huser, rfl⟩ := h
  obtain ⟨_, _, ⟨_, _, h, hscript, rfl⟩, hbindings, rfl⟩ := h
  obtain ⟨_, _, ⟨_, _, h, hports, rfl⟩, hblock, rfl⟩ := h
  obtain ⟨_, _, ⟨_, _, ⟨_, hname, rfl⟩, hprovider, rfl⟩, hparent, rfl⟩ := h
  exact ⟨hname, hprovider, hparent, hports, hblock, hscript, hbindings, hprivate, hpublic, huser,
    hlogin, hmetadata, hinclude, hdomain, hgroups, hpair, hnone, hdata, hmonitoring, hids, hprice,
    hsubnet⟩

theorem reads_of_ofEntries {es : List (Value × Value)} {s : Spec} (h : ofEntries es = .ok s) :
    s.Reads es := by
  simp only [ofEntries] at h
  split at h
  · exact reads_of_checkEntries (Checked.eq_good_of_toExcept (mapError_eq_ok_iff.mp h))
  · cases h

theorem Reads.spotPrice_pos {es : List (Value × Value)} {s : Spec} (h : s.Reads es) :
    ∀ price ∈ s.spotPrice, 0 < price :=
  positive_ensures.optional.field (by simp) h.spotPrice

theorem Reads.valid {es : List (Value × Value)} {s : Spec} (h : s.Reads es) : s.Valid := by
  refine ⟨?_, ?_, ?_, ?_⟩
  · exact natural_ensures.list.field (by simp) h.inboundPorts
  · exact (Check.Ensures.record fun _ _ ↦ checkBlock_ensures).optional.field (by simp) h.blockOnPort
  · exact (Check.Ensures.dict text).field (by simp [Table.keys]) h.userMetadata
  · exact fun price hprice ↦ Decimal.not_le_zero_of_pos (h.spotPrice_pos price hprice)

theorem valid_of_ofEntries {es : List (Value × Value)} {s : Spec} (h : ofEntries es = .ok s) :
    s.Valid :=
  (reads_of_ofEntries h).valid

end Spec
end Provisioning.Template
