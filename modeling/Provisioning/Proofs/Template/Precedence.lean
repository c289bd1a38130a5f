import Provisioning.Proofs.Provider.Defaults
import Provisioning.Proofs.Template.Application

/-!
What a field of options holds where its template gives it a value. `canonical` says what the value
comes to, and `updated_of_given` that this stands against what the field held before, except that a
flag that has been set stays set.
-/

set_option autoImplicit false

namespace Provisioning

namespace Template

open Options (Kind Field)
open Provider (Provided)
open Validation

/-- The entry of a template that fills a field. Monitoring goes by another name there, and a port to
wait for is one entry with both of its fields. -/
def entryOf : Field → String
  | .port | .seconds => "block_on_port"
  | .monitoringEnabled => "enable_monitoring"
  | f => f.label

variable [Script.Engine]

/-- What a field should hold that an entry gives a value, if the check of the entry lets it through:
lists and dictionaries without repetitions, user data as bytes, and a script filled in with the
variables. -/
def canonical [Reader] (bindings : Variables) (now : Nat) : (f : Field) → Value → Option f.Content
  | .inboundPorts, v => (list checkPortNumber v).good?.map distinct
  | .port, v => (record "BlockOnPortSpec" checkBlock v).good?.map fun b ↦ some b.port
  | .seconds, v => (record "BlockOnPortSpec" checkBlock v).good?.map fun b ↦ some b.seconds
  | .runScript, v => (text v).good?.bind fun template ↦
    (Payload.ofTemplate template bindings now).toOption.map fun script ↦ some ⟨script, 0⟩
  | .privateKey, v | .publicKey, v | .loginUser, v | .loginPrivateKey, v | .keyPair, v
  | .subnetId, v => (text v).good?.map some
  | .userMetadata, v => (dict text v).good?
  | .includeMetadata, v | .noKeyPair, v | .monitoringEnabled, v => (flag v).good?
  | .domainName, v => (text v).good?
  | .securityGroups, v | .securityGroupIds, v => (list text v).good?.map distinct
  | .userData, v => (text v).good?.map fun s ↦ some (Text.Utf8.encode s)
  | .spotPrice, v => (positive v).good?.map fun amount ↦ some ⟨amount, 0⟩

namespace Spec

/-- What a specification says about a field, if it says anything. Lists, dictionaries and flags that
are not given count as given without a content. -/
def given (s : Spec) (now : Nat) : (f : Field) → Option f.Content
  | .inboundPorts => some (distinct s.inboundPorts)
  | .port => s.blockOnPort.map fun b ↦ some b.port
  | .seconds => s.blockOnPort.map fun b ↦ some b.seconds
  | .runScript => s.runScript.bind fun template ↦
    (Payload.ofTemplate template s.bindings now).toOption.map fun script ↦ some ⟨script, 0⟩
  | .privateKey => s.privateKey.map some
  | .publicKey => s.publicKey.map some
  | .loginUser => s.loginUser.map some
  | .loginPrivateKey => s.loginPrivateKey.map some
  | .userMetadata => some s.userMetadata
  | .includeMetadata => some s.includeMetadata
  | .domainName => s.domainName
  | .securityGroups => some (distinct s.securityGroups)
  | .keyPair => s.keyPair.map some
  | .noKeyPair => some s.noKeyPair
  | .userData => s.userData.map fun data ↦ some (Text.Utf8.encode data)
  | .monitoringEnabled => some s.enableMonitoring
  | .securityGroupIds => some (distinct s.securityGroupIds)
  | .spotPrice => s.spotPrice.map fun amount ↦ some ⟨amount, 0⟩
  | .subnetId => s.subnetId.map some

variable {s : Spec} {now : Nat} {es : List (Value × Value)} {f : Field} {v : Value}

/-- What an entry stands for is what the specification says about its fields. -/
theorem exists_given [Reader] (h : s.Reads es) (hv : find? es (entryOf f) = some v) (hnull : v ≠ .null)
    (hscript : ∀ template ∈ s.runScript, ∃ p, Payload.ofTemplate template s.bindings now =
      .ok p) :
    ∃ x, canonical s.bindings now f v = some x ∧ s.given now f = some x := by
  cases f with
  | inboundPorts => simp [canonical, given, eq_good_of_field h.inboundPorts hv]
  | userMetadata => simp [canonical, given, eq_good_of_field h.userMetadata hv]
  | includeMetadata => simp [canonical, given, eq_good_of_field h.includeMetadata hv]
  | securityGroups => simp [canonical, given, eq_good_of_field h.securityGroups hv]
  | noKeyPair => simp [canonical, given, eq_good_of_field h.noKeyPair hv]
  | monitoringEnabled => simp [canonical, given, eq_good_of_field h.enableMonitoring hv]
  | securityGroupIds => simp [canonical, given, eq_good_of_field h.securityGroupIds hv]
  | port | seconds => exact exists_good?_map_of_field hv hnull h.blockOnPort
  | privateKey => exact exists_good?_map_of_field hv hnull h.privateKey
  | publicKey => exact exists_good?_map_of_field hv hnull h.publicKey
  | loginUser => exact exists_good?_map_of_field hv hnull h.loginUser
  | loginPrivateKey => exact exists_good?_map_of_field hv hnull h.loginPrivateKey
  | keyPair => exact exists_good?_map_of_field hv hnull h.keyPair
  | subnetId => exact exists_good?_map_of_field hv hnull h.subnetId
  | spotPrice => exact exists_good?_map_of_field hv hnull h.spotPrice
  | userData => exact exists_good?_map_of_field hv hnull h.userData
  | domainName =>
    obtain ⟨domain, hdomain, hgiven⟩ := exists_good_of_field h.domainName hv hnull
    simp [canonical, given, hdomain, hgiven]
  | runScript =>
    obtain ⟨template, htemplate, hgiven⟩ := exists_good_of_field h.runScript hv hnull
    obtain ⟨p, hp⟩ := hscript template hgiven
    simp [canonical, given, htemplate, hgiven, hp, Except.toOption]

/-- What a field comes to hold for which there is `x`. Monitoring that the settings ask for is not
switched off. -/
def overlaid (c : Settings) : (f : Field) → f.Content → f.Content
  | .monitoringEnabled, b => b || c.awsEc2.enableMonitoring
  | _, x => x

/-- What a specification says about a field stands against what a provider has filled in. -/
theorem updated_of_given {c : Settings} {x y : f.Content} (hvalid : s.Valid)
    (hgiven : s.given now f = some x) (hy : Provided c f y) : s.updated now f y = overlaid c f x := by
  cases f with
  | inboundPorts | securityGroups | securityGroupIds =>
    obtain rfl := Option.some.inj hgiven
    obtain rfl := hy
    simp only [updated, overlaid]
    split
    · next hnil =>
      rw [hnil]
      rfl
    · rfl
  | userMetadata =>
    obtain rfl := Option.some.inj hgiven
    obtain rfl := hy
    exact Table.putAll_eq_of_prefix hvalid.userMetadata List.nil_prefix
  | includeMetadata | noKeyPair =>
    obtain rfl := Option.some.inj hgiven
    obtain rfl := hy
    exact Bool.or_false _
  | monitoringEnabled =>
    -- What the provider has switched on is not switched off again.
    obtain rfl := Option.some.inj hgiven
    obtain rfl := hy
    rfl
  | runScript =>
    obtain ⟨template, htemplate, hscript⟩ := Option.bind_eq_some_iff.mp hgiven
    obtain ⟨script, hpayload, rfl⟩ := Option.map_eq_some_iff.mp hscript
    rw [ofTemplate_eq] at hpayload
    cases htext : s.scriptText now template with
    | error e =>
      rw [htext] at hpayload
      cases hpayload
    | ok text =>
      rw [htext] at hpayload
      cases hpayload
      simp [updated, overlaid, htemplate, htext, Except.toOption]
  | domainName =>
    simp only [given] at hgiven
    simp [updated, overlaid, hgiven]
  | _ =>
    obtain ⟨a, ha, rfl⟩ := Option.map_eq_some_iff.mp hgiven
    simp [updated, overlaid, ha]

/-- About a field that options of a kind do not have, a specification that fits the kind says
nothing but what is in the field anyway. -/
theorem eq_initial_of_given [Domain.SuffixList] {k : Kind} {x : f.Content} (hfits : s.Fits now k)
    (hkind : ¬k.extends? f.owner = true) (hgiven : s.given now f = some x) : x = f.initial := by
  cases f with
  | domainName =>
    obtain ⟨hk, _⟩ := hfits.domainName x hgiven
    exact absurd (Kind.extends?_softLayer_iff.mpr hk) hkind
  | securityGroups =>
    by_cases hnil : s.securityGroups = []
    · rw [given, hnil] at hgiven
      exact (Option.some.inj hgiven).symm
    · exact absurd (Kind.extends?_ec2_iff.mpr (hfits.securityGroups hnil).1) hkind
  | keyPair =>
    obtain ⟨name, hname, _⟩ := Option.map_eq_some_iff.mp hgiven
    exact absurd (Kind.extends?_ec2_iff.mpr (hfits.keyPair name hname).1) hkind
  | noKeyPair =>
    obtain rfl := Option.some.inj hgiven
    exact Bool.eq_false_iff.mpr fun h ↦
      hkind (Kind.extends?_ec2_iff.mpr (hfits.noKeyPair h).1)
  | userData =>
    obtain ⟨data, hdata, _⟩ := Option.map_eq_some_iff.mp hgiven
    exact absurd (Kind.extends?_ec2_iff.mpr (hfits.userData data hdata).1) hkind
  | monitoringEnabled =>
    obtain rfl := Option.some.inj hgiven
    exact Bool.eq_false_iff.mpr fun h ↦
      hkind (Kind.extends?_awsEc2_iff.mpr (hfits.enableMonitoring h))
  | securityGroupIds =>
    by_cases hnil : s.securityGroupIds = []
    · rw [given, hnil] at hgiven
      exact (Option.some.inj hgiven).symm
    · exact absurd (Kind.extends?_awsEc2_iff.mpr (hfits.securityGroupIds hnil).1) hkind
  | spotPrice =>
    obtain ⟨price, hprice, _⟩ := Option.map_eq_some_iff.mp hgiven
    exact absurd (Kind.extends?_awsEc2_iff.mpr (hfits.spotPrice price hprice)) hkind
  | subnetId =>
    obtain ⟨id, hid, _⟩ := Option.map_eq_some_iff.mp hgiven
    exact absurd (Kind.extends?_awsEc2_iff.mpr (hfits.subnetId id hid).1) hkind
  | _ => exact absurd k.extends?_base hkind

end Spec
end Template
end Provisioning
