import Provisioning.Proofs.Options.Refusal
import Provisioning.Provider.Registry

/-!
The defaults of the built-in modules. A new registry can always be started, and all that can go
wrong when one of its modules makes options belongs to the general family.
-/

set_option autoImplicit false

namespace Provisioning.Provider

open Options (Kind Field Mutation Setter)

/-- The fields that built-in modules fill. -/
def layeredFields : List Field :=
  [.domainName, .userData, .monitoringEnabled]

/-- Options that hold nothing but what built-in modules fill. -/
structure Layered (o : Options) : Prop where
  frozen : o.frozen = false
  initial : ∀ f y, f ∉ layeredFields → o.get? f = some y → y = f.initial

theorem Layered.fresh (k : Kind) : Layered (.fresh k) := by
  refine ⟨rfl, fun f y _ hy ↦ ?_⟩
  rw [Options.get?_fresh] at hy
  split at hy
  · exact (Option.some.inj hy).symm
  · cases hy

/-- What a field may hold in the new options of a provider under some settings. -/
def Provided (c : Settings) : (f : Field) → f.Content → Prop
  | .domainName, _ | .userData, _ => True
  | .monitoringEnabled, b => b = c.awsEc2.enableMonitoring
  | f, y => y = f.initial

theorem Layered.provided {c : Settings} {o : Options} (h : Layered o)
    (hmonitoring : ∀ b, o.get? .monitoringEnabled = some b → b = c.awsEc2.enableMonitoring)
    {f : Field} {y : f.Content} (hy : o.get? f = some y) : Provided c f y := by
  cases f with
  | domainName | userData => trivial
  | monitoringEnabled => exact hmonitoring y hy
  | _ => exact h.initial _ y (by decide) hy

/-- Monitoring is a field of Amazon options only. -/
theorem get?_monitoringEnabled_eq_none {o : Options} (h : o.kind ≠ .awsEc2) :
    o.get? .monitoringEnabled = none := by
  rw [← Option.not_isSome_iff_eq_none, Options.isSome_get?]
  exact mt Kind.extends?_awsEc2_iff.mp h

variable [Domain.SuffixList]

namespace Blueprint

theorem layerDomain_raises (settings : Option Settings) (o : Options) :
    Raises (layerDomain settings o).result Error.IsGeneral := by
  rw [layerDomain]
  split
  · exact .ok o
  · next domain _ =>
    split
    · exact .ok o
    · refine .andThen (Options.raises_asVariant o .softLayer) fun variant hvariant ↦ ?_
      obtain ⟨hkind, rfl⟩ := Options.eq_of_asVariant hvariant
      exact Mutation.mutate_raises (m := .domainName (.text domain))
        (List.forall_mem_singleton.mpr rfl) hkind

theorem layerCloudConfig_raises (settings : Option Settings) (o : Options) :
    Raises (layerCloudConfig settings o).result Error.IsGeneral := by
  refine .andThen (Options.raises_asVariant o .awsEc2) fun variant hvariant ↦ ?_
  obtain ⟨hkind, rfl⟩ := Options.eq_of_asVariant hvariant
  have hec2 : variant.kind.extends? .ec2 = true := Kind.extends?_trans hkind rfl
  refine .andThen (Mutation.mutate_raises (List.forall_mem_nil _) hec2) fun withData hdata ↦ ?_
  split
  · refine Mutation.mutate_raises (m := .enableMonitoring) (List.forall_mem_nil _) ?_
    obtain ⟨c, hc, _, rfl⟩ := Mutation.exists_change_of_mutate hdata
    rw [(Mutation.write_frames hc).1]
    exact hkind
  · exact .ok withData

theorem layer_raises {b : Blueprint} (hb : b ∈ builtIn) (settings : Option Settings) (o : Options) :
    Raises (b.layer settings o).result Error.IsGeneral := by
  simp only [builtIn, List.mem_cons, List.not_mem_nil, or_false] at hb
  rcases hb with rfl | rfl | rfl | rfl
  · exact .ok o
  · exact layerDomain_raises settings o
  · exact .ok o
  · exact layerCloudConfig_raises settings o

end Blueprint

namespace Registry

theorem start_new (settings : Option Settings) :
    new.start settings =
      ({ new with modules := Blueprint.builtIn.map fun b ↦ (b.name, ⟨b, settings.getD {}, 0⟩) },
        .ok ()) := rfl

theorem exists_builtIn_of_module? {settings : Option Settings} {name : String} {m : Module}
    (h : (new.start settings).1.module? name = some m) :
    ∃ b ∈ Blueprint.builtIn, m = ⟨b, some (settings.getD {}), 0⟩ := by
  rw [start_new] at h
  obtain ⟨_, _, hmem⟩ := Table.exists_mem_of_get? h
  obtain ⟨b, hb, heq⟩ := List.mem_map.mp hmem
  cases heq
  exact ⟨b, hb, rfl⟩

theorem templateOptions_raises (settings : Option Settings) (name : String) :
    Raises ((new.start settings).1.templateOptions name).result Error.IsGeneral := by
  rw [templateOptions]
  split
  · next m hm =>
    obtain ⟨b, hb, rfl⟩ := exists_builtIn_of_module? hm
    exact Blueprint.layer_raises hb _ _
  · exact .error rfl

end Registry

/-! ### What the modules layer onto new options -/

section Layers

variable {o o' : Options} {m : Mutation}

theorem Layered.mutate (h : Layered o) (hfields : ∀ f ∈ m.setter.fields, f ∈ layeredFields)
    (hmutate : (o.mutate m).result = .ok o') : Layered o' := by
  obtain ⟨c, hc, _, rfl⟩ := Mutation.exists_change_of_mutate hmutate
  obtain ⟨_, hfrozen, hget⟩ := Mutation.write_frames hc
  refine ⟨hfrozen.trans h.frozen, fun f y hf hy ↦ ?_⟩
  rw [hget f (mt (hfields f) hf)] at hy
  exact h.initial f y hf hy

theorem layerDomain_spec {settings : Option Settings}
    (h : (Blueprint.layerDomain settings (.fresh .softLayer)).result = .ok o) :
    Layered o ∧ o.kind = .softLayer := by
  rw [Blueprint.layerDomain] at h
  split at h
  · cases h
    exact ⟨.fresh _, rfl⟩
  · split at h
    · cases h
      exact ⟨.fresh _, rfl⟩
    · obtain ⟨variant, hvariant, hmutate⟩ := Outcome.result_bind_eq_ok_iff.mp h
      obtain ⟨_, rfl⟩ := Options.eq_of_asVariant (o := .fresh .softLayer) (k := .softLayer) hvariant
      refine ⟨(Layered.fresh .softLayer).mutate
        (by simp [Mutation.setter, Setter.fields, layeredFields]) hmutate, ?_⟩
      obtain ⟨c, hc, _, rfl⟩ := Mutation.exists_change_of_mutate hmutate
      exact (Mutation.write_frames hc).1

theorem layerCloudConfig_spec {c : Settings}
    (h : (Blueprint.layerCloudConfig (some c) (.fresh .awsEc2)).result = .ok o) :
    Layered o ∧ o.get? .monitoringEnabled = some c.awsEc2.enableMonitoring := by
  rw [Blueprint.layerCloudConfig] at h
  obtain ⟨variant, hvariant, h⟩ := Outcome.result_bind_eq_ok_iff.mp h
  obtain ⟨_, rfl⟩ := Options.eq_of_asVariant (o := .fresh .awsEc2) (k := .awsEc2) hvariant
  obtain ⟨withData, hdata, h⟩ := Outcome.result_bind_eq_ok_iff.mp h
  have hlayered : Layered withData := (Layered.fresh .awsEc2).mutate
    (by simp [Mutation.setter, Setter.fields, layeredFields]) hdata
  have hmonitoring : withData.get? .monitoringEnabled = some false := by
    obtain ⟨change, hchange, _, rfl⟩ := Mutation.exists_change_of_mutate hdata
    obtain ⟨_, _, hget⟩ := Mutation.write_frames hchange
    exact hget .monitoringEnabled (by simp [Mutation.setter, Setter.fields])
  change (if c.awsEc2.enableMonitoring then withData.mutate .enableMonitoring
    else Outcome.ok withData).result = .ok o at h
  cases henable : c.awsEc2.enableMonitoring with
  | true =>
    rw [henable, if_pos rfl] at h
    refine ⟨hlayered.mutate (by decide) h, ?_⟩
    obtain ⟨change, hchange, _, rfl⟩ := Mutation.exists_change_of_mutate h
    cases hchange
    exact (Options.get?_set_self withData .monitoringEnabled true).trans (by rw [hmonitoring]; rfl)
  | false =>
    rw [henable, if_neg Bool.false_ne_true] at h
    cases h
    exact ⟨hlayered, hmonitoring⟩

/-- The new options of a provider, from a registry that was started with some settings. -/
theorem templateOptions_spec {c : Settings} {name : String}
    (h : ((Registry.new.start (some c)).1.templateOptions name).result = .ok o) :
    o.frozen = false ∧ ∀ f y, o.get? f = some y → Provided c f y := by
  have hnone (hkind : o.kind ≠ .awsEc2) (b : Bool) (hb : o.get? .monitoringEnabled = some b) :
      b = c.awsEc2.enableMonitoring := by
    rw [get?_monitoringEnabled_eq_none hkind] at hb
    cases hb
  have hspec (hlayered : Layered o) (hmonitoring) :
      o.frozen = false ∧ ∀ f y, o.get? f = some y → Provided c f y :=
    ⟨hlayered.frozen, fun _ _ hy ↦ hlayered.provided hmonitoring hy⟩
  rw [Registry.templateOptions] at h
  split at h
  · next m hm =>
    obtain ⟨b, hb, rfl⟩ := Registry.exists_builtIn_of_module? hm
    simp only [Blueprint.builtIn, List.mem_cons, List.not_mem_nil, or_false] at hb
    rcases hb with rfl | rfl | rfl | rfl
    · cases h
      exact hspec (.fresh _) (hnone nofun)
    · obtain ⟨hlayered, hkind⟩ := layerDomain_spec h
      exact hspec hlayered (hnone (by rw [hkind]; decide))
    · cases h
      exact hspec (.fresh _) (hnone nofun)
    · obtain ⟨hlayered, hmonitoring⟩ := layerCloudConfig_spec h
      exact hspec hlayered fun b hb ↦ Option.some.inj (hb.symm.trans hmonitoring)
  · cases h

end Layers

end Provisioning.Provider
