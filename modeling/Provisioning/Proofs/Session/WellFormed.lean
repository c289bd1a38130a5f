import Provisioning.Proofs.Options.Pool
import Provisioning.Proofs.Options.Refusal
import Provisioning.Session

/-!
Whatever a program does, all its options are well formed. Each operation leaves them so: a shortcut
makes one call on new options, a module and a specification make several calls, and every call
writes nothing but what its checks have let through.
-/

set_option autoImplicit false

namespace Provisioning

open Provisioning.Action
open Options (Kind Mutation Pool Setter Shortcut)

theorem Options.Shortcut.eq_of_make {kind : Kind} {member : String} {s : Shortcut}
    (h : Shortcut.make kind member = .ok s) : s = ⟨kind, member⟩ := by
  rw [make] at h
  split at h <;> cases h
  rfl

variable [Domain.SuffixList] {o o' : Options}

/-! ### Calls in a row -/

theorem Options.Mutation.perform_preserves (m : Mutation) :
    m.perform.Preserves Options.WellFormed := by
  intro o ho
  rcases m.perform_cases o with ⟨_, _, hsame⟩ | ⟨c, hcheck, _, _, _, hafter⟩
  · rwa [hsame]
  · rw [hafter]
    exact ho.write (Mutation.fits_of_check hcheck)

/-- The steps of a specification preserve what the calls that they make preserve. -/
theorem Template.Step.performAll_preserves {P : Options → Prop} {steps : List Step}
    (hP : ∀ s ∈ steps, ∀ m, s.mutation = .ok m → m.perform.Preserves P) :
    (performAll steps).Preserves P := by
  induction steps with
  | nil => exact (readsOnly_ofOutcome (.ok ())).preserves _
  | cons s rest ih =>
    obtain ⟨hs, hrest⟩ := List.forall_mem_cons.mp hP
    refine Preserves.bind ?_ fun _ ↦ ih hrest
    refine (readsOnly_state.preserves _).bind fun o ↦ ?_
    refine ((readsOnly_ofOutcome _).preserves _).bind fun _ ↦ ?_
    exact ofOutcome_bind_preserves fun m hm ↦ hs m (by simpa using hm)

/-! ### Options of modules -/

namespace Provider.Blueprint

/-- The setters of the defaults that modules layer onto new options. -/
def layered : List Setter :=
  [.domainName, .userData, .enableMonitoring]

variable {settings : Option Settings} {P : Options → Prop}

theorem layerDomain_preserves (hP : ∀ m : Mutation, m.setter ∈ layered → m.perform.Preserves P)
    (ho : P o) (h : (layerDomain settings o).result = .ok o') : P o' := by
  rw [layerDomain] at h
  split at h
  · cases h
    exact ho
  · split at h
    · cases h
      exact ho
    · obtain ⟨variant, hvariant, hmutate⟩ := Outcome.result_bind_eq_ok_iff.mp h
      obtain ⟨_, rfl⟩ := Options.eq_of_asVariant hvariant
      exact Mutation.of_mutate (hP _ (by simp [layered, Mutation.setter])) ho hmutate

theorem layerCloudConfig_preserves
    (hP : ∀ m : Mutation, m.setter ∈ layered → m.perform.Preserves P) (ho : P o)
    (h : (layerCloudConfig settings o).result = .ok o') : P o' := by
  rw [layerCloudConfig] at h
  obtain ⟨variant, hvariant, hrest⟩ := Outcome.result_bind_eq_ok_iff.mp h
  obtain ⟨_, rfl⟩ := Options.eq_of_asVariant hvariant
  obtain ⟨withData, hdata, hlast⟩ := Outcome.result_bind_eq_ok_iff.mp hrest
  have hkept : P withData := Mutation.of_mutate (hP _ (by simp [layered, Mutation.setter])) ho hdata
  split at hlast
  · exact Mutation.of_mutate (hP _ (by simp [layered, Mutation.setter])) hkept hlast
  · cases hlast
    exact hkept

/-- The options of a module have what new options have and its defaults preserve. -/
theorem layer_preserves {b : Blueprint} (hb : b ∈ builtIn)
    (hP : ∀ m : Mutation, m.setter ∈ layered → m.perform.Preserves P) (ho : P o)
    (h : (b.layer settings o).result = .ok o') : P o' := by
  simp only [builtIn, List.mem_cons, List.not_mem_nil, or_false] at hb
  rcases hb with rfl | rfl | rfl | rfl
  · cases h
    exact ho
  · exact layerDomain_preserves hP ho h
  · cases h
    exact ho
  · exact layerCloudConfig_preserves hP ho h

end Provider.Blueprint

/-! ### Shortcuts -/

/-- A shortcut to a setter answers new options after the call. -/
theorem Options.Shortcut.exists_of_call {kind : Kind} {s : Setter} {a : Arguments Value} {mark : Nat}
    {answer : Options.Answer}
    (h : ((⟨kind, s.label⟩ : Shortcut).call a mark).result = .ok answer) :
    answer = .options ((invoke s.label a mark).after (.fresh kind)) := by
  obtain ⟨⟨o, inner⟩, hcall, h⟩ := Outcome.result_bind_eq_ok_iff.mp h
  rw [Options.call, result_settle] at hcall
  obtain ⟨_, hresult, hpair⟩ := bind_eq_ok_iff.mp hcall
  cases hpair
  rcases invoke_cases s a mark (.fresh kind) with ⟨e, he, _⟩ | ⟨_, _, _, _, _, hok, _⟩
  · rw [he] at hresult
    cases hresult
  · rw [hok] at hresult
    cases hresult
    cases h
    rfl

/-! ### Operations -/

namespace Session

omit [Domain.SuffixList] in
theorem hand_preserves {P : Options → Prop} (ho : P o) : (hand o).Preserves (Pool.All P) :=
  (Pool.add_preserves ho).bind fun _ ↦ (readsOnly_ofOutcome _).preserves _

variable [Script.Engine]

/-- The calls that an operation may make, apart from those that belong to copying. -/
def Operation.Makes : Operation → Mutation → Prop
  | .step (.call _ setter arguments), m | .shortcut _ setter arguments, m =>
    ∃ mark, setter.mutation? arguments mark = some m
  | .provide _ _, m => m.setter ∈ Provider.Blueprint.layered
  | .apply _ spec, m => ∃ now, ∃ s ∈ spec.steps now, s.mutation = .ok m
  | .step _, _ | .create _, _ => False

/-- An operation preserves a stable property of all options that new options have and that the calls
which the operation may make preserve. -/
theorem Operation.perform_preserves_all {P : Options → Prop} (hP : Pool.Stable P)
    (hfresh : ∀ k, P (.fresh k)) (operation : Operation)
    (hmakes : ∀ m, operation.Makes m → m.perform.Preserves P) :
    operation.perform.Preserves (Pool.All P) := by
  cases operation with
  | step s =>
    refine s.perform_preserves_all hP ?_
    rintro target setter arguments rfl mark
    exact Options.invoke_preserves fun m hm ↦ hmakes m ⟨mark, hm⟩
  | create kind => exact hand_preserves (hfresh kind)
  | shortcut kind setter arguments =>
    refine (readsOnly_state.preserves _).bind fun p ↦ ?_
    refine ofOutcome_bind_preserves fun s hs ↦ ?_
    obtain rfl := Shortcut.eq_of_make hs
    refine ofOutcome_bind_preserves fun answer hanswer ↦ ?_
    obtain rfl := Shortcut.exists_of_call hanswer
    exact hand_preserves
      (Options.invoke_preserves (fun m hm ↦ hmakes m ⟨p.clock, hm⟩) _ (hfresh kind))
  | provide provider settings =>
    simp only [perform]
    split
    · exact (readsOnly_ofOutcome _).preserves _
    · next b hb =>
      refine ofOutcome_bind_preserves fun o ho ↦ hand_preserves ?_
      exact Provider.Blueprint.layer_preserves (List.mem_of_find?_eq_some hb) hmakes (hfresh b.kind)
        ho
  | apply place spec =>
    refine (readsOnly_state.preserves _).bind fun p ↦ Pool.act_preserves ?_ place
    refine .bind (Template.Step.performAll_preserves fun s hs m hm ↦
      hmakes m ⟨p.clock, s, hs, hm⟩) fun _ ↦ ?_
    exact (readsOnly_ofOutcome _).preserves _

theorem Operation.perform_preserves (hdefault : Domain.hasPublicSuffix Options.defaultDomain = true)
    (operation : Operation) : operation.perform.Preserves Pool.WellFormed :=
  operation.perform_preserves_all Pool.stable_wellFormed (Options.wellFormed_fresh hdefault)
    fun m _ ↦ m.perform_preserves

/-- A run preserves what its operations and the clock preserve. -/
theorem run_preserves {P : Pool → Prop} {operations : List Operation}
    (hP : ∀ operation ∈ operations, operation.perform.Preserves P)
    (htick : ∀ p, P p → P p.tick) {p : Pool} (hp : P p) : P (Session.run p operations) := by
  induction operations generalizing p with
  | nil => exact hp
  | cons operation rest ih =>
    obtain ⟨hfirst, hrest⟩ := List.forall_mem_cons.mp hP
    exact ih hrest (htick _ (hfirst p hp))

/-- Whatever a program does, and whether or not some of it fails, all its options are well formed. -/
theorem wellFormed_run (hdefault : Domain.publicSuffix Options.defaultDomain ≠ "")
    (operations : List Operation) : (Session.run start operations).WellFormed := by
  have hdomain := Pool.hasPublicSuffix_defaultDomain hdefault
  refine run_preserves (fun operation _ ↦ operation.perform_preserves hdomain) (fun _ hp ↦ hp) ?_
  intro o ho
  simp only [start, List.mem_map] at ho
  obtain ⟨k, _, rfl⟩ := ho
  exact (Options.wellFormed_fresh hdomain k).withFrozen true

end Session
end Provisioning
