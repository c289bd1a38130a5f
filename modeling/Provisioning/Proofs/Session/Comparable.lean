import Provisioning.Proofs.Options.Congruence
import Provisioning.Proofs.Session.WellFormed

/-!
All options that a program comes to hold can be compared, provided that it hands over sound values
only. Their metadata have every key once, as they are well formed, and the content type of a script
is a text unless it came with a payload that was handed over.
-/

set_option autoImplicit false

namespace Provisioning

open Provisioning.Action
open Options (Field Kind Mutation Pool Setter)

namespace Options

variable {o : Options}

/-- A call that hands over a script hands over a sound one. -/
def Mutation.HandsSound (m : Mutation) : Prop :=
  ∀ script mark, m = .runScript script mark → script.IsSound

variable [Domain.SuffixList]

/-- Well-formed options whose script, if they have one, has a sound content type. -/
structure IsSound (o : Options) : Prop where
  wellFormed : o.WellFormed
  script : ∀ script, o.get? .runScript = some (some script) → script.value.contentType.IsSound

theorem WellFormed.beq_iff {p : Options} (ho : o.WellFormed) (hp : p.WellFormed) :
    (o == p) = true ↔ o.Agrees p :=
  beq_iff_agrees (ho.admits .userMetadata _ rfl).1 (hp.admits .userMetadata _ rfl).1

theorem Pool.All.wellFormed {p : Pool} (hp : p.All IsSound) : p.WellFormed :=
  fun o ho ↦ (hp o ho).wellFormed

theorem IsSound.comparable (h : o.IsSound) : o.Comparable := by
  intro f x hx
  cases f with
  | runScript =>
    rintro script ⟨⟩
    exact h.script script hx
  | userMetadata => exact (h.wellFormed.admits .userMetadata x hx).1
  | _ => trivial

theorem isSound_fresh (hdefault : Domain.hasPublicSuffix defaultDomain = true) (k : Kind) :
    (fresh k).IsSound :=
  ⟨wellFormed_fresh hdefault k, nofun⟩

theorem IsSound.withFrozen (h : o.IsSound) (frozen : Bool) :
    ({ o with frozen := frozen } : Options).IsSound := by
  refine ⟨h.wellFormed.withFrozen frozen, fun script hscript ↦ h.script script ?_⟩
  exact (get?_withFrozen o frozen .runScript).symm.trans hscript

theorem Mutation.perform_isSound {m : Mutation} (hm : m.HandsSound) :
    m.perform.Preserves IsSound := by
  intro o ho
  refine ⟨m.perform_preserves o ho.wellFormed, ?_⟩
  rcases m.perform_cases o with ⟨_, _, hsame⟩ | ⟨c, hcheck, _, _, _, hafter⟩
  · rw [hsame]
    exact ho.script
  rw [hafter]
  by_cases hsetter : m.setter = .runScript
  · cases m with
    | runScript value mark =>
      obtain ⟨payload, hpayload, rfl⟩ := Outcome.exists_of_return hcheck
      rintro script ⟨⟩
      rcases checkScript_cases hpayload with rfl | ⟨s, hs⟩
      · cases hm _ mark rfl with
        | payload hcontent => exact hcontent
        | atom hatom => cases hatom
      · exact hs ▸ .atom rfl
    | _ => cases hsetter
  · have hfree : Field.runScript ∉ m.setter.fields := by
      revert hsetter
      cases m.setter <;> decide
    intro script hscript
    exact ho.script script (((write_frames hcheck).2.2 .runScript hfree).symm.trans hscript)

theorem IsSound.copy {s t : Options} (hs : s.IsSound) (ht : t.IsSound) :
    (s.copy.after t).IsSound := by
  refine ⟨hs.wellFormed.copy ht.wellFormed, ?_⟩
  have hdomain := hs.wellFormed.admits .domainName
  cases hfrozen : t.frozen with
  | true =>
    rw [(copy_frozen s hfrozen).2]
    exact ht.script
  | false =>
    obtain ⟨_, hcopied⟩ := copy_spec hdomain hfrozen
    intro script hscript
    rw [hcopied.get? .runScript] at hscript
    split at hscript
    · exact hs.script script hscript
    · exact ht.script script hscript

theorem stable_isSound : Pool.Stable IsSound := by
  refine ⟨fun o ho ↦ ho.withFrozen true, fun s c hs hc ↦ ?_, fun s t hs ht ↦ hs.copy ht⟩
  have hclone := clone_spec fun name ↦ hs.wellFormed.admits .domainName name
  obtain rfl : { s with frozen := false } = c := Except.ok.inj (hclone.symm.trans hc)
  exact hs.withFrozen false

end Options

/-- The script that a specification hands over is a shell script. -/
theorem Template.Spec.handsSound [Script.Engine] {s : Spec} {now : Nat} {st : Step}
    (hst : st ∈ s.steps now) {m : Mutation} (hm : st.mutation = .ok m) : m.HandsSound := by
  rintro v mark rfl
  obtain ⟨k, mutation⟩ := st
  cases hm
  obtain ⟨script, -, hstep⟩ : ∃ script, s.runScript = some script ∧
      s.scriptStep now script = ⟨k, .ok (.runScript v mark)⟩ := by
    simpa [steps, commonSteps, softLayerSteps, ec2Steps, awsSteps, stepFor, stepForAll, stepIf,
      Step.always, Step.on] using hst
  have hmade := congrArg Step.mutation hstep
  simp only [scriptStep] at hmade
  cases hpayload : Payload.ofTemplate script s.bindings now with
  | error e =>
    rw [hpayload] at hmade
    cases hmade
  | ok payload =>
    rw [hpayload] at hmade
    cases hmade
    obtain ⟨_, _, hrest⟩ := bind_eq_ok_iff.mp hpayload
    obtain ⟨text, _, htext⟩ := bind_eq_ok_iff.mp hrest
    cases htext
    exact .payload (.atom rfl)

namespace Session

/-- An operation that hands over sound values only. -/
def Operation.IsSound : Operation → Prop
  | .step (.call _ _ arguments) | .shortcut _ _ arguments => ∀ v ∈ arguments.values, v.IsSound
  | _ => True

theorem Operation.IsSound.of_makes [Script.Engine] {operation : Operation}
    (h : operation.IsSound) {m : Mutation} (hm : operation.Makes m) : m.HandsSound := by
  rintro script mark rfl
  have hcall {setter : Setter} {arguments : Arguments Value}
      (hvalues : ∀ v ∈ arguments.values, v.IsSound)
      (hmade : ∃ mark', setter.mutation? arguments mark' = some (.runScript script mark)) :
      script.IsSound := by
    obtain ⟨mark', hmade⟩ := hmade
    obtain rfl := Setter.setter_of_mutation? hmade
    obtain ⟨_, hscript, heq⟩ := Option.map_eq_some_iff.mp hmade
    cases heq
    exact hvalues script (Arguments.mem_values_of_only? hscript)
  cases operation with
  | step s =>
    cases s with
    | call target setter arguments => exact hcall h hm
    | _ => cases hm
  | create kind => cases hm
  | shortcut kind setter arguments => exact hcall h hm
  | provide provider settings =>
    have hlayered : Setter.runScript ∈ Provider.Blueprint.layered := hm
    exact absurd hlayered (by decide)
  | apply place spec =>
    obtain ⟨_, st, hst, hmade⟩ := hm
    exact Template.Spec.handsSound hst hmade script mark rfl

section Programs

variable [Domain.SuffixList] [Script.Engine]

/-- Options that some program comes to hold which hands over sound values only. -/
def Reached (o : Options) : Prop :=
  ∃ operations : List Operation, (∀ operation ∈ operations, operation.IsSound) ∧
    o ∈ (run start operations).objects

/-- Operations that hand over sound values only leave sound options, if they were sound to begin
with. -/
theorem isSound_run (hdefault : Domain.publicSuffix Options.defaultDomain ≠ "")
    {operations : List Operation} (hsound : ∀ operation ∈ operations, operation.IsSound) {p : Pool}
    (hp : p.All Options.IsSound) : (run p operations).All Options.IsSound := by
  have hfresh := Options.isSound_fresh (Pool.hasPublicSuffix_defaultDomain hdefault)
  refine run_preserves (fun operation hmem ↦ ?_) (fun _ h ↦ h) hp
  refine operation.perform_preserves_all Options.stable_isSound hfresh fun m hm ↦ ?_
  exact Mutation.perform_isSound ((hsound operation hmem).of_makes hm)

theorem Reached.isSound {o : Options} (h : Reached o)
    (hdefault : Domain.publicSuffix Options.defaultDomain ≠ "") : o.IsSound := by
  obtain ⟨operations, hsound, ho⟩ := h
  refine isSound_run hdefault hsound (fun o ho ↦ ?_) o ho
  obtain ⟨k, _, rfl⟩ := List.mem_map.mp ho
  have hdomain := Pool.hasPublicSuffix_defaultDomain hdefault
  exact (Options.isSound_fresh hdomain k).withFrozen true

end Programs
end Session
end Provisioning
