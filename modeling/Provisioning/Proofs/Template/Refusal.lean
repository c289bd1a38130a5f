import Provisioning.Proofs.Options.Refusal
import Provisioning.Proofs.Template.Spec
import Provisioning.Template.Application

/-!
The errors in which an application may end. All its calls are plain, so apart from what a script may
run into they belong to the general family.
-/

set_option autoImplicit false

namespace Provisioning

/-- The errors of templates: of their inheritance, of their fields, and of applying these. -/
inductive Error.OfTemplate : Error → Prop
  | general {e : Error} (h : e.IsGeneral) : OfTemplate e
  | chainNotText : OfTemplate .chainNotText
  | unhashable (kindName : String) : OfTemplate (.unhashable kindName)
  | notMapping : OfTemplate .notMapping
  | invalid (report : Validation.Report) : OfTemplate (.invalid report)
  | callShape : OfTemplate .callShape
  | script (fault : Foreign) : OfTemplate (.script fault)
  | numberTooLong : OfTemplate .numberTooLong

theorem Raises.ofTemplate {α : Type} {r : Except Error α} (h : Raises r Error.IsGeneral) :
    Raises r Error.OfTemplate :=
  h.mono fun _ ↦ .general

theorem Variables.without_raises (vs : Variables) (names : List String) :
    Raises (vs.without names) Error.OfTemplate :=
  .ite (.error .callShape) (.ok ())

theorem Payload.ofTemplate_raises [Script.Engine] (template : String) (bindings : Variables)
    (now : Nat) : Raises (Payload.ofTemplate template bindings now) Error.OfTemplate := by
  have hscript {α : Type} (r : Except Foreign α) :
      Raises (r.mapError .script) Error.OfTemplate := .mapError .script r
  refine (bindings.without_raises _).bind fun _ _ ↦ .map _ ?_
  refine (bindings.without_raises _).bind fun _ _ ↦ (hscript _).bind fun t _ ↦ ?_
  exact (bindings.without_raises _).bind fun _ _ ↦ hscript _

namespace Template

open Options (Kind Mutation)

/-- A step whose call is plain and is one that the kind of options it asks for has. -/
structure Step.IsSound (s : Step) : Prop where
  plain : ∀ m, s.mutation = .ok m → m.IsPlain
  owner : ∀ m, s.mutation = .ok m → m.setter.owner = s.needs
  unmade : Raises s.mutation Error.OfTemplate

/-! ### Steps -/

namespace Step

theorem IsSound.on {k : Kind} {m : Mutation} (howner : m.setter.owner = k) (hplain : m.IsPlain) :
    (Step.on k m).IsSound := by
  refine ⟨?_, ?_, .ok m⟩ <;> rintro _ ⟨⟩
  · exact hplain
  · exact howner

variable [Domain.SuffixList] {s : Step}

theorem result_perform (s : Step) (o : Options) :
    s.perform.result o = o.asVariant s.needs >>= fun _ ↦
      s.mutation >>= fun m ↦ m.perform.result o := by
  simp only [perform, Action.result_bind, Action.result_state, Action.after_state,
    Action.liftM_except, Action.result_ofOutcome, Action.after_ofOutcome, Outcome.result_lift]
  cases o.asVariant s.needs with
  | error e => rfl
  | ok _ => cases s.mutation <;> rfl

theorem IsSound.perform_raises (hs : s.IsSound) (o : Options) :
    Raises (s.perform.result o) Error.OfTemplate := by
  rw [result_perform]
  refine (Options.raises_asVariant o s.needs).ofTemplate.bind fun variant hvariant ↦ ?_
  refine hs.unmade.bind fun m hm ↦ ?_
  have hkind : o.kind.extends? m.setter.owner = true := by
    rw [hs.owner m hm]
    exact (Options.eq_of_asVariant hvariant).1
  exact (Mutation.perform_raises (hs.plain m hm) hkind).ofTemplate

theorem performAll_raises {steps : List Step} (h : ∀ s ∈ steps, s.IsSound) (o : Options) :
    Raises ((performAll steps).result o) Error.OfTemplate := by
  induction steps generalizing o with
  | nil => exact .ok ()
  | cons s rest ih =>
    obtain ⟨hs, hrest⟩ := List.forall_mem_cons.mp h
    rw [performAll, Action.result_bind]
    have hfirst := hs.perform_raises o
    cases hresult : s.perform.result o with
    | error e => exact .error (hfirst e hresult)
    | ok _ => exact ih hrest _

end Step

/-! ### The steps of a specification -/

namespace Spec

theorem isSound_stepFor {α : Type} {field : Option α} {step : α → Step}
    (h : ∀ a, (step a).IsSound) : ∀ s ∈ stepFor field step, s.IsSound := by
  intro s hs
  obtain ⟨a, _, rfl⟩ := Option.map_eq_some_iff.mp (Option.mem_toList.mp hs)
  exact h a

theorem isSound_stepForAll {α : Type} {items : List α} {step : List α → Step}
    (h : (step items).IsSound) : ∀ s ∈ stepForAll items step, s.IsSound := by
  intro s hs
  cases items with
  | nil => cases hs
  | cons a rest => exact List.mem_singleton.mp hs ▸ h

theorem isSound_stepIf {wanted : Bool} {step : Step} (h : step.IsSound) :
    ∀ s ∈ stepIf wanted step, s.IsSound := by
  intro s hs
  cases wanted with
  | false => cases hs
  | true => exact List.mem_singleton.mp hs ▸ h

theorem isSound_scriptStep [Script.Engine] (s : Spec) (now : Nat) (script : String) :
    (s.scriptStep now script).IsSound := by
  refine ⟨?_, ?_, (Payload.ofTemplate_raises script s.bindings now).map _⟩ <;> intro m hm
  all_goals
    simp only [scriptStep] at hm
    cases hpayload : Payload.ofTemplate script s.bindings now <;> rw [hpayload] at hm <;> cases hm
  · exact List.forall_mem_nil _
  · rfl

theorem isWritable_texts (xs : List String) : ∀ v ∈ xs.map Value.text, v.isWritable = true :=
  List.forall_mem_map.mpr fun _ _ ↦ rfl

/-- The ports of a valid specification are small enough to be shown. -/
theorem isWritable_port {n : Nat} (h : n ≤ maxPort) : (Value.int n).isWritable = true := by
  refine Value.isWritable_int_iff.mpr (Nat.lt_of_le_of_lt h ?_)
  decide +kernel

theorem isSound_of_mem_steps [Script.Engine] {s : Spec} (hvalid : s.Valid) (now : Nat) :
    ∀ st ∈ s.steps now, st.IsSound := by
  have hports : ∀ v ∈ s.inboundPorts.map fun (n : Nat) ↦ Value.int n, v.isWritable = true :=
    List.forall_mem_map.mpr fun n hn ↦ isWritable_port (hvalid.inboundPorts n hn)
  simp only [steps, commonSteps, softLayerSteps, ec2Steps, awsSteps, List.forall_mem_append]
  refine ⟨⟨⟨⟨⟨⟨⟨⟨⟨⟨⟨?_, ?_⟩, ?_⟩, ?_⟩, ?_⟩, ?_⟩, ?_⟩, ?_⟩, ?_⟩, ?_⟩, ⟨⟨?_, ?_⟩, ?_⟩, ?_⟩,
    ⟨⟨?_, ?_⟩, ?_⟩, ?_⟩
  · exact isSound_stepForAll (.on rfl hports)
  · intro st hst
    obtain ⟨b, hb, rfl⟩ := Option.map_eq_some_iff.mp (Option.mem_toList.mp hst)
    exact .on rfl ⟨isWritable_port (hvalid.blockOnPort b hb), b.seconds, rfl⟩
  · exact isSound_stepFor (s.isSound_scriptStep now)
  · exact isSound_stepFor fun key ↦ .on rfl ⟨nofun, rfl⟩
  · exact isSound_stepFor fun key ↦ .on rfl ⟨nofun, rfl⟩
  · exact isSound_stepFor fun user ↦ .on rfl (List.forall_mem_singleton.mpr rfl)
  · exact isSound_stepFor fun key ↦ .on rfl ⟨nofun, rfl⟩
  · intro st hst
    obtain ⟨e, _, rfl⟩ := List.mem_map.mp hst
    exact .on rfl (List.forall_mem_cons.mpr ⟨rfl, List.forall_mem_singleton.mpr rfl⟩)
  · exact isSound_stepIf (.on rfl (List.forall_mem_nil _))
  · exact isSound_stepFor fun domain ↦ .on rfl (List.forall_mem_singleton.mpr rfl)
  · exact isSound_stepForAll (.on rfl (isWritable_texts _))
  · exact isSound_stepFor fun keyPair ↦ .on rfl (List.forall_mem_singleton.mpr rfl)
  · exact isSound_stepIf (.on rfl (List.forall_mem_nil _))
  · exact isSound_stepFor fun data ↦ .on rfl (List.forall_mem_nil _)
  · exact isSound_stepIf (.on rfl (List.forall_mem_nil _))
  · exact isSound_stepForAll (.on rfl (isWritable_texts _))
  · exact isSound_stepFor fun price ↦ .on rfl ⟨nofun, rfl⟩
  · exact isSound_stepFor fun id ↦ .on rfl (List.forall_mem_singleton.mpr rfl)

theorem applyTo_raises [Domain.SuffixList] [Script.Engine] {s : Spec} (hvalid : s.Valid)
    (o : Options) (now : Nat) : Raises (s.applyTo o now).2.result Error.OfTemplate :=
  Step.performAll_raises (isSound_of_mem_steps hvalid now) o

end Spec
end Template
end Provisioning
