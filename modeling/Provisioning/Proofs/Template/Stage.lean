import Provisioning.Proofs.Options.Acceptance
import Provisioning.Proofs.Options.WellFormed
import Provisioning.Proofs.Template.Spec
import Provisioning.Template.Application

/-!
Stages of an application. `Filled` says what options hold after the steps for some of the fields,
and a `Stage` carries this on by the fields that its steps are for, if a condition is met, and fails
otherwise. Stages can be put one after another.
-/

set_option autoImplicit false

namespace Provisioning.Template

open Options (Kind Field Mutation Change Held)
open Provisioning.Action (Leads)

/-! ### Steps -/

namespace Step

variable [Domain.SuffixList]

theorem performAll_append (a b : List Step) :
    performAll (a ++ b) = (do performAll a; performAll b) := by
  induction a with
  | nil => exact (Action.pure_bind () fun _ ↦ performAll b).symm
  | cons s rest ih =>
    rw [List.cons_append, performAll, performAll, ih, Action.bind_assoc]

/-- A step is taken if the options are of the kind that it asks for and the call is accepted. -/
theorem leads {k : Kind} {m : Mutation} {o : Options} {c : Change} {p : Prop}
    (howner : m.setter.owner = k) (hfrozen : o.frozen = false)
    (hcheck : o.kind.extends? k = true → Decides (m.check o).result p c)
    (hwrite : c.write.result o = .ok ()) :
    (on k m).perform.Leads o (o.kind.extends? k = true ∧ p) (c.write.after o) := by
  cases hkind : o.kind.extends? k with
  | true =>
    have hperform := Mutation.perform_leads (howner ▸ hkind) hfrozen (hcheck hkind) hwrite
    have hresult : (on k m).perform.result o = m.perform.result o := by
      simp [perform, on, Action.result_bind, Options.asVariant, Options.tryAs, hkind]
    have hafter : (on k m).perform.after o = m.perform.after o := by
      simp [perform, on, Action.after_bind, Options.asVariant, Options.tryAs, hkind]
    refine Leads.congr ⟨?_, fun hp ↦ ?_⟩ (and_iff_right rfl).symm
    · rw [hresult]
      exact hperform.decides
    · rw [hafter]
      exact hperform.after hp
  | false =>
    refine ⟨⟨fun h ↦ absurd h.1 Bool.false_ne_true, fun _ ↦ ?_⟩,
      fun h ↦ absurd h.1 Bool.false_ne_true⟩
    exact ⟨.mismatch o.kind k, by
      simp [perform, on, Action.result_bind, Options.asVariant, Options.tryAs, hkind]⟩

end Step

namespace Spec

variable [Script.Engine] {s : Spec} {now : Nat} {o o' : Options} {done fs gs : List Field}
  {steps : List Step} {p q : Prop}

/-! ### What fields come to hold -/

/-- The text of a script, filled in with the variables at some time. A variable that goes by the name
of a parameter cannot be handed over. -/
def scriptText (s : Spec) (now : Nat) (script : String) : Except Error String := do
  Variables.without s.bindings ["template", "cls"]
  renderText script s.bindings now

theorem ofTemplate_eq (s : Spec) (now : Nat) (script : String) :
    Payload.ofTemplate script s.bindings now =
      (s.scriptText now script).map fun text ↦ .ofText text Payload.shellScript := by
  unfold Payload.ofTemplate scriptText
  cases Variables.without s.bindings ["template", "cls"] <;> rfl

/-- What a field that held something holds after the application. Fields for which the specification
has nothing are left as they are, and metadata is added to what there is. -/
def updated (s : Spec) (now : Nat) : (f : Field) → f.Content → f.Content
  | .inboundPorts, ports => if s.inboundPorts = [] then ports else distinct s.inboundPorts
  | .port, n => (s.blockOnPort.map Options.Block.port).or n
  | .seconds, n => (s.blockOnPort.map Options.Block.seconds).or n
  | .runScript, script =>
    (s.runScript.bind fun template ↦ (s.scriptText now template).toOption.map fun text ↦
      ⟨.ofText text Payload.shellScript, 0⟩).or script
  | .privateKey, key => s.privateKey.or key
  | .publicKey, key => s.publicKey.or key
  | .loginUser, user => s.loginUser.or user
  | .loginPrivateKey, key => s.loginPrivateKey.or key
  | .userMetadata, entries => entries.putAll s.userMetadata
  | .includeMetadata, b => s.includeMetadata || b
  | .domainName, name => s.domainName.getD name
  | .securityGroups, names => if s.securityGroups = [] then names else distinct s.securityGroups
  | .keyPair, name => s.keyPair.or name
  | .noKeyPair, b => s.noKeyPair || b
  | .userData, data => (s.userData.map Text.Utf8.encode).or data
  | .monitoringEnabled, b => s.enableMonitoring || b
  | .securityGroupIds, ids => if s.securityGroupIds = [] then ids else distinct s.securityGroupIds
  | .spotPrice, price => (s.spotPrice.map fun amount ↦ ⟨amount, 0⟩).or price
  | .subnetId, id => s.subnetId.or id

/-- The options after the steps for the fields in `done`. -/
structure Filled (s : Spec) (now : Nat) (o : Options) (done : List Field) (o' : Options) : Prop where
  kind : o'.kind = o.kind
  frozen : o'.frozen = false
  get? : ∀ f, o'.get? f = (o.get? f).map fun x ↦ if f ∈ done then s.updated now f x else x

theorem filled_nil (hfrozen : o.frozen = false) : Filled s now o [] o := by
  refine ⟨rfl, hfrozen, fun f ↦ ?_⟩
  simp

theorem Filled.set {f : Field} {x : f.Content} (h : Filled s now o done o')
    (hx : ∀ y, o.get? f = some y → s.updated now f y = x) :
    Filled s now o (done ++ [f]) (o'.set f x) := by
  refine ⟨(Options.kind_set o' f x).trans h.kind, (Options.frozen_set o' f x).trans h.frozen,
    fun g ↦ ?_⟩
  by_cases heq : f = g
  · subst heq
    rw [Options.get?_set_self, h.get? f]
    cases hget : o.get? f with
    | none => rfl
    | some y => simp [hx y hget]
  · have hmem : g ∈ done ++ [f] ↔ g ∈ done := by simp [Ne.symm heq]
    rw [Options.get?_set_of_ne heq, h.get? g]
    simp only [hmem]

theorem Filled.skip {f : Field} (h : Filled s now o done o') (hf : ∀ y, s.updated now f y = y) :
    Filled s now o (done ++ [f]) o' := by
  refine ⟨h.kind, h.frozen, fun g ↦ ?_⟩
  rw [h.get? g]
  congr 1
  funext y
  by_cases heq : g = f
  · subst heq
    simp [hf]
  · simp [heq]

theorem Filled.get?_all (h : Filled s now o Field.all o') (f : Field) :
    o'.get? f = (o.get? f).map (s.updated now f) := by
  have hmem : f ∈ Field.all := by cases f <;> decide
  rw [h.get? f]
  simp only [if_pos hmem]

/-! ### Stages -/

variable [Domain.SuffixList]

/-- Steps for the fields `fs`: they are taken if `p` holds, and then fill these fields. -/
def Stage (s : Spec) (now : Nat) (o : Options) (done : List Field) (steps : List Step) (fs : List Field)
    (p : Prop) : Prop :=
  ∀ o', Filled s now o done o' →
    ∃ o'', (Step.performAll steps).Leads o' p o'' ∧ (p → Filled s now o (done ++ fs) o'')

namespace Stage

theorem congr (h : Stage s now o done steps fs p) (hiff : p ↔ q) : Stage s now o done steps fs q := by
  intro o' hfilled
  obtain ⟨o'', hleads, hnext⟩ := h o' hfilled
  exact ⟨o'', hleads.congr hiff, fun hq ↦ hnext (hiff.mpr hq)⟩

theorem append {more : List Step} (h : Stage s now o done steps fs p)
    (hmore : Stage s now o (done ++ fs) more gs q) :
    Stage s now o done (steps ++ more) (fs ++ gs) (p ∧ q) := by
  intro o' hfilled
  obtain ⟨o₁, hleads, hnext⟩ := h o' hfilled
  by_cases hp : p
  · obtain ⟨o₂, hleads₂, hnext₂⟩ := hmore o₁ (hnext hp)
    refine ⟨o₂, ?_, fun ⟨_, hq⟩ ↦ ?_⟩
    · rw [Step.performAll_append]
      exact hleads.bind fun _ ↦ hleads₂
    · rw [← List.append_assoc]
      exact hnext₂ hq
  · refine ⟨o₁, ?_, fun h ↦ absurd h.1 hp⟩
    rw [Step.performAll_append]
    exact hleads.bind fun h ↦ absurd h hp

/-- No step is needed for fields for which there is nothing. -/
theorem skip (h : ∀ f ∈ fs, ∀ y, s.updated now f y = y) : Stage s now o done [] fs True := by
  intro o' hfilled
  refine ⟨o', Leads.pure o', fun _ ↦ ?_⟩
  induction fs generalizing done with
  | nil =>
    rw [List.append_nil]
    exact hfilled
  | cons f fs ih =>
    rw [List.append_cons]
    exact ih (fun g hg ↦ h g (List.mem_cons_of_mem f hg))
      (hfilled.skip (h f List.mem_cons_self))

/-- A single call, which writes a single field. -/
theorem one {k : Kind} {m : Mutation} {c : Change} {f : Field} {x : f.Content}
    (howner : m.setter.owner = k)
    (hcheck : ∀ o', Filled s now o done o' → o.kind.extends? k = true → Decides (m.check o').result p c)
    (hwrite : ∀ o', c.write.run o' = (Options.assign f x).run o') (hx : ∀ y, s.updated now f y = x) :
    Stage s now o done [.on k m] [f] (o.kind.extends? k = true ∧ p) := by
  intro o' hfilled
  have hresult : c.write.result o' = .ok () := by
    rw [Action.result, hwrite o']
    rfl
  have hafter : c.write.after o' = o'.set f x := by
    rw [Action.after, hwrite o']
    rfl
  have hleads :=
    Step.leads howner hfilled.frozen (fun h ↦ hcheck o' hfilled (hfilled.kind ▸ h)) hresult
  rw [hafter, hfilled.kind] at hleads
  refine ⟨o'.set f x, ?_, fun _ ↦ hfilled.set fun y _ ↦ hx y⟩
  exact (hleads.bind fun _ ↦ Leads.pure _).congr (and_iff_left trivial)

/-- A call whose arguments cannot be made. -/
theorem unmade (e : Error) : Stage s now o done [⟨.base, .error e⟩] fs False := by
  intro o' _
  refine ⟨o', ⟨⟨False.elim, fun _ ↦ ⟨e, ?_⟩⟩, False.elim⟩, False.elim⟩
  simp [Step.performAll, Step.perform, Action.result_bind, Options.asVariant, Options.tryAs,
    Options.Kind.extends?_base]

/-- The step of a field that may be left out. -/
theorem stepFor {α : Type} {field : Option α} {step : α → Step} {p : α → Prop}
    (hnone : field = none → ∀ f ∈ fs, ∀ y, s.updated now f y = y)
    (hsome : ∀ a, field = some a → Stage s now o done [step a] fs (p a)) :
    Stage s now o done (stepFor field step) fs (∀ a ∈ field, p a) := by
  cases field with
  | none => exact (skip (hnone rfl)).congr (by simp)
  | some a => exact (hsome a rfl).congr (by simp)

/-- The step of a list that may be empty. -/
theorem stepForAll {α : Type} {items : List α} {step : List α → Step}
    (hnil : items = [] → ∀ f ∈ fs, ∀ y, s.updated now f y = y)
    (hcons : items ≠ [] → Stage s now o done [step items] fs p) :
    Stage s now o done (stepForAll items step) fs (items ≠ [] → p) := by
  cases items with
  | nil => exact (skip (hnil rfl)).congr (by simp)
  | cons a rest => exact (hcons (by simp)).congr (by simp)

/-- A step that may not be asked for. -/
theorem stepIf {wanted : Bool} {step : Step}
    (hfalse : wanted = false → ∀ f ∈ fs, ∀ y, s.updated now f y = y)
    (htrue : wanted = true → Stage s now o done [step] fs p) :
    Stage s now o done (stepIf wanted step) fs (wanted = true → p) := by
  cases wanted with
  | false => exact (skip (hfalse rfl)).congr (by simp)
  | true => exact (htrue rfl).congr (by simp)

/-- A single call that all options take. -/
theorem always {m : Mutation} {c : Change} {f : Field} {x : f.Content}
    (howner : m.setter.owner = .base)
    (hcheck : ∀ o', Filled s now o done o' → Decides (m.check o').result p c)
    (hwrite : ∀ o', c.write.run o' = (Options.assign f x).run o') (hx : ∀ y, s.updated now f y = x) :
    Stage s now o done [.always m] [f] p :=
  (one howner (fun o' h _ ↦ hcheck o' h) hwrite hx).congr (and_iff_right o.kind.extends?_base)

end Stage

end Spec
end Provisioning.Template
