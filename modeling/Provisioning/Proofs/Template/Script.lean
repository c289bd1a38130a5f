import Provisioning.Proofs.Script.Scope
import Provisioning.Proofs.Template.Refusal
import Provisioning.Proofs.Template.Stage

/-!
Which names the variables of a script may have. On their way to the rendering the variables are
handed over by name, next to parameters: a variable that goes by the name of one of these parameters
cannot be handed over, whether or not the script mentions it. All other variables arrive, and then a
script depends on them only through its rendering.
-/

set_option autoImplicit false

namespace Provisioning

/-! ### Names of variables -/

namespace Variables

variable {vs others : Variables} {names : List String}

/-- The names of the parameters next to which variables are handed over to be rendered. -/
def renderParameters : List String :=
  ["template_str", "self"]

/-- The names of the parameters next to which the variables of a script are handed over. -/
def scriptParameters : List String :=
  ["template", "cls"] ++ renderParameters

/-- No variable goes by one of the names. -/
def Avoid (vs : Variables) (names : List String) : Prop :=
  ∀ name ∈ names, name ∉ Table.keys vs

instance : Decidable (vs.Avoid names) :=
  inferInstanceAs (Decidable (∀ name ∈ names, name ∉ Table.keys vs))

/-- Each name has the same value, or none, among both. -/
def Agree (vs others : Variables) : Prop :=
  ∀ name, Table.get? vs name = Table.get? others name

theorem avoid_append (names more : List String) :
    vs.Avoid (names ++ more) ↔ vs.Avoid names ∧ vs.Avoid more := by
  simp only [Avoid, List.mem_append, or_imp, forall_and]

theorem Agree.avoid_iff (h : vs.Agree others) : vs.Avoid names ↔ others.Avoid names := by
  have hkeys (name : String) : name ∈ Table.keys vs ↔ name ∈ Table.keys others := by
    rw [← Table.exists_get?_iff, ← Table.exists_get?_iff, h name]
  simp only [Avoid, hkeys]

theorem without_eq (vs : Variables) (names : List String) :
    vs.without names = if vs.Avoid names then .ok () else .error .callShape := by
  have hiff : (vs.any fun v ↦ names.contains v.1) = true ↔ ¬vs.Avoid names := by
    simp only [Avoid, Table.keys, List.any_eq_true, List.contains_iff_mem, List.mem_map, not_forall,
      not_not]
    constructor
    · rintro ⟨v, hv, hname⟩
      exact ⟨v.1, hname, v, hv, rfl⟩
    · rintro ⟨_, hname, v, hv, rfl⟩
      exact ⟨v, hv, hname⟩
  rw [without, ite_congr (propext hiff) (fun _ ↦ rfl) (fun _ ↦ rfl), ite_not]

end Variables

open Variables (Avoid Agree renderParameters scriptParameters)

/-! ### Rendering -/

section Rendering

variable [Script.Engine] {template : String} {vs : Variables} {now : Nat}

/-- The text that a template gives at some time with the variables. -/
def Script.render (template : String) (vs : Variables) (now : Nat) : Except Foreign String := do
  let t ← Engine.read template
  Engine.fill now t vs

/-- Variables with other names than the parameters all arrive. -/
theorem renderText_of_avoid (h : vs.Avoid renderParameters) :
    renderText template vs now = (Script.render template vs now).mapError .script := by
  have h := (Variables.avoid_append ["template_str"] ["self"]).mp h
  rw [renderText, Variables.without_eq, if_pos h.1, Variables.without_eq, if_pos h.2,
    Script.render]
  cases Script.Engine.read template <;> rfl

/-- A variable that goes by the name of a parameter stands in the way, even of a text that there
would be without it. -/
theorem renderText_of_not_avoid (template : String) (now : Nat) (h : ¬vs.Avoid renderParameters) :
    ∃ e, renderText template vs now = .error e ∧
      ∀ text, Script.render template vs now = .ok text → e = .callShape := by
  rw [renderText, Variables.without_eq]
  by_cases hfirst : vs.Avoid ["template_str"]
  · have hlast : ¬vs.Avoid ["self"] :=
      fun hlast ↦ h ((Variables.avoid_append _ _).mpr ⟨hfirst, hlast⟩)
    rw [if_pos hfirst, Variables.without_eq, if_neg hlast, Script.render]
    cases Script.Engine.read template with
    | error f => exact ⟨.script f, rfl, nofun⟩
    | ok t => exact ⟨.callShape, rfl, fun _ _ ↦ rfl⟩
  · rw [if_neg hfirst]
    exact ⟨.callShape, rfl, fun _ _ ↦ rfl⟩

theorem Payload.ofTemplate_of_avoid (h : vs.Avoid scriptParameters) :
    Payload.ofTemplate template vs now =
      ((Script.render template vs now).map fun text ↦ .ofText text shellScript).mapError
        .script := by
  have h := (Variables.avoid_append ["template", "cls"] renderParameters).mp h
  rw [ofTemplate, Variables.without_eq, if_pos h.1, renderText_of_avoid h.2]
  cases Script.render template vs now <;> rfl

theorem Payload.ofTemplate_of_not_avoid (template : String) (now : Nat)
    (h : ¬vs.Avoid scriptParameters) :
    ∃ e, Payload.ofTemplate template vs now = .error e ∧
      ∀ text, Script.render template vs now = .ok text → e = .callShape := by
  rw [ofTemplate, Variables.without_eq]
  by_cases hfirst : vs.Avoid ["template", "cls"]
  · have hlast : ¬vs.Avoid renderParameters :=
      fun hlast ↦ h ((Variables.avoid_append _ _).mpr ⟨hfirst, hlast⟩)
    obtain ⟨e, htext, hshape⟩ := renderText_of_not_avoid template now hlast
    rw [if_pos hfirst, htext]
    exact ⟨e, rfl, hshape⟩
  · rw [if_neg hfirst]
    exact ⟨.callShape, rfl, fun _ _ ↦ rfl⟩

end Rendering

section Agreement

variable [Script.Engine] [Script.LawfulEngine] {template : String} {vs others : Variables}
  {now : Nat}

theorem Script.render_congr (h : vs.Agree others) :
    render template vs now = render template others now := by
  rw [render, render]
  simp only [LawfulEngine.fill_congr now _ h]

/-- A payload depends on nothing but which value each name has. -/
theorem Payload.ofTemplate_congr (h : vs.Agree others) :
    Payload.ofTemplate template vs now = Payload.ofTemplate template others now := by
  simp only [ofTemplate, renderText, Variables.without_eq, h.avoid_iff,
    Script.LawfulEngine.fill_congr now _ h]

end Agreement

namespace Template

open Options (Mutation)
open Provisioning.Action (Atomic Leads)

variable {o : Options}

/-! ### Steps -/

namespace Step

variable [Domain.SuffixList] {st : Step} {steps : List Step} {e : Error}

/-- A step that fails leaves the options as they were. -/
theorem perform_atomic (st : Step) : st.perform.Atomic :=
  Action.readsOnly_state.bind_atomic fun _ ↦
    (Action.readsOnly_ofOutcome _).bind_atomic fun _ ↦
      (Action.readsOnly_ofOutcome _).bind_atomic Mutation.perform_atomic

/-- What a step can do: it fails, or its call is made on options that are not frozen. -/
theorem perform_cases (st : Step) (o : Options) :
    (∃ e, st.perform.result o = .error e) ∨
      o.frozen = false ∧ ∃ m, st.mutation = .ok m ∧ st.perform.result o = .ok () := by
  rw [result_perform]
  cases o.asVariant st.needs with
  | error e => exact .inl ⟨e, rfl⟩
  | ok _ =>
    cases hm : st.mutation with
    | error e => exact .inl ⟨e, rfl⟩
    | ok m =>
      rcases m.perform_cases o with ⟨e, he, _⟩ | ⟨_, _, hfrozen, _, hok, _⟩
      · exact .inl ⟨e, he⟩
      · exact .inr ⟨hfrozen, m, rfl, hok⟩

/-- No application gets past a step whose call cannot be made. -/
theorem exists_error_of_unmade (hmem : st ∈ steps) (h : st.mutation = .error e) (o : Options) :
    ∃ e, (performAll steps).result o = .error e := by
  -- The steps before it may fail as well, then with an error of their own.
  induction steps generalizing o with
  | nil => cases hmem
  | cons first rest ih =>
    rw [performAll, Action.result_bind]
    rcases first.perform_cases o with ⟨e, he⟩ | ⟨_, m, hm, hok⟩
    · exact ⟨e, by rw [he]⟩
    · rcases List.mem_cons.mp hmem with rfl | hmem
      · rw [h] at hm
        cases hm
      · rw [hok]
        exact ih hmem _

end Step

namespace Spec

variable {s : Spec} {script text : String} {now : Nat}

section Steps

variable [Script.Engine]

theorem mem_steps_of_runScript (h : s.runScript = some script) :
    s.scriptStep now script ∈ s.steps now := by
  simp [steps, commonSteps, stepFor, h]

/-- The steps depend on the variables and on the time only through the payload of the script. -/
theorem steps_congr {vs : Variables} {later : Nat}
    (h : ∀ script ∈ s.runScript,
      Payload.ofTemplate script vs later = Payload.ofTemplate script s.bindings now) :
    { s with bindings := vs }.steps later = s.steps now := by
  have hsteps : stepFor s.runScript ({ s with bindings := vs }.scriptStep later) =
      stepFor s.runScript (s.scriptStep now) := by
    cases hscript : s.runScript with
    | none => rfl
    | some script => simp only [stepFor, Option.map, scriptStep, h script hscript]
  have hcommon : { s with bindings := vs }.commonSteps later = s.commonSteps now := by
    rw [commonSteps, commonSteps, ← hsteps]
  rw [steps, steps, hcommon]
  rfl

end Steps

section Application

variable [Domain.SuffixList] [Script.Engine]

theorem scriptStep_leads (h : Avoid s.bindings scriptParameters)
    (hrender : Script.render script s.bindings now = .ok text) :
    (s.scriptStep now script).perform.Leads o (text ≠ "" ∧ o.frozen = false)
      (o.set .runScript (some ⟨⟨Text.Utf8.encode text, Payload.shellScript⟩, 0⟩)) := by
  have hstep : s.scriptStep now script =
      .always (.runScript (Payload.ofText text Payload.shellScript).toValue 0) := by
    rw [scriptStep, Payload.ofTemplate_of_avoid h, hrender]
    rfl
  cases hfrozen : o.frozen with
  | true =>
    have hnot : ¬(text ≠ "" ∧ true = false) := by simp
    refine ⟨⟨fun h ↦ absurd h hnot, fun _ ↦ ?_⟩, fun h ↦ absurd h hnot⟩
    rcases (s.scriptStep now script).perform_cases o with herror | ⟨hmutable, _⟩
    · exact herror
    · rw [hfrozen] at hmutable
      cases hmutable
  | false =>
    rw [hstep]
    have hleads := Step.leads (k := .base)
      (m := .runScript (Payload.ofText text Payload.shellScript).toValue 0)
      (c := .runScript (.ofText text Payload.shellScript) 0) rfl hfrozen
      (fun _ ↦ (Options.decides_checkScript text Payload.shellScript).outcome
        fun script ↦ Options.Change.runScript script 0) rfl
    exact hleads.congr (by simp [Options.Kind.extends?_base])

/-- An application depends on the variables and on the time only through the payload of the script.
-/
theorem applyTo_congr {vs : Variables} {later : Nat}
    (h : ∀ script ∈ s.runScript,
      Payload.ofTemplate script vs later = Payload.ofTemplate script s.bindings now) :
    { s with bindings := vs }.applyTo o later = s.applyTo o now := by
  rw [applyTo, applyTo, steps_congr h]

theorem result_scriptStep_of_error {e : Error}
    (h : Payload.ofTemplate script s.bindings now = .error e) :
    (s.scriptStep now script).perform.result o = .error e := by
  rw [Step.result_perform, scriptStep, h]
  simp [Options.asVariant, Options.tryAs, Options.Kind.extends?_base, Except.map, bind, Except.bind]

/-- A specification whose one step is its script sets the text that the script gives. -/
theorem applyTo_of_script (hsteps : s.steps now = [s.scriptStep now script])
    (havoid : Avoid s.bindings scriptParameters)
    (hrender : Script.render script s.bindings now = .ok text) (hne : text ≠ "")
    (hfrozen : o.frozen = false) :
    (s.applyTo o now).2.result = .ok () ∧
      (s.applyTo o now).1 =
        o.set .runScript (some ⟨⟨Text.Utf8.encode text, Payload.shellScript⟩, 0⟩) := by
  have hleads := (scriptStep_leads (o := o) havoid hrender).bind fun _ ↦ Leads.pure _
  rw [applyTo, hsteps]
  exact ⟨hleads.decides.ok ⟨⟨hne, hfrozen⟩, trivial⟩, hleads.after ⟨⟨hne, hfrozen⟩, trivial⟩⟩

/-- A specification whose one step is its script fails if the script has no text. -/
theorem result_applyTo_of_script {f : Foreign} (hsteps : s.steps now = [s.scriptStep now script])
    (havoid : Avoid s.bindings scriptParameters)
    (hrender : Script.render script s.bindings now = .error f) (o : Options) :
    (s.applyTo o now).2.result = .error (.script f) := by
  have hpayload : Payload.ofTemplate script s.bindings now = .error (.script f) := by
    rw [Payload.ofTemplate_of_avoid havoid, hrender]
    rfl
  rw [applyTo, hsteps]
  change (Step.performAll [_]).result o = _
  rw [Step.performAll, Action.result_bind, result_scriptStep_of_error hpayload]

end Application

section Handover

variable [Domain.SuffixList] [Script.Engine] [Script.LawfulEngine]

/-- What becomes of a script and its variables on the way into options. -/
structure HandsOver (s : Spec) (script : String) (o : Options) (now : Nat) : Prop where
  /-- Variables that avoid the parameters next to which a template is rendered are all there is to
  its text. -/
  text : Avoid s.bindings renderParameters →
    renderText script s.bindings now = (Script.render script s.bindings now).mapError .script
  /-- Any other variables cannot be handed over, although there may be a text. -/
  noText : ¬Avoid s.bindings renderParameters →
    ∃ e, renderText script s.bindings now = .error e ∧
      ∀ text, Script.render script s.bindings now = .ok text → e = .callShape
  /-- The same holds of payloads, with two parameters more. -/
  payload : Avoid s.bindings scriptParameters →
    Payload.ofTemplate script s.bindings now =
      ((Script.render script s.bindings now).map
        fun text ↦ ⟨Text.Utf8.encode text, Payload.shellScript⟩).mapError .script
  noPayload : ¬Avoid s.bindings scriptParameters →
    ∃ e, Payload.ofTemplate script s.bindings now = .error e ∧
      ∀ text, Script.render script s.bindings now = .ok text → e = .callShape
  /-- The step sets the script just if the text is not empty and the options are not frozen. -/
  step : Avoid s.bindings scriptParameters →
    ∀ text, Script.render script s.bindings now = .ok text →
      (s.scriptStep now script).perform.Leads o (text ≠ "" ∧ o.frozen = false)
        (o.set .runScript (some ⟨⟨Text.Utf8.encode text, Payload.shellScript⟩, 0⟩))
  fault : Avoid s.bindings scriptParameters →
    ∀ f, Script.render script s.bindings now = .error f →
      (s.scriptStep now script).perform.result o = .error (.script f)
  noStep : ¬Avoid s.bindings scriptParameters →
    ∃ e, (s.scriptStep now script).perform.result o = .error e ∧
      ∀ text, Script.render script s.bindings now = .ok text → e = .callShape
  unchanged : (s.scriptStep now script).perform.Atomic
  /-- A variable that cannot be handed over makes the whole application fail. -/
  noApplication : s.runScript = some script → ¬Avoid s.bindings scriptParameters →
    ∃ e, (s.applyTo o now).2.result = .error e
  /-- Of variables that can be handed over, an application depends on nothing but the text. -/
  application : Avoid s.bindings scriptParameters → ∀ vs, Avoid vs scriptParameters →
    (∀ script ∈ s.runScript, Script.render script vs now = Script.render script s.bindings now) →
      { s with bindings := vs }.applyTo o now = s.applyTo o now
  /-- The variables count as a mapping from names to values. -/
  mapping : ∀ vs, Agree vs s.bindings →
    Script.render script vs now = Script.render script s.bindings now ∧
      { s with bindings := vs }.applyTo o now = s.applyTo o now
  /-- No variable that is handed over is lost: a template that asks for it is given its value, and
  that is what comes back. -/
  kept : Avoid s.bindings renderParameters → ∀ name v t, Table.get? s.bindings name = some v →
    Script.LawfulEngine.printing name = some t →
      Script.Engine.fill now t s.bindings = Script.printed v ∧
        ∀ template, Script.Engine.read template = .ok t →
          renderText template s.bindings now = (Script.printed v).mapError .script

theorem handsOver (s : Spec) (script : String) (o : Options) (now : Nat) :
    s.HandsOver script o now where
  text := renderText_of_avoid
  noText := renderText_of_not_avoid script now
  payload := Payload.ofTemplate_of_avoid
  noPayload := Payload.ofTemplate_of_not_avoid script now
  step h _ := scriptStep_leads h
  fault h f hf := by
    apply result_scriptStep_of_error
    rw [Payload.ofTemplate_of_avoid h, hf]
    rfl
  noStep h := by
    obtain ⟨e, he, hshape⟩ := Payload.ofTemplate_of_not_avoid script now h
    exact ⟨e, result_scriptStep_of_error he, hshape⟩
  unchanged := Step.perform_atomic _
  noApplication hscript h := by
    obtain ⟨e, he, _⟩ := Payload.ofTemplate_of_not_avoid script now h
    have hstep : (s.scriptStep now script).mutation = .error e := by rw [scriptStep, he]; rfl
    exact Step.exists_error_of_unmade (mem_steps_of_runScript hscript) hstep o
  application h vs hvs hrender := applyTo_congr fun script hscript ↦ by
    rw [Payload.ofTemplate_of_avoid hvs, Payload.ofTemplate_of_avoid h, hrender script hscript]
  mapping vs h := ⟨Script.render_congr h, applyTo_congr fun _ _ ↦ Payload.ofTemplate_congr h⟩
  kept h _ _ _ hv ht := by
    have hprinted := Script.LawfulEngine.fill_printing now ht hv
    refine ⟨hprinted, fun template hread ↦ ?_⟩
    rw [renderText_of_avoid h, Script.render, hread, ← hprinted]
    rfl

end Handover

/-- A script that shows its one variable. -/
def greeting : Spec :=
  { name := "web"
    runScript := some "\x7b\x7b x \x7d\x7d"
    bindings := [("x", .text "hi")] }

theorem read_greeting :
    Script.Engine.read "\x7b\x7b x \x7d\x7d" =
      .ok (⟨[.print (.name "x")]⟩ : Script.Template) := by
  have htokens : Script.Token.ofText "\x7b\x7b x \x7d\x7d" =
      .ok [⟨.openPrint, 1⟩, ⟨.name "x", 1⟩, ⟨.closePrint, 1⟩] := rfl
  exact congrArg (Except.mapError Script.Fault.raised)
    (Script.Template.read_of_tokens htokens rfl rfl)

/-- The variable arrives. -/
theorem greeting_handed_over :
    greeting.HandsOver "\x7b\x7b x \x7d\x7d" (.fresh .base) 0 ∧
      renderText "\x7b\x7b x \x7d\x7d" greeting.bindings 0 = .ok "hi" ∧
      (greeting.scriptStep 0 "\x7b\x7b x \x7d\x7d").perform.result (.fresh .base) = .ok () ∧
      (greeting.scriptStep 0 "\x7b\x7b x \x7d\x7d").perform.after (.fresh .base) =
        (Options.fresh .base).set .runScript (some ⟨⟨[104, 105], Payload.shellScript⟩, 0⟩) := by
  have hover := handsOver greeting "\x7b\x7b x \x7d\x7d" (.fresh .base) 0
  have havoid : Avoid greeting.bindings scriptParameters := by decide
  have hplain : Avoid greeting.bindings renderParameters := by decide
  have htext : renderText "\x7b\x7b x \x7d\x7d" greeting.bindings 0 = .ok "hi" :=
    (hover.kept hplain "x" (.text "hi") _ rfl rfl).2 _ read_greeting
  have hrender : Script.render "\x7b\x7b x \x7d\x7d" greeting.bindings 0 = .ok "hi" :=
    mapError_eq_ok_iff.mp ((hover.text hplain).symm.trans htext)
  have hleads := hover.step havoid "hi" hrender
  have hset : "hi" ≠ "" ∧ (Options.fresh .base).frozen = false := by decide
  exact ⟨hover, htext, hleads.decides.ok hset, hleads.after hset⟩

/-- A script of which there is a text with any variables whatsoever, and one variable that goes by
the name of a parameter. -/
def uptime : Spec :=
  { name := "web"
    runScript := some "uptime"
    bindings := [("template", .text "base")] }

/-- The script is not set, although there is a text. -/
theorem uptime_not_handed_over :
    Script.render "uptime" uptime.bindings 0 = .ok "uptime" ∧
      (uptime.applyTo (.fresh .base) 0).2.result = .error .callShape :=
  ⟨rfl, rfl⟩

end Spec

end Template

end Provisioning
