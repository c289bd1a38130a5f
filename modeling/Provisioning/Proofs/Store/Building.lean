import Provisioning.Proofs.Store.Lineage
import Provisioning.Proofs.Template.Precedence
import Provisioning.Script.Template
import Provisioning.Validation.Lax

/-!
The options that are made of a template. What the template and its ancestors say about a field
stands against the defaults of the provider, with one exception: monitoring that the settings ask
for stays on, even if a template switches it off in so many words.
-/

set_option autoImplicit false

namespace Provisioning

open Options (Field)

/-- The name of a template does not get in the way of its other fields. -/
theorem Table.get?_put_text {ν : Type} (t : Table Value ν) {key other : String} (x : ν)
    (hne : key ≠ other) : (t.put (.text key) x).get? (.text other) = t.get? (.text other) := by
  have hnot : (Value.text key == Value.text other) = false := by
    rw [Bool.eq_false_iff, Ne, Value.beq_text_iff]
    exact fun h ↦ hne (Value.text.inj h)
  induction t with
  | nil => simp [put, get?, hnot]
  | cons e rest ih =>
    obtain ⟨k, y⟩ := e
    simp only [get?] at ih
    by_cases hkey : (k == Value.text key) = true
    · obtain rfl := Value.beq_text_iff.mp hkey
      simp [put, get?, hkey, hnot]
    · cases hother : k == Value.text other <;> simp [put, get?, hkey, hother, ih]

namespace Store

section Building

variable [Domain.SuffixList] [Validation.Reader] [Script.Engine] {s : Store} {name : Value}
  {r : Provider.Registry} {now : Nat} {o : Options}

/-- Options that are made of a template come of new ones of its provider. -/
theorem exists_of_build (h : (s.build name (some r) now).result = .ok o) :
    ∃ spec provider start, s.template name = .ok spec ∧
      (r.templateOptions provider).result = .ok start ∧
      (spec.applyTo start now).2.result = .ok () ∧ o = (spec.applyTo start now).1 := by
  simp only [build, Outcome.result_bind_eq_ok_iff] at h
  obtain ⟨spec, hspec, _, hregistry, provider, _, start, hstart, ⟨⟩, happly, h⟩ := h
  cases hregistry
  cases h
  exact ⟨spec, provider, start, hspec, hstart, happly, rfl⟩

/-- Where there are a template and new options of its provider, the outcome is that of applying the
one to the other. -/
theorem result_build {spec : Template.Spec} {provider : String} {start : Options}
    (hspec : s.template name = .ok spec) (hprovider : s.providerOf spec = .ok provider)
    (hstart : (r.templateOptions provider).result = .ok start) (now : Nat) :
    (s.build name (some r) now).result =
      (spec.applyTo start now).2.result.map fun _ ↦ (spec.applyTo start now).1 := by
  have hok {α β : Type} (a : α) (f : α → Except Error β) : (Except.ok a >>= f) = f a := rfl
  simp only [build, Outcome.result_bind, Outcome.liftM_eq, Outcome.result_lift, hspec, hok, pure_bind,
    hprovider, hstart]
  cases (spec.applyTo start now).2.result <;> rfl

/-- What the fields of a template and its ancestors come to that are given a value `v`: in the
options made of the template, with a registry that was started with the settings `c`, the field
holds just what the value stands for. Only monitoring is also on if the settings ask for it. A field
that the options do not have was given nothing that it would not hold anyway. -/
theorem overlaid_of_build {d : Definition} {v : Value} {c : Settings} {f : Field}
    (hresolve : s.resolve name = .ok d) (hv : d.get? (.text (Template.entryOf f)) = some v)
    (hnull : v ≠ .null)
    (hbuild : (s.build name (some (Provider.Registry.new.start (some c)).1) now).result = .ok o) :
    ∃ spec x, s.template name = .ok spec ∧ Template.canonical spec.bindings now f v = some x ∧
      (∀ y, o.get? f = some y → y = Template.Spec.overlaid c f x) ∧
      (o.get? f = none → x = f.initial) := by
  obtain ⟨spec, provider, start, hspec, hstart, happly, rfl⟩ := exists_of_build hbuild
  obtain ⟨hfrozen, hprovided⟩ := Provider.templateOptions_spec hstart
  have hreads : spec.Reads (d.put nameField name) := by
    rw [template, hresolve] at hspec
    exact Template.Spec.reads_of_ofEntries hspec
  obtain ⟨hdecides, hfilled⟩ := Template.Spec.applyTo_spec hreads.valid hfrozen now
  obtain ⟨hfits, hagrees⟩ := hdecides.eq_ok_iff.mp happly
  have hget := (hfilled ⟨hfits, hagrees⟩).get?_all f
  have hfind : Validation.find? (d.put nameField name) (Template.entryOf f) = some v := by
    have hother : "name" ≠ Template.entryOf f := by cases f <;> decide
    exact (Table.get?_put_text d name hother).trans hv
  have hscript : ∀ script ∈ spec.runScript,
      ∃ p, Payload.ofTemplate script spec.bindings now = .ok p := by
    intro script hmem
    obtain ⟨text, htext, _⟩ := hfits.runScript script hmem
    rw [Template.Spec.ofTemplate_eq, htext]
    exact ⟨_, rfl⟩
  obtain ⟨x, hcanonical, hgiven⟩ := Template.Spec.exists_given hreads hfind hnull hscript
  refine ⟨spec, x, hspec, hcanonical, fun y hy ↦ ?_, fun hnone ↦ ?_⟩
  · rw [hget] at hy
    obtain ⟨z, hz, rfl⟩ := Option.map_eq_some_iff.mp hy
    exact Template.Spec.updated_of_given hreads.valid hgiven (hprovided f z hz)
  · refine Template.Spec.eq_initial_of_given hfits ?_ hgiven
    rw [hget, Option.map_eq_none_iff] at hnone
    rw [← Options.isSome_get?, hnone]
    exact Bool.false_ne_true

end Building

/-- A template for which monitoring is switched off, and that is given user data by its parent. -/
def plainStore : Store :=
  { home := []
    settings := some {}
    templates :=
      [(.text "base", [(.text "user_data", .text "x"), (.text "enable_monitoring", .bool true)]),
        (.text "web", [(.text "extends", .text "base"), (.text "provider", .text "aws-ec2"),
          (.text "enable_monitoring", .bool false)])] }

/-- Settings by which machines are monitored. -/
def monitoredSettings : Settings :=
  { awsEc2 := { enableMonitoring := true } }

theorem overlaid_userData :
    ∃ d o, plainStore.resolve (.text "web") = .ok d ∧
      d.get? (.text "user_data") = some (.text "x") ∧
      (plainStore.build (.text "web")
        (some (Provider.Registry.new.start (some monitoredSettings)).1) 0).result = .ok o ∧
      o.get? .userData = some (some (Text.Utf8.encode "x")) := by
  obtain ⟨d, hd⟩ : ∃ d, plainStore.resolve (.text "web") = .ok d := ⟨_, rfl⟩
  obtain ⟨o, ho⟩ : ∃ o, (plainStore.build (.text "web")
      (some (Provider.Registry.new.start (some monitoredSettings)).1) 0).result = .ok o := ⟨_, rfl⟩
  have hv : d.get? (.text "user_data") = some (.text "x") := by
    cases hd
    rfl
  obtain ⟨spec, x, hspec, hx, hget, _⟩ := overlaid_of_build (f := .userData) hd hv nofun ho
  cases hx
  have hhas : (o.get? .userData).isSome = true := by
    cases ho
    rfl
  obtain ⟨y, hy⟩ := Option.isSome_iff_exists.mp hhas
  exact ⟨d, o, hd, hv, ho, hy.trans (congrArg some (hget y hy))⟩

/-- A template cannot switch off the monitoring that the settings ask for. -/
theorem monitoring_stays_on :
    ¬∀ (s : Store) (name v : Value) (d : Definition) (c : Settings) (o : Options) (now : Nat)
        (f : Field),
      s.resolve name = .ok d → d.get? (.text (Template.entryOf f)) = some v → v ≠ .null →
      (s.build name (some (Provider.Registry.new.start (some c)).1) now).result = .ok o →
      ∃ spec x, s.template name = .ok spec ∧ Template.canonical spec.bindings now f v = some x ∧
        ∀ y, o.get? f = some y → y = x := by
  intro h
  obtain ⟨_, x, _, hx, hget⟩ := h plainStore (.text "web") (.bool false) _ monitoredSettings _
    0 .monitoringEnabled rfl rfl nofun rfl
  cases hx
  exact Bool.false_ne_true (hget true rfl).symm

end Store
end Provisioning
