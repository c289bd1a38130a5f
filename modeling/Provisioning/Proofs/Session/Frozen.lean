import Provisioning.Proofs.Options.Effect
import Provisioning.Proofs.Session.WellFormed
import Provisioning.Script.Template

/-!
Frozen options over time. Every operation, at whatever place it is aimed, leaves frozen options at
their place as they are, so a whole run does. Calls of setters on them and copies onto them are
refused from then on; a clone of them is not frozen, and what is done to it has no part in them. The
options that stand for "nothing set" are frozen from the start.
-/

set_option autoImplicit false

namespace Provisioning

open Provisioning.Action

variable {o c : Options} {p : Options.Pool} {i : Nat}

namespace Options

theorem Mutation.check_withFrozen [Domain.SuffixList] (m : Mutation) (o : Options) (frozen : Bool) :
    m.check { o with frozen := frozen } = m.check o := by
  cases m <;> rfl

theorem nothing_beq_fresh (k : Kind) : (nothing k == fresh k) = true := by
  cases k <;> decide

/-! ### What is done to frozen options -/

section Frozen

variable [Domain.SuffixList] (hfrozen : o.frozen = true)
include hfrozen

theorem after_invoke_of_frozen (s : Setter) (a : Arguments Value) (mark : Nat) :
    (invoke s.label a mark).after o = o := by
  rcases invoke_cases s a mark o with ⟨_, _, hsame⟩ | ⟨_, _, _, _, hmutable, _, _⟩
  · exact hsame
  · rw [hfrozen] at hmutable
    cases hmutable

/-- A call of a setter on frozen options fails. -/
theorem exists_error_of_frozen (s : Setter) (a : Arguments Value) (mark : Nat) :
    ∃ e, (invoke s.label a mark).result o = .error e := by
  rcases invoke_cases s a mark o with ⟨e, he, _⟩ | ⟨_, _, _, _, hmutable, _, _⟩
  · exact ⟨e, he⟩
  · rw [hfrozen] at hmutable
    cases hmutable

/-- It fails for no other reason than that the options are frozen, if it would succeed on a clone. -/
theorem result_invoke_of_frozen {s : Setter} {a : Arguments Value} {mark : Nat} {answer : Answer}
    (h : (invoke s.label a mark).result { o with frozen := false } = .ok answer) :
    (invoke s.label a mark).result o = .error (.readOnly o.kind) := by
  rcases invoke_cases s a mark { o with frozen := false } with
    ⟨e, he, _⟩ | ⟨m, change, hm, hcheck, _, _, _⟩
  · rw [he] at h
    cases h
  · have hcall : ((⟨s, a, mark⟩ : Call).perform.result { o with frozen := false }).isOk = true :=
      congrArg Except.isOk h
    have howner : o.kind.extends? s.owner = true := Call.extends_of_isOk hcall
    rw [Mutation.check_withFrozen] at hcheck
    have hperform : m.perform.result o = .error (.readOnly o.kind) := by
      rw [← Setter.setter_of_mutation? hm] at howner
      simp [Mutation.perform, result_bind, howner, hcheck, checkMutable, hfrozen]
    simp [invoke, result_bind, Member.ofLabel?_label, howner, Setter.perform, hm, hperform]

theorem Mutation.perform_preserves_frozen (m : Mutation) : m.perform.Preserves (· = o) := by
  rintro q rfl
  rcases m.perform_cases q with ⟨_, _, hsame⟩ | ⟨_, _, hmutable, _⟩
  · exact hsame
  · rw [hfrozen] at hmutable
    cases hmutable

end Frozen

end Options

/-! ### Frozen options at their place -/

namespace Options.Pool

/-- The options at a place. -/
def Holds (i : Nat) (o : Options) (p : Pool) : Prop :=
  p.objects[i]? = some o

/-- Whatever is done at any place leaves options that it would not change. -/
theorem act_preserves_holds {x : Action Options Answer} (hx : x.after o = o) (place : Nat) :
    (act place x).Preserves (Holds i o) := by
  intro p hp
  cases hplace : p.objects[place]? with
  | none => rwa [after_act_none hplace]
  | some q =>
    rw [after_act hplace]
    by_cases hi : place = i
    · subst hi
      obtain rfl : q = o := Option.some.inj (hplace.symm.trans hp)
      obtain ⟨hlt, _⟩ := List.getElem?_eq_some_iff.mp hp
      rw [hx]
      exact List.getElem?_set_self hlt
    · exact (List.getElem?_set_ne hi).trans hp

theorem add_preserves_holds (c : Options) : (add c).Preserves (Holds i o) := by
  intro p hp
  obtain ⟨hlt, _⟩ := List.getElem?_eq_some_iff.mp hp
  exact (List.getElem?_append_left hlt).trans hp

section Steps

variable [Domain.SuffixList]

theorem result_call (ho : p.objects[i]? = some o) (s : Setter) (a : Arguments Value) :
    (Step.call i s a).perform.result p = (invoke s.label a p.clock).result o := by
  rw [← result_act ho]
  rfl

theorem Step.perform_preserves_holds (hfrozen : o.frozen = true) (step : Step) :
    step.perform.Preserves (Holds i o) := by
  cases step with
  | call target setter arguments =>
    refine (readsOnly_state.preserves _).bind fun p ↦ ?_
    exact act_preserves_holds (after_invoke_of_frozen hfrozen setter arguments p.clock) target
  | freeze target =>
    refine act_preserves_holds ?_ target
    exact congrArg (fun frozen ↦ ({ o with frozen := frozen } : Options)) hfrozen.symm
  | clone source =>
    refine (readsOnly_state.preserves _).bind fun p ↦ ?_
    split
    · exact (readsOnly_ofOutcome _).preserves _
    · refine ((readsOnly_ofOutcome _).preserves _).bind fun c ↦ ?_
      exact (add_preserves_holds c).bind fun _ ↦ (readsOnly_ofOutcome _).preserves _
  | copy source target =>
    refine (readsOnly_state.preserves _).bind fun p ↦ ?_
    split
    · exact (readsOnly_ofOutcome _).preserves _
    · next s _ =>
      refine act_preserves_holds ?_ target
      rw [after_bind_pure]
      exact (copy_frozen s hfrozen).2

end Steps

end Options.Pool

namespace Session

open Options (Kind Pool Setter)

theorem hand_preserves_holds (c : Options) : (hand c).Preserves (Pool.Holds i o) :=
  (Pool.add_preserves_holds c).bind fun _ ↦ (readsOnly_ofOutcome _).preserves _

section Runs

variable [Domain.SuffixList]

/-- What is refused to all who are to work on the options at a place, and what they may do instead. -/
structure ReadOnlyAt (p : Pool) (i : Nat) (o : Options) : Prop where
  holds : Pool.Holds i o p
  call : ∀ s a, ∃ e, (Pool.Step.call i s a).perform.result p = .error e
  copy : ∀ j t, p.objects[j]? = some t →
    (Pool.Step.copy j i).perform.result p = .error (.readOnly o.kind)
  clone : ∃ c q, (Pool.Step.clone i).perform.result p = .ok (.options c) ∧
    (Pool.Step.clone i).perform.after p = q ∧ q.objects = p.objects ++ [c] ∧
    c.kind = o.kind ∧ c.frozen = false ∧ (c == o) = true ∧
    ∀ s a, Pool.Holds i o ((Pool.Step.call p.objects.length s a).perform.after q) ∧
      ∀ answer, (Pool.Step.call p.objects.length s a).perform.result q = .ok answer →
        (Pool.Step.call i s a).perform.result q = .error (.readOnly o.kind)

theorem readOnlyAt (hp : p.WellFormed) (ho : Pool.Holds i o p) (hfrozen : o.frozen = true) :
    ReadOnlyAt p i o := by
  have hwell : o.WellFormed := hp o (List.mem_of_getElem? ho)
  refine ⟨ho, fun s a ↦ ?_, fun j t ht ↦ ?_, ?_⟩
  · rw [Pool.result_call ho]
    exact Options.exists_error_of_frozen hfrozen s a p.clock
  · rw [Pool.result_copy ht ho, (Options.copy_frozen t hfrozen).1]
    rfl
  · have hclone := Options.clone_spec fun name ↦ hwell.admits .domainName name
    obtain ⟨hnodup, _⟩ := hwell.admits .userMetadata _ rfl
    obtain ⟨hlt, _⟩ := List.getElem?_eq_some_iff.mp ho
    refine ⟨_, _, Pool.result_clone ho hclone, Pool.after_clone ho hclone, rfl, rfl, rfl,
      Options.withFrozen_beq_self hnodup _, fun s a ↦ ?_⟩
    have hheld : Pool.Holds i o { p with objects := p.objects ++ [{ o with frozen := false }] } :=
      (List.getElem?_append_left hlt).trans ho
    refine ⟨(Pool.Step.call _ s a).perform_preserves_holds hfrozen _ hheld, fun answer h ↦ ?_⟩
    rw [Pool.result_call (o := { o with frozen := false }) List.getElem?_concat_length] at h
    rw [Pool.result_call hheld]
    exact Options.result_invoke_of_frozen hfrozen h

variable [Script.Engine]

/-- No operation changes frozen options. -/
theorem Operation.perform_preserves_holds (hfrozen : o.frozen = true) (operation : Operation) :
    operation.perform.Preserves (Pool.Holds i o) := by
  cases operation with
  | step s => exact s.perform_preserves_holds hfrozen
  | create kind => exact hand_preserves_holds _
  | shortcut kind setter arguments =>
    refine (readsOnly_state.preserves _).bind fun p ↦ ?_
    refine ((readsOnly_ofOutcome _).preserves _).bind fun s ↦ ?_
    refine ((readsOnly_ofOutcome _).preserves _).bind fun answer ↦ ?_
    split
    · exact hand_preserves_holds _
    · exact (readsOnly_ofOutcome _).preserves _
  | provide provider settings =>
    simp only [perform]
    split
    · exact (readsOnly_ofOutcome _).preserves _
    · exact ((readsOnly_ofOutcome _).preserves _).bind hand_preserves_holds
  | apply place spec =>
    refine (readsOnly_state.preserves _).bind fun p ↦ Pool.act_preserves_holds ?_ place
    rw [after_bind_pure]
    have hkept : (Template.Step.performAll (spec.steps p.clock)).Preserves (· = o) :=
      Template.Step.performAll_preserves fun _ _ m _ ↦ m.perform_preserves_frozen hfrozen
    exact hkept o rfl

/-- Once options are frozen, no run changes them. -/
theorem holds_run (hfrozen : o.frozen = true) (hp : Pool.Holds i o p) (operations : List Operation) :
    Pool.Holds i o (Session.run p operations) :=
  run_preserves (fun operation _ ↦ operation.perform_preserves_holds hfrozen) (fun _ hp ↦ hp) hp

theorem run_append (p : Pool) (before after : List Operation) :
    Session.run p (before ++ after) = Session.run (Session.run p before) after :=
  List.foldl_append

/-- Options that are frozen at some point of a program stay as they are at every later point, whatever
is done in between, to them or to others: calls of setters on them fail, and for no other reason than
that they are frozen if they would succeed on a clone; copies onto them fail for this reason; a clone
is not frozen and equals them, and calls on the clone do not change them. The options of each kind
that stand for "nothing set" are as at the start and so equal new ones. -/
theorem frozen_stays (hdefault : Domain.publicSuffix Options.defaultDomain ≠ "") :
    (∀ (before after : List Operation) (i : Nat) (o : Options),
      (Session.run start before).objects[i]? = some o → o.frozen = true →
        ReadOnlyAt (Session.run (Session.run start before) after) i o) ∧
    ∀ (operations : List Operation) (k : Kind),
      ReadOnlyAt (Session.run start operations) (nothingAt k) (.nothing k) ∧
        (Options.nothing k == Options.fresh k) = true := by
  refine ⟨fun before after i o ho hfrozen ↦ ?_, fun operations k ↦ ?_⟩
  · have hwell := wellFormed_run hdefault (before ++ after)
    rw [run_append] at hwell
    exact readOnlyAt hwell (holds_run hfrozen ho after) hfrozen
  · have hstart : Pool.Holds (nothingAt k) (.nothing k) start := by
      cases k <;> rfl
    exact ⟨readOnlyAt (wellFormed_run hdefault operations) (holds_run rfl hstart operations) rfl,
      Options.nothing_beq_fresh k⟩

end Runs

/-- Options that name a key pair are made and frozen. -/
def freezing : List Operation :=
  [.create .ec2, .step (.call 4 .keyPair ⟨[.text "ops"], []⟩), .step (.freeze 4)]

/-- Then everybody tries to change them. -/
def meddling : List Operation :=
  [.step (.call 4 .userData ⟨[.text "#!"], []⟩), .shortcut .awsEc2 .noKeyPair ⟨[], []⟩,
    .provide "aws-ec2" none, .step (.copy 5 4), .step (.clone 4),
    .step (.call 7 .keyPair ⟨[.text "admins"], []⟩), .step (.copy 7 4)]

theorem frozen_stays_keyPair : Domain.publicSuffix Options.defaultDomain ≠ "" ∧
    ∃ o, (Session.run start freezing).objects[4]? = some o ∧ o.frozen = true ∧
      o.keyPair? = some "ops" ∧ ReadOnlyAt (Session.run (Session.run start freezing) meddling) 4 o := by
  obtain ⟨hfrozen, _⟩ := frozen_stays (by decide)
  exact ⟨by decide, _, rfl, rfl, rfl, hfrozen freezing meddling 4 _ rfl rfl⟩

end Session

end Provisioning
