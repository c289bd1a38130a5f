import Provisioning.Options.Pool
import Provisioning.Proofs.Options.Copy

/-!
Pools of options. Every step leaves well-formed objects well formed, and so does every run from new
options. What a copy between two reachable objects does, and what a clone is, follows from this: the
domain of a reachable source passes its check once more.
-/

set_option autoImplicit false

namespace Provisioning.Options.Pool

open Provisioning.Action

private theorem set_of_getElem? {α : Type} {xs : List α} {n : Nat} {x : α} (h : xs[n]? = some x) :
    xs.set n x = xs := by
  obtain ⟨hn, rfl⟩ := List.getElem?_eq_some_iff.mp h
  exact List.set_getElem_self hn

variable {p : Pool} {o s t : Options} {place i j : Nat}

theorem after_act (h : p.objects[place]? = some o) (x : Action Options Answer) :
    (act place x).after p = { p with objects := p.objects.set place (x.after o) } := by
  simp only [after, Action.run, act, h]

theorem result_act (h : p.objects[place]? = some o) (x : Action Options Answer) :
    (act place x).result p = x.result o := by
  simp only [result, Action.run, act, h]

theorem after_act_none (h : p.objects[place]? = none) (x : Action Options Answer) :
    (act place x).after p = p := by
  simp only [after, Action.run, act, h]

/-- What a copy leaves of its source: the source, also where it is the target itself. -/
theorem getElem?_set_copied {t' : Options} (hs : p.objects[i]? = some s)
    (ht : p.objects[j]? = some t) (hcopied : Copied s (fun f ↦ s.kind.extends? f.owner) t t') :
    (p.objects.set j t')[i]? = some s := by
  by_cases hij : j = i
  · subst hij
    obtain rfl : t = s := Option.some.inj (ht.symm.trans hs)
    have hsame : t' = t := by
      refine ext_get? hcopied.kind hcopied.frozen fun f ↦ ?_
      rw [hcopied.get? f, ite_self]
    rw [hsame, set_of_getElem? ht, ht]
  · rw [List.getElem?_set_ne hij]
    exact hs

section Steps

variable [Domain.SuffixList]

/-! ### What a step does -/

theorem after_clone {c : Options} (hs : p.objects[i]? = some s) (hc : s.clone.result = .ok c) :
    (Step.clone i).perform.after p = { p with objects := p.objects ++ [c] } := by
  simp [Step.perform, after_bind, hs, hc, add]

theorem result_clone {c : Options} (hs : p.objects[i]? = some s) (hc : s.clone.result = .ok c) :
    (Step.clone i).perform.result p = .ok (.options c) := by
  simp [Step.perform, result_bind, hs, hc, add]

/-- A copy step takes the source as it is and acts on the target. -/
theorem run_copy (hs : p.objects[i]? = some s) :
    (Step.copy i j).perform.run p = (act j (s.copy >>= fun _ ↦ pure (.value .null))).run p := by
  rw [Step.perform, run_state_bind, hs]

theorem after_copy (hs : p.objects[i]? = some s) (ht : p.objects[j]? = some t) :
    (Step.copy i j).perform.after p = { p with objects := p.objects.set j (s.copy.after t) } := by
  rw [after, run_copy hs, ← after, after_act ht, after_bind_pure]

theorem result_copy (hs : p.objects[i]? = some s) (ht : p.objects[j]? = some t) :
    (Step.copy i j).perform.result p = (s.copy.result t).map fun _ ↦ .value .null := by
  rw [result, run_copy hs, ← result, result_act ht, result_bind_pure]

/-! ### What a step preserves -/

/-- All objects have a property. -/
def All (P : Options → Prop) (p : Pool) : Prop :=
  ∀ o ∈ p.objects, P o

/-- All objects are well formed. -/
def WellFormed (p : Pool) : Prop :=
  ∀ o ∈ p.objects, o.WellFormed

omit [Domain.SuffixList] in
theorem act_preserves {P : Options → Prop} {x : Action Options Answer} (hx : x.Preserves P)
    (place : Nat) : (act place x).Preserves (All P) := by
  intro p hp
  cases hplace : p.objects[place]? with
  | none => rwa [after_act_none hplace]
  | some o =>
    rw [after_act hplace]
    intro o' ho'
    rcases List.mem_or_eq_of_mem_set ho' with ho' | rfl
    · exact hp o' ho'
    · exact hx o (hp o (List.mem_of_getElem? hplace))

omit [Domain.SuffixList] in
theorem add_preserves {P : Options → Prop} (ho : P o) : (add o).Preserves (All P) := by
  intro p hp o' ho'
  rcases List.mem_append.mp ho' with ho' | ho'
  · exact hp o' ho'
  · rw [List.mem_singleton.mp ho']
    exact ho

/-- A property that is not lost by freezing, cloning and copying. -/
structure Stable (P : Options → Prop) : Prop where
  freeze : ∀ o, P o → P o.freeze
  clone : ∀ s c, P s → s.clone.result = .ok c → P c
  copy : ∀ s t, P s → P t → P (s.copy.after t)

theorem stable_wellFormed : Stable Options.WellFormed := by
  refine ⟨fun o ho ↦ ho.withFrozen true, fun s c hs hc ↦ ?_, fun s t hs ht ↦ hs.copy ht⟩
  have hclone := clone_spec fun name ↦ hs.admits .domainName name
  obtain rfl : { s with frozen := false } = c := Except.ok.inj (hclone.symm.trans hc)
  exact hs.withFrozen false

/-- A step preserves a stable property of all objects if the call that it makes, if it makes one,
preserves the property. -/
theorem Step.perform_preserves_all {P : Options → Prop} (hP : Stable P) (step : Step)
    (hcall : ∀ target setter arguments, step = .call target setter arguments →
      ∀ mark, (invoke setter.label arguments mark).Preserves P) :
    step.perform.Preserves (All P) := by
  cases step with
  | call target setter arguments =>
    refine state_bind_preserves fun p _ ↦ act_preserves ?_ target
    exact hcall target setter arguments rfl p.clock
  | freeze target => exact act_preserves (x := Member.read .freeze) hP.freeze target
  | clone source =>
    refine state_bind_preserves fun p hp ↦ ?_
    split
    · exact (readsOnly_ofOutcome _).preserves _
    · next o hsource =>
      refine ofOutcome_bind_preserves fun c hc ↦ ?_
      have hclone := hP.clone o c (hp o (List.mem_of_getElem? hsource)) hc
      exact (add_preserves hclone).bind fun _ ↦ (readsOnly_ofOutcome _).preserves _
  | copy source target =>
    refine state_bind_preserves fun p hp ↦ ?_
    split
    · exact (readsOnly_ofOutcome _).preserves _
    · next o hsource =>
      have ho := hp o (List.mem_of_getElem? hsource)
      refine act_preserves (fun t ht ↦ ?_) target
      rw [after_bind_pure]
      exact hP.copy o t ho ht

theorem Step.perform_preserves (step : Step) : step.perform.Preserves WellFormed :=
  step.perform_preserves_all stable_wellFormed fun _ setter arguments _ mark _ ho ↦
    ho.invoke setter arguments mark

/-- Every run leaves well-formed objects well formed. -/
theorem wellFormed_run (hp : p.WellFormed) (steps : List Step) : (p.run steps).WellFormed := by
  induction steps generalizing p with
  | nil => exact hp
  | cons step rest ih => exact ih (step.perform_preserves p hp)

/-! ### Reachable pools -/

theorem hasPublicSuffix_defaultDomain (hdefault : Domain.publicSuffix defaultDomain ≠ "") :
    Domain.hasPublicSuffix defaultDomain = true := by
  have hname : Domain.isName defaultDomain = true := by decide
  simp [Domain.hasPublicSuffix, hname, hdefault]

theorem wellFormed_start (hdefault : Domain.publicSuffix defaultDomain ≠ "") (kinds : List Kind) :
    (start kinds).WellFormed := by
  intro o ho
  obtain ⟨k, _, rfl⟩ := List.mem_map.mp ho
  exact wellFormed_fresh (hasPublicSuffix_defaultDomain hdefault) k

/-- Whatever is done to new options of any kinds, by calls of setters with any arguments, by freezing,
by cloning and by copying any of them onto any other, and whether or not some of it fails: all options
are well formed. -/
theorem wellFormed_of_steps (hdefault : Domain.publicSuffix defaultDomain ≠ "") (kinds : List Kind)
    (steps : List Step) : ∀ o ∈ ((start kinds).run steps).objects, o.WellFormed :=
  wellFormed_run (wellFormed_start hdefault kinds) steps

end Steps

/-- A pool in which a copy onto frozen options and a call with a port out of range are refused. -/
theorem wellFormed_of_refused_steps : Domain.publicSuffix defaultDomain ≠ "" ∧
    ∀ o ∈ ((start [.softLayer, .awsEc2]).run [.call 1 .noKeyPair ⟨[], []⟩, .freeze 0, .copy 1 0,
      .call 1 .inboundPorts ⟨[.int 22, .int 65536], []⟩, .copy 0 1, .clone 1]).objects,
      o.WellFormed :=
  ⟨by decide, wellFormed_of_steps (by decide) _ _⟩

section Reachable

variable [Domain.SuffixList]

theorem Reachable.wellFormed (hp : p.Reachable) (hdefault : Domain.publicSuffix defaultDomain ≠ "") :
    p.WellFormed := by
  obtain ⟨kinds, steps, rfl⟩ := hp
  exact wellFormed_run (wellFormed_start hdefault kinds) steps

/-- What copying and cloning do to a reachable source. A copy onto a frozen target fails and changes
nothing. A copy onto any other target succeeds: the target, which may be the source itself, keeps its
kind and is not frozen, it has the fields of the source that are declared for both kinds and keeps
all others, and the source is what it was. A clone succeeds, also if the source is frozen; it is of
the kind of the source and not frozen, and it equals the source. -/
theorem copy_and_clone_of_reachable (hdefault : Domain.publicSuffix defaultDomain ≠ "")
    (hp : p.Reachable) (hs : p.objects[i]? = some s) :
    (∀ j t, p.objects[j]? = some t →
      (t.frozen = true →
        (Step.copy i j).perform.result p = .error (.readOnly t.kind) ∧
          (Step.copy i j).perform.after p = p) ∧
      (t.frozen = false → ∃ t',
        (Step.copy i j).perform.result p = .ok (.value .null) ∧
          (Step.copy i j).perform.after p = { p with objects := p.objects.set j t' } ∧
          (p.objects.set j t')[i]? = some s ∧ t'.kind = t.kind ∧ t'.frozen = false ∧
          ∀ f, t'.get? f =
            if s.kind.extends? f.owner && t.kind.extends? f.owner then s.get? f else t.get? f)) ∧
    ∃ c, (Step.clone i).perform.result p = .ok (.options c) ∧
      (Step.clone i).perform.after p = { p with objects := p.objects ++ [c] } ∧
      c.kind = s.kind ∧ c.frozen = false ∧ (c == s) = true := by
  have hwell : s.WellFormed := hp.wellFormed hdefault s (List.mem_of_getElem? hs)
  have hdomain := hwell.admits .domainName
  refine ⟨fun j t ht ↦ ⟨fun hfrozen ↦ ?_, fun hfrozen ↦ ?_⟩, ?_⟩
  · obtain ⟨hresult, hafter⟩ := copy_frozen s hfrozen
    rw [result_copy hs ht, after_copy hs ht, hresult, hafter, set_of_getElem? ht]
    exact ⟨rfl, rfl⟩
  · obtain ⟨hresult, hcopied⟩ := copy_spec hdomain hfrozen
    refine ⟨s.copy.after t, ?_, after_copy hs ht, ?_, hcopied.kind, hcopied.frozen.trans hfrozen,
      hcopied.get?⟩
    · rw [result_copy hs ht, hresult, Except.map]
    · exact getElem?_set_copied hs ht hcopied
  · have hclone := clone_spec hdomain
    obtain ⟨hnodup, _⟩ := hwell.admits .userMetadata _ rfl
    exact ⟨_, result_clone hs hclone, after_clone hs hclone, rfl, rfl, withFrozen_beq_self hnodup _⟩

end Reachable

/-- Frozen options that name a key pair can be copied onto others and cloned. -/
theorem copy_and_clone_of_frozen :
    ∃ s t, ((start [.ec2, .base]).run
        [.call 0 .keyPair ⟨[.text "ops"], []⟩, .freeze 0]).objects = [s, t] ∧ s.frozen = true ∧
      (Step.copy 0 1).perform.result ((start [.ec2, .base]).run
        [.call 0 .keyPair ⟨[.text "ops"], []⟩, .freeze 0]) = .ok (.value .null) ∧
      ∃ c, (Step.clone 0).perform.result ((start [.ec2, .base]).run
        [.call 0 .keyPair ⟨[.text "ops"], []⟩, .freeze 0]) = .ok (.options c) ∧
        c.frozen = false ∧ (c == s) = true := by
  refine ⟨_, _, rfl, rfl, ?_⟩
  obtain ⟨hcopy, c, hclone, _, _, hfrozen, hsame⟩ := copy_and_clone_of_reachable
    (p := (start [.ec2, .base]).run [.call 0 .keyPair ⟨[.text "ops"], []⟩, .freeze 0]) (i := 0)
    (by decide) ⟨_, _, rfl⟩ rfl
  obtain ⟨_, hcopied, _⟩ := (hcopy 1 _ rfl).2 rfl
  exact ⟨hcopied, c, hclone, hfrozen, hsame⟩

end Provisioning.Options.Pool
