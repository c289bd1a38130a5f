import Provisioning.Proofs.Session.Comparable
import Provisioning.Script.Template

/-!
Equal options are interchangeable. Two states of a program that hold alike options at every place
still do after any operation (`Operation.follows`), which ends in the same way on both, and so after
any run (`alike_run`). The objects of the two states are equal at every place, then, and since
equality is an equivalence of all options that a program comes to hold, no comparison of two places
comes out differently.
-/

set_option autoImplicit false

namespace Provisioning

open Provisioning.Action
open Options (Answer Field Kind Mutation Pool Setter Shortcut)

/-! ### Pools side by side -/

namespace Options.Pool

/-- Pools that have alike options at every place and take their next steps at one time. -/
structure Alike (p q : Pool) : Prop where
  clock : p.clock = q.clock
  length : p.objects.length = q.objects.length
  objects : ∀ (i : Nat) (a b : Options), p.objects[i]? = some a → q.objects[i]? = some b → a.Alike b

variable {p q : Pool} {o o' : Options}

/-- A place is empty in both pools, or alike options are there. -/
theorem Alike.cases (h : p.Alike q) (i : Nat) :
    (p.objects[i]? = none ∧ q.objects[i]? = none) ∨
      ∃ a b, p.objects[i]? = some a ∧ q.objects[i]? = some b ∧ a.Alike b := by
  cases hp : p.objects[i]? with
  | none =>
    rw [List.getElem?_eq_none_iff, h.length] at hp
    exact .inl ⟨rfl, List.getElem?_eq_none_iff.mpr hp⟩
  | some a =>
    have hi : i < q.objects.length := h.length ▸ (List.getElem?_eq_some_iff.mp hp).1
    have hq := List.getElem?_eq_getElem hi
    exact .inr ⟨a, _, rfl, hq, h.objects i a _ hp hq⟩

theorem Alike.tick (h : p.Alike q) : p.tick.Alike q.tick :=
  ⟨congrArg Nat.succ h.clock, h.length, h.objects⟩

theorem alike_act {x y : Action Options Answer} (hxy : Matches Options.Alike x y) (place : Nat) :
    Matches Alike (act place x) (act place y) := by
  intro p q h
  rcases h.cases place with ⟨hp, hq⟩ | ⟨a, b, hp, hq, hab⟩
  · rw [after_act_none hp, after_act_none hq]
    exact ⟨by simp only [Action.run, act, hp, hq], h⟩
  · obtain ⟨houtcome, hafter⟩ := hxy a b hab
    rw [after_act hp, after_act hq]
    refine ⟨by simpa only [Action.run, act, hp, hq] using houtcome, h.clock, ?_, ?_⟩
    · simp only [List.length_set, h.length]
    · intro i c d hc hd
      by_cases hi : place = i
      · subst hi
        rw [List.getElem?_set_self', hp] at hc
        rw [List.getElem?_set_self', hq] at hd
        cases hc
        cases hd
        exact hafter
      · rw [List.getElem?_set_ne hi] at hc hd
        exact h.objects i c d hc hd

theorem alike_add (h : o.Alike o') : Matches Alike (add o) (add o') := by
  refine .write fun p q hpq ↦ ⟨hpq.clock, ?_, fun i a b ha hb ↦ ?_⟩
  · simp only [List.length_append, hpq.length, List.length_singleton]
  · by_cases hi : i < p.objects.length
    · rw [List.getElem?_append_left hi] at ha
      rw [List.getElem?_append_left (hpq.length ▸ hi)] at hb
      exact hpq.objects i a b ha hb
    · rw [List.getElem?_append_right (Nat.le_of_not_lt hi), List.getElem?_singleton] at ha
      rw [List.getElem?_append_right (hpq.length ▸ Nat.le_of_not_lt hi),
        List.getElem?_singleton] at hb
      split at ha <;> split at hb <;> cases ha <;> cases hb
      exact h

section Steps

variable [Domain.SuffixList]

theorem follows_clone (source : Nat) :
    Follows Alike (Step.clone source).perform (Step.clone source).perform := by
  intro p q h
  rcases h.cases source with ⟨hp, hq⟩ | ⟨a, b, hp, hq, hab⟩
  · simpa [Step.perform, after_bind, result_bind, hp, hq] using h
  · rcases hab.agrees.clone_cases with ⟨e, ha, hb⟩ | ⟨c, d, ha, hb, hcd⟩
    · simpa [Step.perform, after_bind, result_bind, hp, hq, ha, hb] using h
    · rw [result_clone hp ha, result_clone hq hb, after_clone hp ha, after_clone hq hb]
      exact ⟨rfl, (alike_add hcd p q h).2⟩

theorem Step.follows (step : Step) : Follows Alike step.perform step.perform := by
  cases step with
  | call target setter arguments =>
    refine Matches.follows (.state_bind fun p q h ↦ ?_)
    exact alike_act (alike_invoke setter (.inl h.clock)) target
  | freeze target =>
    have hfreeze : Matches Options.Alike (Member.read .freeze) (Member.read .freeze) :=
      (Matches.write fun _ _ h ↦ h.freeze).bind fun _ ↦ .pure _
    exact (alike_act hfreeze target).follows
  | clone source => exact follows_clone source
  | copy source target =>
    refine Matches.follows (.state_bind fun p q h ↦ ?_)
    rcases h.cases source with ⟨hp, hq⟩ | ⟨a, b, hp, hq, hab⟩
    · rw [hp, hq]
      exact .ofOutcome _
    · rw [hp, hq]
      exact alike_act (hab.agrees.alike_copy.bind fun _ ↦ .pure _) target

end Steps

end Options.Pool

/-! ### Programs side by side -/

section Programs

variable [Domain.SuffixList]

/-- The steps of a specification look at nothing but the kind of the options and what their calls look
at. -/
theorem Template.Step.alike_performAll (steps : List Step) :
    Matches Options.Alike (performAll steps) (performAll steps) := by
  induction steps with
  | nil => exact .pure ()
  | cons s rest ih =>
    refine Matches.bind (.state_bind fun a b h ↦ ?_) fun _ ↦ ih
    have hcall : Matches Options.Alike (do (← s.mutation).perform) (do (← s.mutation).perform) :=
      (Matches.ofOutcome _).bind fun m ↦ (Mutation.Repeats.same m).alike_perform
    by_cases hkind : b.kind.extends? s.needs = true
    · have hvariant {o : Options} (ho : o.kind = b.kind) : o.asVariant s.needs = .ok o := by
        simp [Options.asVariant, Options.tryAs, ho, hkind]
      rw [hvariant h.agrees.kind, hvariant rfl]
      change Matches Options.Alike (pure a >>= fun _ ↦ _) (pure b >>= fun _ ↦ _)
      rwa [Action.pure_bind, Action.pure_bind]
    · have hmismatch {o : Options} (ho : o.kind = b.kind) :
          o.asVariant s.needs = .error (.mismatch b.kind s.needs) := by
        simp [Options.asVariant, Options.tryAs, ho, hkind]
      rw [hmismatch h.agrees.kind, hmismatch rfl]
      exact (Matches.ofOutcome _).bind fun _ ↦ hcall

namespace Session

omit [Domain.SuffixList] in
theorem alike_hand (o : Options) : Matches Pool.Alike (hand o) (hand o) :=
  (Pool.alike_add (.refl o)).bind fun _ ↦ .ofOutcome _

/-! ### Equal options -/

/-- Two states of a program that hold equal options at every place, of which both are frozen or
neither is. -/
structure Interchangeable (p q : Pool) : Prop where
  clock : p.clock = q.clock
  length : p.objects.length = q.objects.length
  objects : ∀ (i : Nat) (a b : Options), p.objects[i]? = some a → q.objects[i]? = some b →
    (a == b) = true ∧ a.frozen = b.frozen

variable {a b t u : Options} {p q : Pool}

theorem interchangeable_iff (hp : p.WellFormed) (hq : q.WellFormed) :
    Interchangeable p q ↔ p.Alike q := by
  have hiff {i : Nat} {a b : Options} (ha : p.objects[i]? = some a) (hb : q.objects[i]? = some b) :=
    (hp a (List.mem_of_getElem? ha)).beq_iff (hq b (List.mem_of_getElem? hb))
  constructor
  · refine fun h ↦ ⟨h.clock, h.length, fun i a b ha hb ↦ ?_⟩
    obtain ⟨hbeq, hfrozen⟩ := h.objects i a b ha hb
    exact ⟨(hiff ha hb).mp hbeq, hfrozen⟩
  · refine fun h ↦ ⟨h.clock, h.length, fun i a b ha hb ↦ ?_⟩
    obtain ⟨hagrees, hfrozen⟩ := h.objects i a b ha hb
    exact ⟨(hiff ha hb).mpr hagrees, hfrozen⟩

/-- A state is interchangeable with what it is if some of its options are replaced by equal ones. -/
theorem interchangeable_set (hp : p.WellFormed) {i : Nat} (ha : p.objects[i]? = some a)
    (hab : (a == b) = true) (hfrozen : a.frozen = b.frozen) :
    Interchangeable p { p with objects := p.objects.set i b } := by
  refine ⟨rfl, List.length_set.symm, fun j c d hc hd ↦ ?_⟩
  by_cases hij : i = j
  · subst hij
    obtain rfl : a = c := Option.some.inj (ha.symm.trans hc)
    rw [List.getElem?_set_self', ha] at hd
    cases hd
    exact ⟨hab, hfrozen⟩
  · rw [List.getElem?_set_ne hij] at hd
    obtain rfl : c = d := Option.some.inj (hc.symm.trans hd)
    have hc := hp c (List.mem_of_getElem? hc)
    exact ⟨(hc.beq_iff hc).mpr (.refl c), rfl⟩

theorem invoke_congr (ha : a.WellFormed) (hb : b.WellFormed) (hab : (a == b) = true)
    (hfrozen : a.frozen = b.frozen) (s : Setter) {args : Arguments Value} {mark mark' : Nat}
    (h : mark = mark' ∨ ∀ v ∈ args.values, v.equalsItself = true) :
    ((Options.invoke s.label args mark).run a).2 = ((Options.invoke s.label args mark').run b).2 ∧
      ((Options.invoke s.label args mark).after a ==
        (Options.invoke s.label args mark').after b) = true := by
  obtain ⟨houtcome, hafter⟩ :=
    Options.alike_invoke s h a b ⟨(ha.beq_iff hb).mp hab, hfrozen⟩
  exact ⟨houtcome, ((ha.invoke s args mark).beq_iff (hb.invoke s args mark')).mpr hafter.agrees⟩

theorem copyTo_congr (ha : a.WellFormed) (hb : b.WellFormed) (ht : t.WellFormed)
    (hu : u.WellFormed) (hab : (a == b) = true) (htu : (t == u) = true) (htfrozen : t.frozen = false)
    (hufrozen : u.frozen = false) :
    (a.copyTo t).2.result = .ok () ∧ (b.copyTo u).2.result = .ok () ∧
      ((a.copyTo t).1 == (b.copyTo u).1) = true := by
  have hagrees := (ha.beq_iff hb).mp hab
  have htargets : t.Alike u := ⟨(ht.beq_iff hu).mp htu, htfrozen.trans hufrozen.symm⟩
  refine ⟨?_, ?_, ?_⟩
  · exact (Options.copy_spec (fun name ↦ ha.admits .domainName name) htfrozen).1
  · exact (Options.copy_spec (fun name ↦ hb.admits .domainName name) hufrozen).1
  · exact ((ha.copy ht).beq_iff (hb.copy hu)).mpr
      (hagrees.alike_copy t u htargets).2.agrees

/-! ### Runs -/

variable [Script.Engine]

/-- An operation ends in the same way for two states that are alike, and leaves them alike. -/
theorem Operation.follows (operation : Operation) :
    Follows Pool.Alike operation.perform operation.perform := by
  cases operation with
  | step s => exact s.follows
  | create kind => exact (alike_hand _).follows
  | shortcut kind setter arguments =>
    refine Matches.follows (.state_bind fun p q h ↦ ?_)
    rw [h.clock]
    refine (Matches.ofOutcome _).bind fun s ↦ (Matches.ofOutcome _).bind fun answer ↦ ?_
    cases answer with
    | options o => exact alike_hand o
    | _ => exact .ofOutcome _
  | provide provider settings =>
    refine Matches.follows ?_
    simp only [perform]
    split
    · exact .ofOutcome _
    · exact (Matches.ofOutcome _).bind alike_hand
  | apply place spec =>
    refine Matches.follows (.state_bind fun p q h ↦ ?_)
    rw [h.clock]
    have hsteps := Template.Step.alike_performAll (spec.steps q.clock)
    exact Pool.alike_act (hsteps.bind fun _ ↦ .pure _) place

theorem alike_run {p q : Pool} (h : p.Alike q) (operations : List Operation) :
    (run p operations).Alike (run q operations) := by
  induction operations generalizing p q with
  | nil => exact h
  | cons operation rest ih => exact ih (operation.follows p q h).2.tick

/-- Any operations lead from interchangeable states to interchangeable states, and no comparison of two
places comes out differently there. -/
theorem run_congr (hdefault : Domain.publicSuffix Options.defaultDomain ≠ "")
    (hp : p.All Options.IsSound) (hq : q.All Options.IsSound) (h : Interchangeable p q)
    {operations : List Operation} (hsound : ∀ operation ∈ operations, operation.IsSound) :
    Interchangeable (run p operations) (run q operations) ∧
      (∀ operation : Operation,
        (operation.perform.result (run p operations)).map (fun _ ↦ ()) =
          (operation.perform.result (run q operations)).map fun _ ↦ ()) ∧
      ∀ (i j : Nat) (a b t u : Options), (run p operations).objects[i]? = some a →
        (run p operations).objects[j]? = some t → (run q operations).objects[i]? = some b →
          (run q operations).objects[j]? = some u → (a == t) = (b == u) := by
  have halike : (run p operations).Alike (run q operations) :=
    alike_run ((interchangeable_iff hp.wellFormed hq.wellFormed).mp h) operations
  have hp' := isSound_run hdefault hsound hp
  have hq' := isSound_run hdefault hsound hq
  refine ⟨(interchangeable_iff hp'.wellFormed hq'.wellFormed).mpr halike,
    fun operation ↦ (operation.follows _ _ halike).1, fun i j a b t u ha ht hb hu ↦ ?_⟩
  have hcomparable {r : Pool} (hr : r.All Options.IsSound) {k : Nat} {o : Options}
      (ho : r.objects[k]? = some o) : o.Comparable := (hr o (List.mem_of_getElem? ho)).comparable
  exact Options.beq_congr (hcomparable hp' ha) (hcomparable hq' hb) (hcomparable hp' ht)
    (hcomparable hq' hu) (halike.objects i a b ha hb).agrees (halike.objects j t u ht hu).agrees

/-- Equality of the options that programs come to hold, provided that they hand over sound values. It
is an equivalence; two options are equal just if they are of one kind and agree in every field, where
metadata agree if they give the same to every key. A call of a setter on equal options, both frozen
or neither, has one outcome, with the same error or none, and leaves them equal. The two calls may be
made on one occasion, or on two if all that is handed over equals itself, as a price that is not a
number does not. Copies of equal options onto equal targets that are not frozen succeed and leave the
targets equal. So equal options may be put in each other's place: a state with one replaced by
another is interchangeable with what it was, and from interchangeable states all operations end in
the same way and lead to interchangeable states, where no comparison comes out differently. -/
theorem equality_congruence (hdefault : Domain.publicSuffix Options.defaultDomain ≠ "") :
    (Equivalence fun a b : { o : Options // Reached o } ↦ (a.val == b.val) = true) ∧
      (∀ a b, Reached a → Reached b → ((a == b) = true ↔ a.Agrees b)) ∧
      (∀ a b, Reached a → Reached b → (a == b) = true → a.frozen = b.frozen →
        ∀ (s : Setter) (args : Arguments Value) (mark mark' : Nat),
          (mark = mark' ∨ ∀ v ∈ args.values, v.equalsItself = true) →
            ((Options.invoke s.label args mark).run a).2 =
                ((Options.invoke s.label args mark').run b).2 ∧
              ((Options.invoke s.label args mark).after a ==
                (Options.invoke s.label args mark').after b) = true) ∧
      (∀ a b t u, Reached a → Reached b → Reached t → Reached u → (a == b) = true →
        (t == u) = true → t.frozen = false → u.frozen = false →
          (a.copyTo t).2.result = .ok () ∧ (b.copyTo u).2.result = .ok () ∧
            ((a.copyTo t).1 == (b.copyTo u).1) = true) ∧
      (∀ (p : Pool) (i : Nat) (a b : Options), p.All Reached → p.objects[i]? = some a →
        (a == b) = true → a.frozen = b.frozen →
          Interchangeable p { p with objects := p.objects.set i b }) ∧
      ∀ p q : Pool, p.All Reached → q.All Reached → Interchangeable p q →
        ∀ operations : List Operation, (∀ operation ∈ operations, operation.IsSound) →
          Interchangeable (run p operations) (run q operations) ∧
            (∀ operation : Operation,
              (operation.perform.result (run p operations)).map (fun _ ↦ ()) =
                (operation.perform.result (run q operations)).map fun _ ↦ ()) ∧
            ∀ (i j : Nat) (a b t u : Options), (run p operations).objects[i]? = some a →
              (run p operations).objects[j]? = some t → (run q operations).objects[i]? = some b →
                (run q operations).objects[j]? = some u → (a == t) = (b == u) := by
  have hsound {o : Options} (ho : Reached o) : o.IsSound := ho.isSound hdefault
  have hwell {o : Options} (ho : Reached o) : o.WellFormed := (hsound ho).wellFormed
  refine ⟨?_, fun a b ha hb ↦ (hwell ha).beq_iff (hwell hb), ?_, ?_, ?_, ?_⟩
  · exact Options.equivalence_beq.comap fun a : { o : Options // Reached o } ↦
      ⟨a.val, (hsound a.2).comparable⟩
  · exact fun a b ha hb hab hfrozen s args mark mark' h ↦
      invoke_congr (hwell ha) (hwell hb) hab hfrozen s h
  · exact fun a b t u ha hb ht hu ↦ copyTo_congr (hwell ha) (hwell hb) (hwell ht) (hwell hu)
  · exact fun p i a b hp ha ↦ interchangeable_set (fun o ho ↦ hwell (hp o ho)) ha
  · exact fun p q hp hq h operations hoperations ↦
      run_congr hdefault (fun o ho ↦ hsound (hp o ho)) (fun o ho ↦ hsound (hq o ho)) h hoperations

end Session
end Programs

namespace Session

/-- Two options that are given the same metadata in different orders. -/
def twoOrders : List Operation :=
  [.create .ec2, .create .ec2,
    .step (.call 4 .userMetadata ⟨[.text "env", .text "prod"], []⟩),
    .step (.call 4 .userMetadata ⟨[.text "team", .text "ops"], []⟩),
    .step (.call 5 .userMetadata ⟨[.text "team", .text "ops"], []⟩),
    .step (.call 5 .userMetadata ⟨[.text "env", .text "prod"], []⟩)]

/-- The two hold different tables and equal each other. So do their successors after a call that names
a key pair, and what either leaves of the other when it is copied onto it; and a run that names a key
pair, clones the first and rules out key pairs goes the same way if the second stands in its place. -/
theorem equality_congruence_twoOrders :
    let p := run start twoOrders
    let operations : List Operation := [.step (.call 4 .keyPair ⟨[.text "ops"], []⟩),
      .step (.clone 4), .step (.call 4 .noKeyPair ⟨[], []⟩)]
    ∃ a b, p.objects[4]? = some a ∧ p.objects[5]? = some b ∧
      a.get? .userMetadata ≠ b.get? .userMetadata ∧ (a == b) = true ∧ (b == a) = true ∧
      a.Agrees b ∧
      ((Options.invoke "key_pair" ⟨[.text "ops"], []⟩ 6).after a ==
        (Options.invoke "key_pair" ⟨[.text "ops"], []⟩ 7).after b) = true ∧
      ((a.copyTo b).1 == (b.copyTo a).1) = true ∧
      Interchangeable (run p operations)
        (run { p with objects := p.objects.set 4 b } operations) := by
  intro p operations
  have htext (s : String) : (Value.text s).IsSound := .atom rfl
  have hsound : ∀ operation ∈ twoOrders, operation.IsSound := by
    simp [twoOrders, Operation.IsSound, Arguments.values, htext]
  have hoperations : ∀ operation ∈ operations, operation.IsSound := by
    simp [operations, Operation.IsSound, Arguments.values, htext]
  have hp : p.All Reached := fun o ho ↦ ⟨twoOrders, hsound, ho⟩
  obtain ⟨hequivalence, hagrees, hcall, hcopy, hset, hrun⟩ := equality_congruence (by decide)
  obtain ⟨a, b, ha, hb, hdiffer, hab, hafrozen, hbfrozen⟩ : ∃ a b : Options,
      p.objects[4]? = some a ∧ p.objects[5]? = some b ∧
        a.get? .userMetadata ≠ b.get? .userMetadata ∧ (a == b) = true ∧ a.frozen = false ∧
          b.frozen = false := by
    refine ⟨_, _, rfl, rfl, ?_, rfl, rfl, rfl⟩
    decide
  have hra := hp a (List.mem_of_getElem? ha)
  have hrb := hp b (List.mem_of_getElem? hb)
  have hfrozen := hafrozen.trans hbfrozen.symm
  have hba : (b == a) = true := hequivalence.symm (x := ⟨a, hra⟩) (y := ⟨b, hrb⟩) hab
  have hq : Pool.All Reached { p with objects := p.objects.set 4 b } := by
    intro o ho
    rcases List.mem_or_eq_of_mem_set ho with ho | rfl
    · exact hp o ho
    · exact hrb
  have hself : ∀ v ∈ [Value.text "ops"], v.equalsItself = true := List.forall_mem_singleton.mpr rfl
  refine ⟨a, b, ha, hb, hdiffer, hab, hba, (hagrees a b hra hrb).mp hab, ?_, ?_, ?_⟩
  · exact (hcall a b hra hrb hab hfrozen .keyPair ⟨[.text "ops"], []⟩ 6 7 (.inr hself)).2
  · exact (hcopy a b b a hra hrb hrb hra hab hba hbfrozen hafrozen).2.2
  · exact (hrun p _ hp hq (hset p 4 a b hp ha hab hfrozen) operations hoperations).1

end Session
end Provisioning
