import Provisioning.Proofs.Options.Pool

/-!
Options seen as options of a wider kind. What a narrower kind has and the wider one does not have
plays no part in calls that both have, so a run of such calls gives the same outcomes on both sides,
and its end may be copied to the wider kind as well as its start.
-/

set_option autoImplicit false

namespace Provisioning.Options

open Provisioning.Action (Matches)

variable {k : Kind} {d c : Options}

/-- The options `c` of kind `k` are what `d` is apart from the fields that `k` does not have. -/
structure Narrows (k : Kind) (d c : Options) : Prop where
  extends? : d.kind.extends? k = true
  kind : c.kind = k
  mutable : d.frozen = false ∧ c.frozen = false
  get? : ∀ f, k.extends? f.owner = true → d.get? f = c.get? f

theorem narrows_fresh {j : Kind} (h : j.extends? k = true) : Narrows k (fresh j) (fresh k) := by
  refine ⟨(kind_fresh j).symm ▸ h, kind_fresh k, ⟨rfl, rfl⟩, fun f hf ↦ ?_⟩
  rw [get?_fresh, get?_fresh, if_pos hf, if_pos (Kind.extends?_trans h hf)]

/-! ### One call -/

theorem matches_assign (f : Field) (x : f.Content) :
    Matches (Narrows k) (assign f x) (assign f x) := by
  refine .write fun d c h ↦ ⟨?_, ?_, ?_, fun g hg ↦ ?_⟩
  · rw [kind_set]
    exact h.extends?
  · rw [kind_set]
    exact h.kind
  · rw [frozen_set, frozen_set]
    exact h.mutable
  · by_cases hfg : f = g
    · subst hfg
      rw [get?_set_self, get?_set_self, h.get? f hg]
    · rw [get?_set_of_ne hfg, get?_set_of_ne hfg]
      exact h.get? g hg

theorem Change.matches_write (change : Change) :
    Matches (Narrows k) change.write change.write := by
  refine change.matches_write_of matches_assign fun key value ↦ .state_bind fun d c h ↦ ?_
  -- The entry is added to entries that are the same on both sides.
  have hentries : d.common.userMetadata = c.common.userMetadata :=
    Option.some.inj (h.get? .userMetadata k.extends?_base)
  rw [hentries]
  exact matches_assign .userMetadata _

section Calls

variable [Domain.SuffixList]

/-- What a check looks at besides the arguments is a field that the kind of its setter declares. -/
theorem Narrows.check_eq (h : Narrows k d c) {m : Mutation}
    (hm : k.extends? m.setter.owner = true) : m.check d = m.check c := by
  -- Only the two setters for key pairs look at what is there.
  cases m with
  | keyPair name => simp only [Mutation.check, rulesOutKeyPair_congr (h.get? .noKeyPair hm)]
  | noKeyPair => simp only [Mutation.check, isSome_keyPair?_congr (h.get? .keyPair hm)]
  | _ => rfl

theorem Mutation.matches_perform {m : Mutation} (hm : k.extends? m.setter.owner = true) :
    Matches (Narrows k) m.perform m.perform := by
  refine .state_bind fun d c h ↦ ?_
  have hmutable : d.checkMutable = c.checkMutable := by
    rw [checkMutable, checkMutable, h.mutable.1, h.mutable.2]
    rfl
  rw [if_pos (Kind.extends?_trans h.extends? hm), if_pos (h.kind ▸ hm), h.check_eq hm, hmutable]
  exact (Matches.ofOutcome _).bind fun change ↦ (Matches.ofOutcome _).bind fun _ ↦
    change.matches_write

theorem matches_invoke {s : Setter} (hs : k.extends? s.owner = true) (a : Arguments Value)
    (mark : Nat) : Matches (Narrows k) (invoke s.label a mark) (invoke s.label a mark) := by
  refine matches_invoke_of (fun d c h ↦ ?_) ?_
  · rw [Kind.extends?_trans h.extends? hs, h.kind, hs]
  · simp only [Setter.perform]
    cases hmutation : s.mutation? a mark with
    | none => exact .ofOutcome _
    | some m =>
      obtain rfl := Setter.setter_of_mutation? hmutation
      exact (Mutation.matches_perform hs).bind fun _ ↦ .pure _

/-- A call that options of kind `k` have leaves alone whatever they do not have. -/
theorem get?_after_invoke {s : Setter} (hs : k.extends? s.owner = true) (a : Arguments Value)
    (mark : Nat) (o : Options) {f : Field} (hf : ¬k.extends? f.owner = true) :
    ((invoke s.label a mark).after o).get? f = o.get? f := by
  rcases invoke_cases s a mark o with ⟨_, _, hsame⟩ | ⟨m, c, hmutation, hcheck, _, _, hafter⟩
  · rw [hsame]
  · obtain rfl := Setter.setter_of_mutation? hmutation
    obtain ⟨_, _, hget⟩ := Mutation.write_frames hcheck
    rw [hafter]
    refine hget f fun hmem ↦ hf ?_
    rwa [Setter.owner_of_mem_fields hmem]

end Calls

/-! ### The copy of what is narrowed -/

section Copies

variable [Domain.SuffixList]

/-- Copied onto new options of the wider kind, options become what they are narrowed to. -/
theorem Narrows.copy_eq (h : Narrows k d c) (hdomain : ∀ name, d.get? .domainName = some name →
      Domain.hasPublicSuffix name = true) :
    d.copy.result (fresh k) = .ok () ∧ d.copy.after (fresh k) = c := by
  have hfresh : (fresh k).frozen = false := rfl
  obtain ⟨hok, hcopied⟩ := copy_spec hdomain hfresh
  refine ⟨hok, ext_get? ?_ (hcopied.frozen.trans h.mutable.2.symm) fun f ↦ ?_⟩
  · rw [hcopied.kind, kind_fresh, h.kind]
  · rw [hcopied.get? f, kind_fresh]
    by_cases hf : k.extends? f.owner = true
    · rw [Kind.extends?_trans h.extends? hf, hf, Bool.and_self, if_pos rfl, h.get? f hf]
    · have hnone : c.get? f = none := by
        rw [← Option.not_isSome_iff_eq_none, isSome_get?, h.kind]
        exact hf
      rw [hnone, Bool.eq_false_iff.mpr hf, Bool.and_false, get?_fresh, if_neg hf]
      rfl

theorem narrows_copy (hkind : d.kind.extends? k = true) (hfrozen : d.frozen = false)
    (hdomain : ∀ name, d.get? .domainName = some name → Domain.hasPublicSuffix name = true) :
    Narrows k d (d.copy.after (fresh k)) := by
  have hfresh : (fresh k).frozen = false := rfl
  obtain ⟨_, hcopied⟩ := copy_spec hdomain hfresh
  refine ⟨hkind, hcopied.kind.trans (kind_fresh k), ⟨hfrozen, hcopied.frozen⟩, fun f hf ↦ ?_⟩
  rw [hcopied.get? f, kind_fresh, Kind.extends?_trans hkind hf, hf, Bool.and_self, if_pos rfl]

end Copies

/-! ### Several calls -/

/-- A call of a setter. The mark is the occasion of the call. -/
structure Call where
  setter : Setter
  arguments : Arguments Value
  mark : Nat

section Runs

variable [Domain.SuffixList]

/-- Makes a call. -/
def Call.perform (call : Call) : Action Options Answer :=
  invoke call.setter.label call.arguments call.mark

/-- The options after several calls, each of which is made whether or not those before it failed. -/
def afterAll (calls : List Call) (o : Options) : Options :=
  calls.foldl (fun o call ↦ call.perform.after o) o

/-- The outcomes of several calls in order. -/
def outcomes : List Call → Options → List (Outcome Answer)
  | [], _ => []
  | call :: rest, o => (call.perform.run o).2 :: outcomes rest (call.perform.after o)

theorem WellFormed.afterAll {o : Options} (h : o.WellFormed) (calls : List Call) :
    (afterAll calls o).WellFormed := by
  induction calls generalizing o with
  | nil => exact h
  | cons call rest ih => exact ih (h.invoke call.setter call.arguments call.mark)

/-- A run of calls that options of kind `k` have gives the same outcomes for options and for what
they are narrowed to, and narrows its end like its start. -/
theorem Narrows.run (h : Narrows k d c) {calls : List Call}
    (hcalls : ∀ call ∈ calls, k.extends? call.setter.owner = true) :
    outcomes calls d = outcomes calls c ∧ Narrows k (afterAll calls d) (afterAll calls c) := by
  induction calls generalizing d c with
  | nil => exact ⟨rfl, h⟩
  | cons call rest ih =>
    rw [List.forall_mem_cons] at hcalls
    obtain ⟨houtcome, hnext⟩ := matches_invoke hcalls.1 call.arguments call.mark d c h
    obtain ⟨houtcomes, hlast⟩ := ih hnext hcalls.2
    exact ⟨congrArg₂ List.cons houtcome houtcomes, hlast⟩

theorem get?_afterAll {calls : List Call}
    (hcalls : ∀ call ∈ calls, k.extends? call.setter.owner = true) (o : Options) {f : Field}
    (hf : ¬k.extends? f.owner = true) : (afterAll calls o).get? f = o.get? f := by
  induction calls generalizing o with
  | nil => rfl
  | cons call rest ih =>
    rw [List.forall_mem_cons] at hcalls
    exact (ih hcalls.2 _).trans (get?_after_invoke hcalls.1 call.arguments call.mark o hf)

/-- What is the same about a run of calls on `d` and the same run on options `c` of kind `k`. -/
structure Commutes (k : Kind) (calls : List Call) (d c : Options) : Prop where
  outcomes : outcomes calls d = Options.outcomes calls c
  copied : ((afterAll calls d).copyTo (fresh k)).2.result = .ok ()
  same : (((afterAll calls d).copyTo (fresh k)).1 == afterAll calls c) = true
  added : ∀ f, ¬k.extends? f.owner = true → (afterAll calls d).get? f = d.get? f

theorem Narrows.commutes (h : Narrows k d c) (hwell : d.WellFormed) {calls : List Call}
    (hcalls : ∀ call ∈ calls, k.extends? call.setter.owner = true) : Commutes k calls d c := by
  obtain ⟨houtcomes, hlast⟩ := h.run hcalls
  have hend : (afterAll calls d).WellFormed := hwell.afterAll calls
  obtain ⟨hok, hcopy⟩ := hlast.copy_eq (hend.admits .domainName)
  refine ⟨houtcomes, hok, ?_, fun f hf ↦ get?_afterAll hcalls d hf⟩
  obtain ⟨hnodup, _⟩ := hend.admits .userMetadata _ rfl
  rw [Option.some.inj (hlast.get? .userMetadata k.extends?_base)] at hnodup
  rw [copyTo, ← Action.after, hcopy]
  exact withFrozen_beq_self hnodup _

/-- New options of two kinds of which one extends the other, and calls that the wider kind has: on
both sides the calls have the same outcomes, and at the end a copy of the narrower options onto new
ones of the wider kind succeeds and equals the wider options. The fields that only the narrower kind
has are as in new options. The same holds of any reachable options that are not frozen and what a
copy of them onto new options of the wider kind gives, and then these fields keep their values. -/
theorem runs_commute (hdefault : Domain.publicSuffix defaultDomain ≠ "") {j k : Kind}
    (hkind : j.extends? k = true) {calls : List Call}
    (hcalls : ∀ call ∈ calls, k.extends? call.setter.owner = true) :
    Commutes k calls (fresh j) (fresh k) ∧
      ∀ (p : Pool) (i : Nat) (d : Options), p.Reachable → p.objects[i]? = some d → d.kind = j →
        d.frozen = false →
        (d.copyTo (fresh k)).2.result = .ok () ∧ Commutes k calls d (d.copyTo (fresh k)).1 := by
  constructor
  · have hwell := wellFormed_fresh (Pool.hasPublicSuffix_defaultDomain hdefault) j
    exact (narrows_fresh hkind).commutes hwell hcalls
  · rintro p i d hp hd rfl hfrozen
    have hwell : d.WellFormed := hp.wellFormed hdefault d (List.mem_of_getElem? hd)
    have hdomain := hwell.admits .domainName
    have hnarrows := narrows_copy hkind hfrozen hdomain
    exact ⟨(hnarrows.copy_eq hdomain).1, hnarrows.commutes hwell hcalls⟩

end Runs

/-- A key pair is named and then to be ruled out, which is refused; then metadata is added. -/
def keyPairCalls : List Call :=
  [⟨.keyPair, ⟨[.text "ops"], []⟩, 0⟩, ⟨.noKeyPair, ⟨[], []⟩, 1⟩,
    ⟨.userMetadata, ⟨[.text "env", .text "prod"], []⟩, 2⟩]

theorem runs_commute_keyPair :
    (outcomes keyPairCalls (fresh .awsEc2)).map (fun r ↦ r.result.isOk) = [true, false, true] ∧
      Commutes .ec2 keyPairCalls (fresh .awsEc2) (fresh .ec2) ∧
      ∃ d, ((Pool.start [.awsEc2]).run [.call 0 .subnetId ⟨[.text "s"], []⟩]).objects = [d] ∧
        (afterAll keyPairCalls d).get? .subnetId = some (some "s") ∧
        Commutes .ec2 keyPairCalls d (d.copyTo (fresh .ec2)).1 := by
  have hcalls : ∀ call ∈ keyPairCalls, Kind.ec2.extends? call.setter.owner = true := by
    simp [keyPairCalls, Setter.owner, Kind.extends?]
  obtain ⟨hfresh, hreachable⟩ := runs_commute (j := .awsEc2) (by decide) rfl hcalls
  obtain ⟨_, hcommutes⟩ := hreachable
    ((Pool.start [.awsEc2]).run [.call 0 .subnetId ⟨[.text "s"], []⟩]) 0 _ ⟨_, _, rfl⟩ rfl rfl rfl
  exact ⟨rfl, hfresh, _, rfl, hcommutes.added .subnetId (by decide), hcommutes⟩

end Provisioning.Options
