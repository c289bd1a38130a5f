import Provisioning.Proofs.Options.Agreement
import Provisioning.Proofs.Options.WellFormed

/-!
Options that agree cannot be told apart. A call of a setter on two options that agree, of which both
are frozen or neither is, has one outcome and leaves them so, and the same holds of copying the one
and the other onto two such targets. Nothing but the kind, the two fields of the key pair and whether
the options are frozen decides how a call ends, and of these agreement is equality; the entry that is
added to metadata is added on both sides, wherever it comes to stand.
-/

set_option autoImplicit false

namespace Provisioning

open Provisioning.Action (Matches)

/-! ### Arguments -/

namespace Arguments

variable {α : Type}

/-- All values that are handed over. -/
def values (a : Arguments α) : List α :=
  a.positional ++ a.named.map Prod.snd

theorem mem_values_of_only? {a : Arguments α} {parameter : String} {v : α}
    (h : a.only? parameter = some v) : v ∈ a.values := by
  obtain ⟨positional, named⟩ := a
  obtain ⟨vs, hvs, hv⟩ := Option.bind_eq_some_iff.mp h
  simp only [arrange?] at hvs
  split at hvs
  · cases hvs
  split at hvs
  · cases hvs
  obtain ⟨rest, hrest, rfl⟩ := Option.map_eq_some_iff.mp hvs
  cases positional with
  | nil =>
    cases hnamed : named.lookup parameter with
    | none => simp [hnamed] at hrest
    | some w =>
      obtain rfl : [w] = rest := by simpa [hnamed] using hrest
      cases hv
      obtain ⟨before, after, rfl, -⟩ := List.lookup_eq_some_iff.mp hnamed
      simp [values]
  | cons x xs =>
    cases hv
    exact List.mem_append_left _ List.mem_cons_self

end Arguments

namespace Options

/-- Options that agree, and of which both are frozen or neither is. -/
structure Alike (a b : Options) : Prop where
  agrees : a.Agrees b
  frozen : a.frozen = b.frozen

variable {a b : Options}

theorem Alike.refl (a : Options) : a.Alike a :=
  ⟨.refl a, rfl⟩

theorem Agrees.rel_get? (h : a.Agrees b) (f : Field) :
    Option.Rel f.Agrees (a.get? f) (b.get? f) := by
  cases hx : a.get? f with
  | none =>
    have hnone : b.get? f = none := by
      rw [← Option.not_isSome_iff_eq_none, isSome_get?, ← h.kind, ← isSome_get?, hx]
      exact Bool.false_ne_true
    rw [hnone]
    exact .none
  | some x =>
    obtain ⟨y, hy, hxy⟩ := h.exists_get? hx
    rw [hy]
    exact .some hxy

/-- Fields of which agreement is equality are the same on both sides. -/
theorem Agrees.get?_eq (h : a.Agrees b) {f : Field} (hf : ∀ x y, f.Agrees x y → x = y) :
    a.get? f = b.get? f := by
  have hrel := h.rel_get? f
  generalize a.get? f = x at hrel ⊢
  generalize b.get? f = y at hrel ⊢
  cases hrel with
  | none => rfl
  | some hxy => rw [hf _ _ hxy]

theorem Alike.checkMutable_eq (h : a.Alike b) : a.checkMutable = b.checkMutable := by
  rw [checkMutable, checkMutable, h.frozen, h.agrees.kind]

theorem Alike.isSome_tryAs_eq (h : a.Alike b) (k : Kind) :
    (a.tryAs k).isSome = (b.tryAs k).isSome := by
  rw [tryAs, tryAs, h.agrees.kind]
  split <;> rfl

/-! ### One call -/

/-- Setting a field to contents that agree. -/
theorem alike_assign {f : Field} {x y : f.Content} (hxy : f.Agrees x y) :
    Matches Alike (assign f x) (assign f y) := by
  refine .write fun a b h ↦ ⟨⟨?_, fun g u v hu hv ↦ ?_⟩, ?_⟩
  · rw [kind_set, kind_set, h.agrees.kind]
  · by_cases hfg : f = g
    · subst hfg
      rw [get?_set_self, Option.map_eq_some_iff] at hu hv
      obtain ⟨_, _, rfl⟩ := hu
      obtain ⟨_, _, rfl⟩ := hv
      exact hxy
    · rw [get?_set_of_ne hfg] at hu hv
      exact h.agrees.get? g u v hu hv
  · rw [frozen_set, frozen_set, h.frozen]

theorem Change.alike_write (change : Change) : Matches Alike change.write change.write := by
  refine change.matches_write_of (fun f x ↦ alike_assign (.refl f x)) fun key value ↦ ?_
  refine .state_bind fun a b h ↦ alike_assign fun k ↦ ?_
  have hentries : ∀ k, a.common.userMetadata.get? k = b.common.userMetadata.get? k :=
    h.agrees.get? .userMetadata _ _ rfl rfl
  by_cases hk : key = k
  · subst hk
    rw [Table.get?_put_self, Table.get?_put_self]
  · rw [Table.get?_put_of_ne hk, Table.get?_put_of_ne hk, hentries]

/-- The same call on the same occasion or on another one. On another occasion a script or a price that
is handed over has to equal itself. -/
inductive Mutation.Repeats : Mutation → Mutation → Prop
  | same (m : Mutation) : Repeats m m
  | runScript {script : Value} (h : script.equalsItself = true) (mark mark' : Nat) :
      Repeats (.runScript script mark) (.runScript script mark')
  | spotPrice {price : Value} (h : price.equalsItself = true) (mark mark' : Nat) :
      Repeats (.spotPrice price mark) (.spotPrice price mark')

theorem Mutation.Repeats.setter {m m' : Mutation} (h : m.Repeats m') : m.setter = m'.setter := by
  cases h <;> rfl

/-- A script equals itself if what was handed over does. -/
theorem beq_self_of_checkScript {script : Value} {p : Payload}
    (h : (checkScript script).result = .ok p) (hself : script.equalsItself = true) :
    (p == p) = true := by
  refine Value.equals_self_iff.mpr ?_
  rcases checkScript_cases h with rfl | ⟨s, hs⟩
  · exact hself
  · rw [Payload.toValue, Value.equalsItself, hs]
    rfl

/-- A price equals itself if what was handed over does. -/
theorem beq_self_of_checkPrice {price : Value} {offer : Offer} {x : Float}
    (h : checkPrice price = .ok offer) (hx : offer.amount = .ok x)
    (hself : price.equalsItself = true) : (x == x) = true := by
  refine Decimal.beq_self_iff.mpr ?_
  rcases amount_of_checkPrice h hx with hpos | ⟨_, rfl⟩
  · exact Decimal.not_isNaN_of_pos hpos
  · simpa [Value.equalsItself] using hself

section Calls

variable [Domain.SuffixList]

/-- What a check looks at besides the arguments are the kind and the two fields of the key pair. -/
theorem Agrees.check_eq (h : a.Agrees b) (m : Mutation) : m.check a = m.check b := by
  cases m with
  | keyPair name =>
    simp only [Mutation.check, rulesOutKeyPair_congr (h.get?_eq (f := .noKeyPair) fun _ _ ↦ id)]
  | noKeyPair =>
    simp only [Mutation.check, isSome_keyPair?_congr (h.get?_eq (f := .keyPair) fun _ _ ↦ id)]
  | _ => rfl

theorem Mutation.Repeats.alike_perform {m m' : Mutation} (h : m.Repeats m') :
    Matches Alike m.perform m'.perform := by
  refine .state_bind fun a b hab ↦ ?_
  rw [← h.setter, hab.agrees.kind, hab.checkMutable_eq, hab.agrees.check_eq]
  by_cases hkind : b.kind.extends? m.setter.owner = true
  · rw [if_pos hkind, if_pos hkind]
    cases h with
    | same m =>
      exact (Matches.ofOutcome _).bind fun change ↦ (Matches.ofOutcome _).bind fun _ ↦
        change.alike_write
    | runScript hself mark mark' =>
      simp only [check, Action.liftM_outcome, Action.ofOutcome_return_bind]
      refine .ofOutcome_bind fun p hp ↦ (Matches.ofOutcome _).bind fun _ ↦ alike_assign ?_
      exact Held.same_iff.mpr (.inl (beq_self_of_checkScript hp hself))
    | spotPrice hself mark mark' =>
      simp only [check, Action.liftM_outcome, Action.ofOutcome_return_bind]
      refine .ofOutcome_bind fun offer hoffer ↦ (Matches.ofOutcome _).bind fun _ ↦ ?_
      refine .ofOutcome_bind fun x hx ↦ alike_assign ?_
      exact Held.same_iff.mpr (.inl (beq_self_of_checkPrice hoffer hx hself))
  · rw [if_neg hkind, if_neg hkind]
    exact .ofOutcome _

omit [Domain.SuffixList] in
/-- Arguments that fit a setter ask for the same call on every occasion. -/
theorem Setter.repeats_mutation? (s : Setter) {args : Arguments Value} {mark mark' : Nat}
    (h : mark = mark' ∨ ∀ v ∈ args.values, v.equalsItself = true) :
    Option.Rel Mutation.Repeats (s.mutation? args mark) (s.mutation? args mark') := by
  have hsame (m : Option Mutation) : Option.Rel Mutation.Repeats m m := by
    cases m with
    | none => exact .none
    | some m => exact .some (.same m)
  rcases h with rfl | hself
  · exact hsame _
  cases s with
  | runScript =>
    cases hscript : args.only? "script" with
    | none =>
      simp only [mutation?, hscript, Option.map_none]
      exact .none
    | some v =>
      simp only [mutation?, hscript]
      exact .some (.runScript (hself v (Arguments.mem_values_of_only? hscript)) mark mark')
  | spotPrice =>
    cases hprice : args.only? "price" with
    | none =>
      simp only [mutation?, hprice, Option.map_none]
      exact .none
    | some v =>
      simp only [mutation?, hprice]
      exact .some (.spotPrice (hself v (Arguments.mem_values_of_only? hprice)) mark mark')
  | _ => exact hsame _

/-- A call by name has one outcome for options that are alike and leaves them so. The two calls may
be made on one occasion, or on two if all that is handed over equals itself. -/
theorem alike_invoke (s : Setter) {args : Arguments Value} {mark mark' : Nat}
    (h : mark = mark' ∨ ∀ v ∈ args.values, v.equalsItself = true) :
    Matches Alike (invoke s.label args mark) (invoke s.label args mark') := by
  refine matches_invoke_of (fun a b hab ↦ by rw [hab.agrees.kind]) ?_
  have hrepeats := s.repeats_mutation? h
  simp only [Setter.perform]
  generalize s.mutation? args mark = m at hrepeats ⊢
  generalize s.mutation? args mark' = m' at hrepeats ⊢
  cases hrepeats with
  | none => exact .ofOutcome _
  | some hrepeats => exact hrepeats.alike_perform.bind fun _ ↦ .pure _

end Calls

theorem Alike.freeze (h : a.Alike b) : a.freeze.Alike b.freeze := by
  refine ⟨⟨h.agrees.kind, fun f x y hx hy ↦ h.agrees.get? f x y ?_ ?_⟩, rfl⟩
  · exact (get?_withFrozen a true f).symm.trans hx
  · exact (get?_withFrozen b true f).symm.trans hy

/-! ### One copy -/

theorem alike_copyFields (h : a.Agrees b) (fs : List Field) :
    Matches Alike (a.copyFields fs) (b.copyFields fs) := by
  induction fs with
  | nil => exact .pure ()
  | cons f rest ih =>
    have hrel := h.rel_get? f
    rw [copyFields, copyFields]
    generalize a.get? f = x at hrel ⊢
    generalize b.get? f = y at hrel ⊢
    cases hrel with
    | none => exact (Matches.pure ()).bind fun _ ↦ ih
    | some hxy => exact (alike_assign hxy).bind fun _ ↦ ih

theorem alike_copyBase (h : a.Agrees b) : Matches Alike a.copyBase b.copyBase := by
  refine .state_bind fun t u htu ↦ ?_
  rw [htu.checkMutable_eq]
  exact (Matches.ofOutcome _).bind fun _ ↦ alike_copyFields h _

theorem alike_copyDeclared (h : a.Agrees b) (k : Kind) :
    Matches Alike (a.copyDeclared k) (b.copyDeclared k) := by
  refine .state_bind fun t u htu ↦ ?_
  rw [htu.isSome_tryAs_eq]
  split
  · exact alike_copyFields h _
  · exact .pure ()

section Copies

variable [Domain.SuffixList]

theorem alike_copyDomain (domain : String) :
    Matches Alike (copyDomain domain) (copyDomain domain) := by
  refine .state_bind fun t u htu ↦ ?_
  rw [htu.isSome_tryAs_eq]
  split
  · exact (Mutation.Repeats.same _).alike_perform
  · exact .pure ()

/-- Copies of options that agree, onto targets that are alike, have one outcome and leave the targets
alike. -/
theorem Agrees.alike_copy (h : a.Agrees b) : Matches Alike a.copy b.copy := by
  obtain ⟨c, x, frozen⟩ := a
  obtain ⟨d, y, frozen'⟩ := b
  refine (alike_copyBase h).bind fun _ ↦ ?_
  have hkind := h.kind
  cases x <;> cases y <;> cases hkind
  case base => exact .pure ()
  case softLayer s t =>
    obtain rfl : s = t := SoftLayer.ext (h.get? .domainName _ _ rfl rfl)
    exact alike_copyDomain _
  case ec2 => exact alike_copyDeclared h .ec2
  case awsEc2 => exact (alike_copyDeclared h .ec2).bind fun _ ↦ alike_copyDeclared h .awsEc2

/-- Clones of options that agree are alike, or cloning them fails by one error. -/
theorem Agrees.clone_cases (h : a.Agrees b) :
    (∃ e, a.clone.result = .error e ∧ b.clone.result = .error e) ∨
      ∃ c d, a.clone.result = .ok c ∧ b.clone.result = .ok d ∧ c.Alike d := by
  obtain ⟨houtcome, halike⟩ := h.alike_copy (fresh a.kind) (fresh b.kind) (h.kind ▸ .refl _)
  have hresult : a.copy.result (fresh a.kind) = b.copy.result (fresh b.kind) :=
    congrArg Outcome.result houtcome
  simp only [clone, Outcome.result_bind, Action.result_settle, hresult]
  cases b.copy.result (fresh b.kind) with
  | error e => exact .inl ⟨e, rfl, rfl⟩
  | ok u => exact .inr ⟨_, _, rfl, rfl, halike⟩

end Copies

end Options
end Provisioning
