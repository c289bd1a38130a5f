import Provisioning.Proofs.Options.WellFormed

/-!
Copies of options. `Copied` says what a copy has done to its target, and two such steps one after the
other make one; each layer of a copy is such a step. A copy onto options that are not frozen never
fails, because the one value that is checked again, the domain, has passed the same check before.
-/

set_option autoImplicit false

namespace Provisioning.Options

open Provisioning.Action

variable {source target between result : Options} {which which' : Field → Bool}

/-- `result` is `target` with the fields of `source` that `which` selects, where `target` has them. -/
structure Copied (source : Options) (which : Field → Bool) (target result : Options) : Prop where
  kind : result.kind = target.kind
  frozen : result.frozen = target.frozen
  get? : ∀ f, result.get? f =
    if which f && target.kind.extends? f.owner then source.get? f else target.get? f

theorem Copied.refl (source target : Options) : Copied source (fun _ ↦ false) target target :=
  ⟨rfl, rfl, fun _ ↦ rfl⟩

/-- A target that does not have the fields that a kind declares is what it is without them. -/
theorem Copied.refl_of_not_extends {k : Kind} (h : ¬target.kind.extends? k = true) :
    Copied source (fun f ↦ f.owner == k) target target := by
  refine ⟨rfl, rfl, fun f ↦ ?_⟩
  by_cases howner : f.owner = k
  · rw [howner, Bool.eq_false_iff.mpr h, Bool.and_false]
    rfl
  · rw [beq_false_of_ne howner]
    rfl

theorem Copied.trans (h : Copied source which target between)
    (h' : Copied source which' between result) :
    Copied source (fun f ↦ which f || which' f) target result := by
  refine ⟨h'.kind.trans h.kind, h'.frozen.trans h.frozen, fun f ↦ ?_⟩
  rw [h'.get? f, h.get? f, h.kind]
  cases which f <;> cases which' f <;> cases target.kind.extends? f.owner <;> rfl

theorem Copied.congr (h : Copied source which target result)
    (heq : ∀ f, (which f && target.kind.extends? f.owner) =
      (which' f && target.kind.extends? f.owner)) : Copied source which' target result :=
  ⟨h.kind, h.frozen, fun f ↦ by rw [h.get? f, heq f]⟩

/-- A field that the source has is copied by setting it. -/
theorem copied_set {f : Field} {x : f.Content} (hx : source.get? f = some x) :
    Copied source (· == f) target (target.set f x) := by
  refine ⟨kind_set target f x, frozen_set target f x, fun g ↦ ?_⟩
  by_cases hfg : g = f
  · subst hfg
    rw [get?_set_self, ← isSome_get?, beq_self_eq_true, Bool.true_and]
    cases htarget : target.get? g with
    | none => rfl
    | some y => exact hx.symm
  · rw [get?_set_of_ne (Ne.symm hfg), beq_false_of_ne hfg]
    rfl

/-- Copying a list of fields never fails and copies those of them that the source has. -/
theorem copyFields_spec (source : Options) (fs : List Field) (target : Options) :
    (source.copyFields fs).result target = .ok () ∧
      Copied source (fun f ↦ fs.contains f && source.kind.extends? f.owner) target
        ((source.copyFields fs).after target) := by
  induction fs generalizing target with
  | nil => exact ⟨rfl, (Copied.refl source target).congr fun f ↦ rfl⟩
  | cons f rest ih =>
    have hhas : source.kind.extends? f.owner = (source.get? f).isSome := (isSome_get? source f).symm
    cases hget : source.get? f with
    | none =>
      have hresult : (source.copyFields (f :: rest)).result target =
          (source.copyFields rest).result target := by
        simp [copyFields, hget]
      have hafter : (source.copyFields (f :: rest)).after target =
          (source.copyFields rest).after target := by
        simp [copyFields, hget]
      obtain ⟨hok, hcopied⟩ := ih target
      rw [hresult, hafter]
      refine ⟨hok, hcopied.congr fun g ↦ ?_⟩
      by_cases hg : g = f
      · subst hg
        simp [hhas, hget]
      · simp [hg]
    | some x =>
      have hresult : (source.copyFields (f :: rest)).result target =
          (source.copyFields rest).result (target.set f x) := by
        simp [copyFields, hget, result_bind, assign]
      have hafter : (source.copyFields (f :: rest)).after target =
          (source.copyFields rest).after (target.set f x) := by
        simp [copyFields, hget, after_bind, assign]
      obtain ⟨hok, hcopied⟩ := ih (target.set f x)
      rw [hresult, hafter]
      refine ⟨hok, ((copied_set hget).trans hcopied).congr fun g ↦ ?_⟩
      by_cases hg : g = f
      · subst hg
        simp [hhas, hget]
      · simp [hg, beq_false_of_ne hg]

/-! ### The layers of a copy -/

theorem contains_declaredBy (k : Kind) (f : Field) :
    (Field.declaredBy k).contains f = (f.owner == k) := by
  cases k <;> cases f <;> rfl

theorem copyFields_declaredBy {k : Kind} (hsource : source.kind.extends? k = true)
    (target : Options) :
    (source.copyFields (Field.declaredBy k)).result target = .ok () ∧
      Copied source (fun f ↦ f.owner == k) target
        ((source.copyFields (Field.declaredBy k)).after target) := by
  obtain ⟨hok, hcopied⟩ := copyFields_spec source (Field.declaredBy k) target
  refine ⟨hok, hcopied.congr fun f ↦ ?_⟩
  rw [contains_declaredBy]
  by_cases howner : f.owner = k
  · rw [howner, hsource, Bool.and_true]
  · rw [beq_false_of_ne howner]
    rfl

/-- The common fields are copied onto every target that is not frozen. -/
theorem copyBase_spec (source : Options) (h : target.frozen = false) :
    source.copyBase.result target = .ok () ∧
      Copied source (fun f ↦ f.owner == .base) target (source.copyBase.after target) := by
  have hresult : source.copyBase.result target =
      (source.copyFields (Field.declaredBy .base)).result target := by
    simp [copyBase, result_bind, checkMutable, h]
  have hafter : source.copyBase.after target =
      (source.copyFields (Field.declaredBy .base)).after target := by
    simp [copyBase, after_bind, checkMutable, h]
  rw [hresult, hafter]
  exact copyFields_declaredBy (Kind.extends?_base _) target

/-- A frozen target refuses the common fields. -/
theorem copyBase_frozen (source : Options) (h : target.frozen = true) :
    source.copyBase.result target = .error (.readOnly target.kind) ∧
      source.copyBase.after target = target := by
  simp [copyBase, result_bind, after_bind, checkMutable, h]

/-- The fields that a kind declares are copied onto a target that has them. -/
theorem copyDeclared_spec {k : Kind} (hsource : source.kind.extends? k = true) (target : Options) :
    (source.copyDeclared k).result target = .ok () ∧
      Copied source (fun f ↦ f.owner == k) target ((source.copyDeclared k).after target) := by
  by_cases htarget : target.kind.extends? k = true
  · have hresult : (source.copyDeclared k).result target =
        (source.copyFields (Field.declaredBy k)).result target := by
      simp [copyDeclared, result_bind, tryAs, htarget]
    have hafter : (source.copyDeclared k).after target =
        (source.copyFields (Field.declaredBy k)).after target := by
      simp [copyDeclared, after_bind, tryAs, htarget]
    rw [hresult, hafter]
    exact copyFields_declaredBy hsource target
  · have hresult : (source.copyDeclared k).result target = .ok () := by
      simp [copyDeclared, result_bind, tryAs, htarget]
    have hafter : (source.copyDeclared k).after target = target := by
      simp [copyDeclared, after_bind, tryAs, htarget]
    rw [hresult, hafter]
    exact ⟨rfl, .refl_of_not_extends htarget⟩

section Domains

variable [Domain.SuffixList]

/-- A domain that ends in a public suffix is set on a target that has one. -/
theorem copyDomain_spec {name : String} (hget : source.get? .domainName = some name)
    (hname : Domain.hasPublicSuffix name = true) (h : target.frozen = false) :
    (copyDomain name).result target = .ok () ∧
      Copied source (fun f ↦ f.owner == .softLayer) target ((copyDomain name).after target) := by
  by_cases htarget : target.kind.extends? .softLayer = true
  · have hcheck : ((Mutation.domainName (.text name)).check target).result =
        .ok (.domainName name) := by
      simp [Mutation.check, Outcome.result_andThen, checkDomain_eq_ok hname]
      rfl
    have hresult : (copyDomain name).result target = .ok () := by
      simp [copyDomain, result_bind, tryAs, htarget, Mutation.perform, hcheck, checkMutable, h,
        Mutation.setter, Setter.owner, Change.write, assign]
    have hafter : (copyDomain name).after target = target.set .domainName name := by
      simp [copyDomain, after_bind, tryAs, htarget, Mutation.perform, hcheck, checkMutable, h,
        Mutation.setter, Setter.owner, Change.write, assign]
    rw [hresult, hafter]
    refine ⟨rfl, (copied_set hget).congr fun f ↦ ?_⟩
    cases f <;> rfl
  · have hresult : (copyDomain name).result target = .ok () := by
      simp [copyDomain, result_bind, tryAs, htarget]
    have hafter : (copyDomain name).after target = target := by
      simp [copyDomain, after_bind, tryAs, htarget]
    rw [hresult, hafter]
    exact ⟨rfl, .refl_of_not_extends htarget⟩

/-! ### The copy as a whole -/

/-- A copy onto options that are not frozen succeeds, and every field that both kinds have is that of
the source. -/
theorem copy_spec (hdomain : ∀ name, source.get? .domainName = some name →
      Domain.hasPublicSuffix name = true) (h : target.frozen = false) :
    source.copy.result target = .ok () ∧
      Copied source (fun f ↦ source.kind.extends? f.owner) target (source.copy.after target) := by
  obtain ⟨hbase, hcopied⟩ := copyBase_spec source h
  have hfrozen : (source.copyBase.after target).frozen = false := hcopied.frozen.trans h
  cases hextras : source.extras with
  | base =>
    have hkind : source.kind = .base := by rw [kind, hextras, Extras.kind]
    have hresult : source.copy.result target = .ok () := by
      simp [copy, hextras, result_bind, hbase]
    have hafter : source.copy.after target = source.copyBase.after target := by
      simp [copy, hextras, after_bind, hbase]
    rw [hresult, hafter, hkind]
    refine ⟨rfl, hcopied.congr fun f ↦ ?_⟩
    cases f <;> rfl
  | softLayer s =>
    have hkind : source.kind = .softLayer := by rw [kind, hextras, Extras.kind]
    have hget : source.get? .domainName = some s.domainName := by
      simp [get?, hextras, Extras.softLayer?]
    obtain ⟨hlast, hlastCopied⟩ := copyDomain_spec hget (hdomain _ hget) hfrozen
    have hresult : source.copy.result target = .ok () := by
      simp [copy, hextras, result_bind, hbase, hlast]
    have hafter : source.copy.after target =
        (copyDomain s.domainName).after (source.copyBase.after target) := by
      simp [copy, hextras, after_bind, hbase]
    rw [hresult, hafter, hkind]
    refine ⟨rfl, (hcopied.trans hlastCopied).congr fun f ↦ ?_⟩
    cases f <;> rfl
  | ec2 e =>
    have hkind : source.kind = .ec2 := by rw [kind, hextras, Extras.kind]
    have hextends : source.kind.extends? .ec2 = true := by rw [hkind]; rfl
    obtain ⟨hlast, hlastCopied⟩ := copyDeclared_spec hextends (source.copyBase.after target)
    have hresult : source.copy.result target = .ok () := by
      simp [copy, hextras, result_bind, hbase, hlast]
    have hafter : source.copy.after target =
        (source.copyDeclared .ec2).after (source.copyBase.after target) := by
      simp [copy, hextras, after_bind, hbase]
    rw [hresult, hafter, hkind]
    refine ⟨rfl, (hcopied.trans hlastCopied).congr fun f ↦ ?_⟩
    cases f <;> rfl
  | awsEc2 e a =>
    have hkind : source.kind = .awsEc2 := by rw [kind, hextras, Extras.kind]
    have hextends (k : Kind) (hk : Kind.awsEc2.extends? k = true) :
        source.kind.extends? k = true := hkind ▸ hk
    obtain ⟨hec2, hec2Copied⟩ :=
      copyDeclared_spec (hextends .ec2 rfl) (source.copyBase.after target)
    obtain ⟨hlast, hlastCopied⟩ := copyDeclared_spec (hextends .awsEc2 rfl)
      ((source.copyDeclared .ec2).after (source.copyBase.after target))
    have hresult : source.copy.result target = .ok () := by
      simp [copy, hextras, result_bind, hbase, hec2, hlast]
    have hafter : source.copy.after target = (source.copyDeclared .awsEc2).after
        ((source.copyDeclared .ec2).after (source.copyBase.after target)) := by
      simp [copy, hextras, after_bind, hbase, hec2]
    rw [hresult, hafter, hkind]
    refine ⟨rfl, ((hcopied.trans hec2Copied).trans hlastCopied).congr fun f ↦ ?_⟩
    cases f <;> rfl

/-- A copy onto frozen options fails before anything is written. -/
theorem copy_frozen (source : Options) (h : target.frozen = true) :
    source.copy.result target = .error (.readOnly target.kind) ∧ source.copy.after target = target := by
  obtain ⟨hresult, hafter⟩ := copyBase_frozen source h
  simp [copy, result_bind, after_bind, hresult, hafter]

/-- A copy of well-formed options onto well-formed ones leaves them well formed, whether or not it
fails. The fields that depend on each other are declared by one kind and so are copied together. -/
theorem WellFormed.copy (hsource : source.WellFormed) (htarget : target.WellFormed) :
    (source.copy.after target).WellFormed := by
  cases hfrozen : target.frozen with
  | true =>
    rw [(copy_frozen source hfrozen).2]
    exact htarget
  | false =>
    obtain ⟨_, hcopied⟩ := copy_spec (fun name hname ↦ hsource.admits .domainName name hname) hfrozen
    refine ⟨fun f x hx ↦ ?_, ?_, ?_⟩
    · rw [hcopied.get? f] at hx
      split at hx
      · exact hsource.admits f x hx
      · exact htarget.admits f x hx
    · have hboth : (source.kind.extends? .base && target.kind.extends? .base) = true := by
        rw [Kind.extends?_base, Kind.extends?_base, Bool.and_self]
      rw [(hcopied.get? .port).trans (if_pos hboth), (hcopied.get? .seconds).trans (if_pos hboth)]
      exact hsource.waits
    · by_cases hboth : (source.kind.extends? .ec2 && target.kind.extends? .ec2) = true
      · rw [(hcopied.get? .keyPair).trans (if_pos hboth),
          (hcopied.get? .noKeyPair).trans (if_pos hboth)]
        exact hsource.oneKeyPair
      · rw [(hcopied.get? .keyPair).trans (if_neg hboth),
          (hcopied.get? .noKeyPair).trans (if_neg hboth)]
        exact htarget.oneKeyPair

/-! ### Clones -/

/-- A clone is what the original is, but it is not frozen. -/
theorem clone_spec (h : ∀ name, source.get? .domainName = some name →
      Domain.hasPublicSuffix name = true) :
    source.clone.result = .ok { source with frozen := false } := by
  have hfrozen : (fresh source.kind).frozen = false := rfl
  obtain ⟨hok, hcopied⟩ := copy_spec h hfrozen
  have hafter : source.copy.after (fresh source.kind) = { source with frozen := false } := by
    refine ext_get? (hcopied.kind.trans (kind_fresh _)) hcopied.frozen fun f ↦ ?_
    rw [hcopied.get? f, kind_fresh, Bool.and_self, get?_withFrozen source false f]
    by_cases hhas : source.kind.extends? f.owner = true
    · rw [if_pos hhas]
    · -- Neither the original nor new options of its kind have the field.
      have hnone {o : Options} (ho : o.kind = source.kind) : o.get? f = none := by
        rw [← Option.not_isSome_iff_eq_none, isSome_get?, ho]
        exact hhas
      rw [if_neg hhas, hnone (kind_fresh _), hnone rfl]
  rw [clone, Outcome.result_bind, result_settle, hok, hafter]
  rfl

end Domains

theorem Held.same_self {α : Type} [BEq α] (a : Held α) : a.same a = true := by
  cases h : a.value == a.value <;> simp [same, h]

theorem sameHeld_self {α : Type} [BEq α] (x : Option (Held α)) : sameHeld x x = true := by
  cases x with
  | none => rfl
  | some a => exact a.same_self

theorem sameMetadata_self {t : Table String String} (h : t.keys.Nodup) :
    sameMetadata t t = true := by
  simp only [sameMetadata, Bool.and_eq_true, List.all_eq_true, beq_iff_eq]
  exact ⟨trivial, fun e he ↦ Table.get?_of_mem h he⟩

/-- Options whose metadata have every key once equal themselves, frozen or not. -/
theorem withFrozen_beq_self {o : Options} (h : o.common.userMetadata.keys.Nodup) (frozen : Bool) :
    (({ o with frozen := frozen } : Options) == o) = true := by
  have hcommon : o.common.same o.common = true := by
    simp [Common.same, sameHeld_self, sameMetadata_self h]
  have hextras : o.extras.same o.extras = true := by
    cases o.extras <;> simp [Extras.same, Ec2.same, Aws.same, sameHeld_self]
  exact Bool.and_eq_true_iff.mpr ⟨hextras, hcommon⟩

end Provisioning.Options
