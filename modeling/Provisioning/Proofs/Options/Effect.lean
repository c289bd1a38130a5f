import Provisioning.Proofs.Options.Narrowing

/-!
What a call does, told apart from the options that it is made on. On options that are not frozen a
call has the same outcome as on new options, unless it names a key pair that they rule out, or the
other way round (`Call.outcome_congr`). What it writes to a field hangs on nothing but what the field
held, so a field is decided by the calls of the one setter that writes it (`get?_writeAll_filter`).
-/

set_option autoImplicit false

namespace Provisioning.Options

open Provisioning.Action

variable {o p : Options} {f : Field} {k : Kind}

/-! ### What a change writes to a field -/

theorem get?_assign_congr (h : o.get? f = p.get? f) (g : Field) (x : g.Content) :
    ((assign g x).after o).get? f = ((assign g x).after p).get? f := by
  by_cases hgf : g = f
  · subst hgf
    exact (get?_set_self o g x).trans ((congrArg _ h).trans (get?_set_self p g x).symm)
  · exact (get?_set_of_ne hgf o x).trans (h.trans (get?_set_of_ne hgf p x).symm)

/-- A field that is assigned holds what it was assigned. -/
theorem get?_assign (h : o.kind.extends? f.owner = true) (x : f.Content) :
    ((assign f x).after o).get? f = some x := by
  obtain ⟨y, hy⟩ := Option.isSome_iff_exists.mp ((isSome_get? o f).trans h)
  exact (get?_set_self o f x).trans (congrArg (Option.map fun _ ↦ x) hy)

/-- A field that is assigned holds the same in all options of one kind. -/
theorem get?_assign_self (hkind : o.kind = p.kind) (f : Field) (x : f.Content) :
    ((assign f x).after o).get? f = ((assign f x).after p).get? f := by
  have hboth : (o.get? f).isSome = (p.get? f).isSome := by rw [isSome_get?, isSome_get?, hkind]
  refine (get?_set_self o f x).trans (Eq.trans ?_ (get?_set_self p f x).symm)
  cases ho : o.get? f <;> cases hp : p.get? f <;> simp [ho, hp] at hboth ⊢

namespace Change

/-- Whether a change leaves nothing of what its fields held. Only an entry that is added to metadata
leaves the others. -/
def replaces : Change → Bool
  | metadataEntry _ _ => false
  | _ => true

/-- Whether a change can be written does not depend on the options. -/
theorem outcome_write (c : Change) (o p : Options) : (c.write.run o).2 = (c.write.run p).2 := by
  cases c with
  | spotPrice offer mark =>
    cases hamount : offer.amount <;>
      simp only [write, outcome_bind, hamount] <;> rfl
  | _ => rfl

/-- What a field holds after a change hangs on nothing but what it held before. -/
theorem get?_write_congr (c : Change) (h : o.get? f = p.get? f) :
    (c.write.after o).get? f = (c.write.after p).get? f := by
  cases c with
  | block b => exact get?_assign_congr (get?_assign_congr h .port _) .seconds _
  | metadataEntry key value =>
    by_cases hf : f ∈ (metadataEntry key value).fields
    · obtain rfl := List.mem_singleton.mp hf
      have hentries : o.common.userMetadata = p.common.userMetadata := Option.some.inj h
      have hassign := get?_assign_congr h .userMetadata (o.common.userMetadata.put key value)
      exact hassign.trans (by rw [hentries]; rfl)
    · exact (write_keeps_get? hf o).trans (h.trans (write_keeps_get? hf p).symm)
  | spotPrice offer mark =>
    rw [after_write_spotPrice, after_write_spotPrice]
    split
    · exact get?_assign_congr h .spotPrice _
    · exact h
  | _ => exact get?_assign_congr h _ _

/-- What a change that replaces writes to its fields is the same in all options of one kind. -/
theorem get?_write_of_replaces {c : Change} (hc : c.replaces = true) (hf : f ∈ c.fields)
    (hwrite : c.write.result o = .ok ()) (hkind : o.kind = p.kind) :
    (c.write.after o).get? f = (c.write.after p).get? f := by
  cases c with
  | block b =>
    have hport : ((assign .port (some b.port)).after o).kind =
        ((assign .port (some b.port)).after p).kind :=
      (kind_set o .port _).trans (hkind.trans (kind_set p .port _).symm)
    simp only [fields, List.mem_cons, List.not_mem_nil, or_false] at hf
    rcases hf with rfl | rfl
    · exact get?_assign_congr (get?_assign_self hkind .port _) .seconds _
    · exact get?_assign_self hport .seconds _
  | metadataEntry key value => cases hc
  | spotPrice offer mark =>
    obtain rfl := List.mem_singleton.mp hf
    rw [result_write_spotPrice] at hwrite
    rw [after_write_spotPrice, after_write_spotPrice]
    cases hamount : offer.amount with
    | error e =>
      rw [hamount] at hwrite
      cases hwrite
    | ok amount => exact get?_assign_self hkind .spotPrice _
  | _ =>
    obtain rfl := List.mem_singleton.mp hf
    exact get?_assign_self hkind _ _

theorem kind_write (c : Change) (o : Options) : (c.write.after o).kind = o.kind :=
  c.write_keeps (p := kind) (fun f _ x ↦ assign_keeps_kind f x) o

theorem frozen_write (c : Change) (o : Options) : (c.write.after o).frozen = o.frozen :=
  c.write_keeps (p := frozen) (fun f _ x ↦ assign_keeps_frozen f x) o

end Change

/-! ### One call -/

/-- The setter that writes a field. -/
def Field.setter : Field → Setter
  | inboundPorts => .inboundPorts
  | port | seconds => .blockOnPort
  | runScript => .runScript
  | privateKey => .installPrivateKey
  | publicKey => .authorizePublicKey
  | loginUser => .overrideLoginUser
  | loginPrivateKey => .overrideLoginPrivateKey
  | userMetadata => .userMetadata
  | includeMetadata => .withMetadata
  | domainName => .domainName
  | securityGroups => .securityGroups
  | keyPair => .keyPair
  | noKeyPair => .noKeyPair
  | userData => .userData
  | monitoringEnabled => .enableMonitoring
  | securityGroupIds => .securityGroupIds
  | spotPrice => .spotPrice
  | subnetId => .subnetId

theorem Setter.mem_fields_iff {s : Setter} : f ∈ s.fields ↔ f.setter = s := by
  cases s <;> cases f <;> decide

/-- What a setter asks of the options themselves: a key pair can only be named where none is ruled
out, and be ruled out where none is named. -/
def Setter.Suits (o : Options) : Setter → Prop
  | keyPair => o.rulesOutKeyPair = false
  | noKeyPair => o.keyPair?.isSome = false
  | _ => True

theorem suits_fresh (k : Kind) (s : Setter) : s.Suits (fresh k) := by
  cases s <;> cases k <;> trivial

/-- Whether a call leaves nothing of what earlier calls of its setter wrote. Only a call that gives a
key and a value leaves the other entries of metadata. -/
def Call.replaces (call : Call) : Bool :=
  match call.setter.mutation? call.arguments call.mark with
  | some (.userMetadata (.dict _) _) => true
  | some (.userMetadata _ _) => false
  | _ => true

section Calls

variable [Domain.SuffixList]

/-- Options that suit a setter have no part in the check of a call. -/
theorem Mutation.check_congr {m : Mutation} (ho : m.setter.Suits o) (hp : m.setter.Suits p) :
    m.check o = m.check p := by
  cases m with
  | keyPair name =>
    have hsame : o.rulesOutKeyPair = p.rulesOutKeyPair := Eq.trans ho (Eq.symm hp)
    simp only [check, hsame]
  | noKeyPair =>
    have hsame : o.keyPair?.isSome = p.keyPair?.isSome := Eq.trans ho (Eq.symm hp)
    simp only [check, hsame]
  | _ => rfl

theorem Mutation.suits_of_check {m : Mutation} {c : Change} (h : (m.check o).result = .ok c) :
    m.setter.Suits o := by
  cases m with
  | keyPair name =>
    simp only [check, Outcome.result_bind_eq_ok_iff] at h
    obtain ⟨_, _, h⟩ := h
    exact (checkNoConflict_spec h).1
  | noKeyPair => exact (checkNoConflict_spec h).1
  | _ => trivial

theorem Mutation.outcome_perform {m : Mutation} (hkind : o.kind.extends? m.setter.owner = true)
    (hfrozen : o.frozen = false) :
    (m.perform.run o).2 = (m.check o).andThen fun c ↦ (c.write.run o).2 := by
  have hmutable : o.checkMutable = .ok () := by simp [checkMutable, hfrozen]
  rw [perform, run_state_bind, if_pos hkind, outcome_bind]
  refine congrArg _ (funext fun c ↦ ?_)
  rw [hmutable]
  rfl

/-- The outcome of a call on options that are not frozen: the arguments must fit the parameters and
pass their checks, and what comes of them must be something that can be written. -/
theorem outcome_invoke (s : Setter) (a : Arguments Value) (mark : Nat)
    (hkind : o.kind.extends? s.owner = true) (hfrozen : o.frozen = false) :
    ((invoke s.label a mark).run o).2 = match s.mutation? a mark with
      | none => .fail .callShape
      | some m => (m.check o).andThen fun c ↦ (c.write.run o).2.andThen fun _ ↦ .ok .itself := by
  rw [invoke, run_state_bind, Member.ofLabel?_label, if_pos hkind]
  simp only [Setter.perform]
  cases hm : s.mutation? a mark with
  | none => rfl
  | some m =>
    have howner : o.kind.extends? m.setter.owner = true :=
      (Setter.setter_of_mutation? hm).symm ▸ hkind
    simp only [outcome_bind, Mutation.outcome_perform howner hfrozen, Outcome.andThen_assoc]
    rfl

namespace Call

/-- A call has the same outcome on all options of one kind that are not frozen and suit its setter. -/
theorem outcome_congr (call : Call) (hkind : o.kind = p.kind) (ho : o.frozen = false)
    (hp : p.frozen = false) (hsuits : call.setter.Suits o) (hsuits' : call.setter.Suits p) :
    (call.perform.run o).2 = (call.perform.run p).2 := by
  by_cases howner : o.kind.extends? call.setter.owner = true
  · rw [perform, outcome_invoke _ _ _ howner ho, outcome_invoke _ _ _ (hkind ▸ howner) hp]
    cases hm : call.setter.mutation? call.arguments call.mark with
    | none => rfl
    | some m =>
      obtain hsetter := Setter.setter_of_mutation? hm
      rw [← hsetter] at hsuits hsuits'
      simp only [Mutation.check_congr hsuits hsuits', Change.outcome_write _ o p]
  · have howner' : ¬p.kind.extends? call.setter.owner = true := hkind ▸ howner
    rw [perform, invoke, run_state_bind, run_state_bind, Member.ofLabel?_label,
      Member.ofLabel?_label, if_neg howner, if_neg howner']
    rfl

/-- The change that the arguments of a call ask for, if new options of a kind accept it. -/
def change? (call : Call) (k : Kind) : Option Change :=
  if (call.perform.result (fresh k)).isOk then
    (call.setter.mutation? call.arguments call.mark).bind fun m ↦ (m.check (fresh k)).result.toOption
  else none

/-- Options with the change that a call asks for, if there is one. -/
def write (call : Call) (k : Kind) (o : Options) : Options :=
  match call.change? k with
  | some c => c.write.after o
  | none => o

variable {call : Call}

theorem suits_of_isOk (h : (call.perform.result o).isOk = true) : call.setter.Suits o := by
  rcases invoke_cases call.setter call.arguments call.mark o with ⟨e, he, _⟩ | ⟨m, c, hm, hc, _⟩
  · rw [perform, he] at h
    cases h
  · exact Setter.setter_of_mutation? hm ▸ Mutation.suits_of_check hc

theorem outcome_eq_fresh (hkind : o.kind = k) (hfrozen : o.frozen = false)
    (hsuits : call.setter.Suits o) : (call.perform.run o).2 = (call.perform.run (fresh k)).2 :=
  call.outcome_congr (hkind.trans (kind_fresh k).symm) hfrozen rfl hsuits
    (suits_fresh k call.setter)

/-- What a call that succeeds on new options makes of options of the same kind that suit it. -/
theorem after_eq_write (hkind : o.kind = k) (hfrozen : o.frozen = false)
    (hsuits : call.setter.Suits o) : call.perform.after o = call.write k o := by
  have houtcome := outcome_eq_fresh hkind hfrozen hsuits
  have hresult : call.perform.result o = call.perform.result (fresh k) :=
    congrArg Outcome.result houtcome
  rcases invoke_cases call.setter call.arguments call.mark o with
    ⟨e, he, hsame⟩ | ⟨m, c, hm, hc, _, hok, hafter⟩
  · have hnone : call.change? k = none := by
      rw [change?, ← hresult, perform, he]
      rfl
    rw [write, hnone]
    exact hsame
  · have hsetter := Setter.setter_of_mutation? hm
    have hsome : call.change? k = some c := by
      rw [change?, ← hresult, perform, hok, hm, Option.bind_some,
        Mutation.check_congr (hsetter ▸ suits_fresh k call.setter) (hsetter ▸ hsuits), hc]
      rfl
    rw [write, hsome]
    exact hafter

theorem extends_of_isOk (h : (call.perform.result o).isOk = true) :
    o.kind.extends? call.setter.owner = true := by
  by_contra howner
  have hresult : call.perform.result o = .error .noSuchMember := by
    simp [perform, invoke, result_bind, Member.ofLabel?_label, howner]
  rw [hresult] at h
  cases h

/-- What a call that succeeds on new options asks for can be written. -/
theorem exists_change? (h : (call.perform.result (fresh k)).isOk = true) :
    ∃ m c, call.setter.mutation? call.arguments call.mark = some m ∧
      (m.check (fresh k)).result = .ok c ∧ c.write.result (fresh k) = .ok () ∧
        call.change? k = some c := by
  rcases invoke_cases call.setter call.arguments call.mark (fresh k) with
    ⟨e, he, _⟩ | ⟨m, c, hm, hc, _, hok, _⟩
  · rw [perform, he] at h
    cases h
  · have hchange : call.change? k = some c := by
      rw [change?, if_pos h, hm, Option.bind_some, hc]
      rfl
    have houtcome := outcome_invoke call.setter call.arguments call.mark (extends_of_isOk h) rfl
    simp only [hm] at houtcome
    have hresult := (congrArg Outcome.result houtcome).symm.trans hok
    simp only [Outcome.result_andThen, bind_eq_ok_iff] at hresult
    obtain ⟨c', hc', ⟨⟩, hwrite, _⟩ := hresult
    obtain rfl : c = c' := Except.ok.inj (hc.symm.trans hc')
    exact ⟨m, c, hm, hc, hwrite, hchange⟩

theorem result_of_isOk (h : (call.perform.result o).isOk = true) :
    call.perform.result o = .ok .itself := by
  rcases invoke_cases call.setter call.arguments call.mark o with
    ⟨e, he, _⟩ | ⟨_, _, _, _, _, hok, _⟩
  · rw [perform, he] at h
    cases h
  · exact hok

theorem after_of_not_isOk (h : ¬(call.perform.result o).isOk = true) :
    call.perform.after o = o := by
  rcases invoke_cases call.setter call.arguments call.mark o with
    ⟨_, _, hsame⟩ | ⟨_, _, _, _, _, hok, _⟩
  · exact hsame
  · rw [perform, hok] at h
    exact absurd rfl h

theorem isOk_of_change? {c : Change} (h : call.change? k = some c) :
    (call.perform.result (fresh k)).isOk = true := by
  simp only [change?] at h
  split at h
  · assumption
  · cases h

theorem fields_of_change? {c : Change} (h : call.change? k = some c) :
    c.fields = call.setter.fields := by
  obtain ⟨m, c', hm, hc, _, hchange⟩ := exists_change? (isOk_of_change? h)
  obtain rfl : c' = c := Option.some.inj (hchange.symm.trans h)
  rw [Mutation.fields_of_check hc, Setter.setter_of_mutation? hm]

/-! ### What a call writes to a field -/

theorem replaces_of_change? {c : Change} (h : call.change? k = some c)
    (hreplaces : call.replaces = true) : c.replaces = true := by
  obtain ⟨m, c', hm, hc, _, hchange⟩ := exists_change? (isOk_of_change? h)
  obtain rfl : c' = c := Option.some.inj (hchange.symm.trans h)
  simp only [replaces, hm] at hreplaces
  cases c' with
  | metadataEntry key value =>
    -- An entry comes of no other setter, and of no mapping.
    have hfields := Mutation.fields_of_check hc
    cases m with
    | userMetadata keyOrMapping value =>
      cases keyOrMapping with
      | dict entries =>
        cases value with
        | null =>
          obtain ⟨es, _, h⟩ := bind_eq_ok_iff.mp hc
          cases h
        | _ => cases hc
      | _ => cases hreplaces
    | _ => simp [Change.fields, Mutation.setter, Setter.fields] at hfields
  | _ => rfl

theorem kind_write (call : Call) (k : Kind) (o : Options) : (call.write k o).kind = o.kind := by
  rw [write]
  split
  · exact Change.kind_write _ o
  · rfl

theorem frozen_write (call : Call) (k : Kind) (o : Options) :
    (call.write k o).frozen = o.frozen := by
  rw [write]
  split
  · exact Change.frozen_write _ o
  · rfl

theorem get?_write_congr (h : o.get? f = p.get? f) :
    (call.write k o).get? f = (call.write k p).get? f := by
  simp only [write]
  split
  · exact Change.get?_write_congr _ h
  · exact h

theorem get?_write_of_notMem (hf : f ∉ call.setter.fields) :
    (call.write k o).get? f = o.get? f := by
  rw [write]
  split
  · next c hc => exact Change.write_keeps_get? (fields_of_change? hc ▸ hf) o
  · rfl

theorem get?_write_of_replaces (hcall : (call.perform.result (fresh k)).isOk = true)
    (hreplaces : call.replaces = true) (hf : f ∈ call.setter.fields) (hkind : o.kind = p.kind) :
    (call.write k o).get? f = (call.write k p).get? f := by
  obtain ⟨_, c, _, _, hwrite, hchange⟩ := exists_change? hcall
  have hok : c.write.result o = .ok () :=
    (congrArg Outcome.result (c.outcome_write o (fresh k))).trans hwrite
  simp only [write, hchange]
  exact Change.get?_write_of_replaces (replaces_of_change? hchange hreplaces)
    (fields_of_change? hchange ▸ hf) hok hkind

/-- A call that succeeds on new options writes its own fields to all options of their kind, which has
them. -/
theorem exists_written (hcall : (call.perform.result (fresh k)).isOk = true) (hkind : o.kind = k) :
    ∃ c : Change, call.write k o = c.write.after o ∧ c.fields = call.setter.fields ∧
      o.kind.extends? call.setter.owner = true := by
  obtain ⟨_, c, _, _, _, hchange⟩ := exists_change? hcall
  refine ⟨c, ?_, fields_of_change? hchange, ?_⟩
  · simp only [write, hchange]
  · have hextends := extends_of_isOk hcall
    rwa [kind_fresh, ← hkind] at hextends

/-- Where a call has named a key pair, none can be ruled out. -/
theorem not_suits_noKeyPair (hcall : (call.perform.result (fresh k)).isOk = true)
    (hs : call.setter = .keyPair) (hkind : o.kind = k) :
    ¬Setter.noKeyPair.Suits (call.write k o) := by
  obtain ⟨c, hwritten, hfields, howner⟩ := exists_written hcall hkind
  rw [hs] at hfields howner
  cases c with
  | keyPair name =>
    have hnamed : (call.write k o).keyPair?.isSome = true := by
      rw [hwritten]
      exact isSome_keyPair?_iff.mpr ⟨name, get?_assign (f := .keyPair) howner (some name)⟩
    exact fun hsuits ↦ Bool.false_ne_true (hsuits.symm.trans hnamed)
  | _ => simp [Change.fields, Setter.fields] at hfields

/-- Where a call has ruled out a key pair, none can be named. -/
theorem not_suits_keyPair (hcall : (call.perform.result (fresh k)).isOk = true)
    (hs : call.setter = .noKeyPair) (hkind : o.kind = k) :
    ¬Setter.keyPair.Suits (call.write k o) := by
  obtain ⟨c, hwritten, hfields, howner⟩ := exists_written hcall hkind
  rw [hs] at hfields howner
  cases c with
  | noKeyPair =>
    have hruledOut : (call.write k o).rulesOutKeyPair = true := by
      rw [hwritten]
      exact rulesOutKeyPair_iff.mpr (get?_assign (f := .noKeyPair) howner true)
    exact fun hsuits ↦ Bool.false_ne_true (hsuits.symm.trans hruledOut)
  | _ => simp [Change.fields, Setter.fields] at hfields

end Call

/-! ### Several calls -/

/-- Options with the changes that several calls ask for, one after another. -/
def writeAll (k : Kind) (calls : List Call) (o : Options) : Options :=
  calls.foldl (fun o call ↦ call.write k o) o

variable {calls : List Call}

theorem writeAll_cons (call : Call) (rest : List Call) (o : Options) :
    writeAll k (call :: rest) o = writeAll k rest (call.write k o) := rfl

theorem kind_writeAll (k : Kind) (calls : List Call) (o : Options) :
    (writeAll k calls o).kind = o.kind := by
  induction calls generalizing o with
  | nil => rfl
  | cons call rest ih => exact (ih _).trans (call.kind_write k o)

theorem frozen_writeAll (k : Kind) (calls : List Call) (o : Options) :
    (writeAll k calls o).frozen = o.frozen := by
  induction calls generalizing o with
  | nil => rfl
  | cons call rest ih => exact (ih _).trans (call.frozen_write k o)

theorem get?_writeAll_congr (h : o.get? f = p.get? f) :
    (writeAll k calls o).get? f = (writeAll k calls p).get? f := by
  induction calls generalizing o p with
  | nil => exact h
  | cons call rest ih => exact ih (Call.get?_write_congr h)

/-- What a field holds is decided by the calls of the setter that writes it. -/
theorem get?_writeAll_filter (k : Kind) (calls : List Call) (o : Options) (f : Field) :
    (writeAll k calls o).get? f =
      (writeAll k (calls.filter fun call ↦ call.setter == f.setter) o).get? f := by
  induction calls generalizing o with
  | nil => rfl
  | cons call rest ih =>
    by_cases hs : call.setter = f.setter
    · rw [List.filter_cons_of_pos (by simp [hs])]
      exact ih (call.write k o)
    · have hf : f ∉ call.setter.fields := fun h ↦ hs (Setter.mem_fields_iff.mp h).symm
      rw [List.filter_cons_of_neg (by simp [hs])]
      exact (ih _).trans (get?_writeAll_congr (Call.get?_write_of_notMem hf))

/-- After a call that replaces, it does not matter what its fields held. -/
theorem get?_writeAll_of_replaces {call : Call} (hmem : call ∈ calls)
    (hcall : (call.perform.result (fresh k)).isOk = true) (hreplaces : call.replaces = true)
    (hf : f ∈ call.setter.fields) (hkind : o.kind = p.kind) :
    (writeAll k calls o).get? f = (writeAll k calls p).get? f := by
  induction calls generalizing o p with
  | nil => cases hmem
  | cons first rest ih =>
    rcases List.mem_cons.mp hmem with rfl | hmem
    · rw [writeAll_cons, writeAll_cons]
      exact get?_writeAll_congr (Call.get?_write_of_replaces hcall hreplaces hf hkind)
    · exact ih hmem (by rw [Call.kind_write, Call.kind_write, hkind])

/-- Calls of different setters may be made in any order. -/
theorem writeAll_eq_of_filter {calls' : List Call}
    (h : ∀ s : Setter, (calls.filter fun call ↦ call.setter == s) =
      calls'.filter fun call ↦ call.setter == s) (o : Options) :
    writeAll k calls o = writeAll k calls' o := by
  refine ext_get? ?_ ?_ fun f ↦ ?_
  · rw [kind_writeAll, kind_writeAll]
  · rw [frozen_writeAll, frozen_writeAll]
  · rw [get?_writeAll_filter, h f.setter, ← get?_writeAll_filter]

end Calls

end Provisioning.Options
