import Provisioning.Options.Member
import Provisioning.Proofs.Action
import Provisioning.Proofs.Options.Check

/-!
Calls of setters. Either a call fails and the options are what they were, whichever of its checks it
fails at, or it answers the options themselves and nothing but the fields of the setter has changed.
`Mutation.perform_cases` says once what a call can do: the checks come before the first field is
written, and between two fields nothing can fail.
-/

set_option autoImplicit false

namespace Provisioning.Options

open Provisioning.Action

/-! ### What a change writes -/

/-- The fields that a change writes. -/
def Change.fields : Change → List Field
  | inboundPorts _ => [.inboundPorts]
  | block _ => [.port, .seconds]
  | runScript _ _ => [.runScript]
  | privateKey _ => [.privateKey]
  | publicKey _ => [.publicKey]
  | loginUser _ => [.loginUser]
  | loginPrivateKey _ => [.loginPrivateKey]
  | metadata _ | metadataEntry _ _ => [.userMetadata]
  | includeMetadata => [.includeMetadata]
  | domainName _ => [.domainName]
  | securityGroups _ => [.securityGroups]
  | keyPair _ => [.keyPair]
  | noKeyPair => [.noKeyPair]
  | userData _ => [.userData]
  | monitoring => [.monitoringEnabled]
  | securityGroupIds _ => [.securityGroupIds]
  | spotPrice _ _ => [.spotPrice]
  | subnetId _ => [.subnetId]

theorem total_assign (f : Field) (x : f.Content) : (assign f x).Total :=
  total_write _

theorem assign_keeps_kind (f : Field) (x : f.Content) : (assign f x).Keeps kind :=
  fun o ↦ kind_set o f x

theorem assign_keeps_frozen (f : Field) (x : f.Content) : (assign f x).Keeps frozen :=
  fun o ↦ frozen_set o f x

theorem assign_keeps_get? {f g : Field} (h : g ≠ f) (x : f.Content) :
    (assign f x).Keeps fun o ↦ o.get? g :=
  fun o ↦ get?_set_of_ne h.symm o x

/-- A price is written if a double is near to it. -/
theorem Change.result_write_spotPrice (offer : Offer) (mark : Nat) (o : Options) :
    (spotPrice offer mark).write.result o = offer.amount.map fun _ ↦ () := by
  simp only [write, result_bind, liftM_except, result_ofOutcome,
    Outcome.result_lift]
  cases offer.amount <;> rfl

/-- What is written is that double. -/
theorem Change.after_write_spotPrice (offer : Offer) (mark : Nat) (o : Options) :
    (spotPrice offer mark).write.after o = match offer.amount with
      | .ok amount => o.set .spotPrice (some ⟨amount, mark⟩)
      | .error _ => o := by
  simp only [write, after_bind, liftM_except, result_ofOutcome, after_ofOutcome,
    Outcome.result_lift]
  cases offer.amount <;> rfl

/-- A change is written in full or not at all. -/
theorem Change.write_atomic (c : Change) : c.write.Atomic := by
  cases c with
  | block b => exact ((total_assign _ _).bind fun _ ↦ total_assign _ _).atomic
  | metadataEntry key value =>
    exact readsOnly_state.bind_atomic fun _ ↦ (total_assign _ _).atomic
  | spotPrice offer mark =>
    exact (readsOnly_ofOutcome _).bind_atomic fun _ ↦ (total_assign _ _).atomic
  | _ => exact (total_assign _ _).atomic

/-- A change keeps whatever the assignments to its fields keep. -/
theorem Change.write_keeps {β : Type} {p : Options → β} {c : Change}
    (h : ∀ f ∈ c.fields, ∀ x : f.Content, (assign f x).Keeps p) : c.write.Keeps p := by
  cases c with
  | block b =>
    have hport := h .port (by simp [fields]) (some b.port)
    have hseconds := h .seconds (by simp [fields]) (some b.seconds)
    exact hport.bind fun _ ↦ hseconds
  | metadataEntry key value =>
    exact (readsOnly_state.keeps p).bind fun _ ↦ h .userMetadata (by simp [fields]) _
  | spotPrice offer mark =>
    exact ((readsOnly_ofOutcome _).keeps p).bind fun _ ↦ h .spotPrice (by simp [fields]) _
  | _ => exact h _ (by simp [fields]) _

/-- A change keeps every field that it does not write. -/
theorem Change.write_keeps_get? {c : Change} {f : Field} (hf : f ∉ c.fields) :
    c.write.Keeps fun o ↦ o.get? f := by
  refine write_keeps fun g hg x ↦ assign_keeps_get? ?_ x
  rintro rfl
  exact hf hg

/-- Where every assignment matches itself, and adding an entry to the metadata does, every change
does. -/
theorem Change.matches_write_of {R : Options → Options → Prop}
    (hassign : ∀ f (x : f.Content), Matches R (assign f x) (assign f x))
    (hentry : ∀ key value,
      Matches R (metadataEntry key value).write (metadataEntry key value).write)
    (change : Change) : Matches R change.write change.write := by
  cases change with
  | block b => exact (hassign .port _).bind fun _ ↦ hassign .seconds _
  | metadataEntry key value => exact hentry key value
  | spotPrice offer mark => exact (Matches.ofOutcome _).bind fun _ ↦ hassign .spotPrice _
  | _ => exact hassign _ _

/-! ### Setters by name -/

theorem Setter.setter_of_mutation? {s : Setter} {a : Arguments Value} {mark : Nat} {m : Mutation}
    (h : s.mutation? a mark = some m) : m.setter = s := by
  cases s with
  | blockOnPort | userMetadata | withMetadata | noKeyPair | enableMonitoring =>
    simp only [mutation?] at h
    split at h
    · cases h
      rfl
    · cases h
  | _ =>
    obtain ⟨_, _, rfl⟩ := Option.map_eq_some_iff.mp h
    rfl

/-- A setter writes fields that the kind declares for which the setter is first defined. -/
theorem Setter.owner_of_mem_fields {s : Setter} {f : Field} (h : f ∈ s.fields) :
    f.owner = s.owner := by
  have hall : ∀ g ∈ s.fields, g.owner = s.owner := by
    cases s <;> decide
  exact hall f h

/-- A setter is found by its name on the options of every kind that extends the one it is defined
for, and no other member goes by that name. -/
theorem Member.ofLabel?_label (k : Kind) (s : Setter) :
    ofLabel? k s.label = if k.extends? s.owner then some (.setter s) else none := by
  cases k <;> cases s <;> rfl

/-! ### What a call can do -/

section Calls

variable [Domain.SuffixList]

/-- The change that comes of a call is one to the fields of its setter. -/
theorem Mutation.fields_of_check {m : Mutation} {o : Options} {c : Change}
    (h : (m.check o).result = .ok c) : c.fields = m.setter.fields := by
  cases m with
  | userMetadata key value =>
    rcases checkUserMetadata_cases h with ⟨t, rfl, _⟩ | ⟨k, v, rfl, _⟩ <;> rfl
  | keyPair name =>
    simp only [check, Outcome.result_bind_eq_ok_iff] at h
    obtain ⟨_, _, h⟩ := h
    obtain ⟨_, rfl⟩ := checkNoConflict_spec h
    rfl
  | noKeyPair =>
    obtain ⟨_, rfl⟩ := checkNoConflict_spec h
    rfl
  | withMetadata | enableMonitoring =>
    cases h
    rfl
  | blockOnPort port seconds =>
    simp only [check, Outcome.result_bind_eq_ok_iff] at h
    obtain ⟨_, _, _, _, h⟩ := h
    cases h
    rfl
  | _ =>
    simp only [check, Outcome.result_bind_eq_ok_iff] at h
    obtain ⟨_, _, h⟩ := h
    cases h
    rfl

/-- Either a call fails and nothing has changed, or its arguments are right, the options are not
frozen, and the change has been written. -/
theorem Mutation.perform_cases (m : Mutation) (o : Options) :
    (∃ e, m.perform.result o = .error e ∧ m.perform.after o = o) ∨
      ∃ c, (m.check o).result = .ok c ∧ o.frozen = false ∧ o.kind.extends? m.setter.owner = true ∧
        m.perform.result o = .ok () ∧ m.perform.after o = c.write.after o := by
  by_cases hkind : o.kind.extends? m.setter.owner = true
  · cases hcheck : (m.check o).result with
    | error e => exact .inl ⟨e, by simp [perform, result_bind, after_bind, hkind, hcheck]⟩
    | ok c =>
      cases hfrozen : o.frozen with
      | true =>
        exact .inl ⟨.readOnly o.kind, by
          simp [perform, result_bind, after_bind, hkind, hcheck, checkMutable, hfrozen]⟩
      | false =>
        have hresult : m.perform.result o = c.write.result o := by
          simp [perform, result_bind, hkind, hcheck, checkMutable, hfrozen]
        have hafter : m.perform.after o = c.write.after o := by
          simp [perform, after_bind, hkind, hcheck, checkMutable, hfrozen]
        cases hwrite : c.write.result o with
        | error e =>
          exact .inl ⟨e, hresult.trans hwrite, hafter.trans (c.write_atomic o e hwrite)⟩
        | ok u => exact .inr ⟨c, rfl, rfl, hkind, hresult.trans hwrite, hafter⟩
  · exact .inl ⟨.noSuchMember, by simp [perform, result_bind, after_bind, hkind]⟩

/-- A call that fails leaves the options as they were. -/
theorem Mutation.perform_atomic (m : Mutation) : m.perform.Atomic := by
  intro o e he
  rcases m.perform_cases o with ⟨_, _, hsame⟩ | ⟨_, _, _, _, hok, _⟩
  · exact hsame
  · rw [hok] at he
    cases he

/-- A change keeps the kind, the fields that the setter does not write, and whether the options are
frozen. -/
theorem Mutation.write_frames {m : Mutation} {o : Options} {c : Change}
    (h : (m.check o).result = .ok c) :
    (c.write.after o).kind = o.kind ∧ (c.write.after o).frozen = o.frozen ∧
      ∀ f, f ∉ m.setter.fields → (c.write.after o).get? f = o.get? f := by
  refine ⟨?_, ?_, fun f hf ↦ ?_⟩
  · exact c.write_keeps (p := kind) (fun f _ x ↦ assign_keeps_kind f x) o
  · exact c.write_keeps (p := frozen) (fun f _ x ↦ assign_keeps_frozen f x) o
  · exact c.write_keeps_get? (fields_of_check h ▸ hf) o

/-- Options that come of a call have what the call preserves. -/
theorem Mutation.of_mutate {P : Options → Prop} {m : Mutation} {o o' : Options}
    (hm : m.perform.Preserves P) (ho : P o) (h : (o.mutate m).result = .ok o') : P o' := by
  obtain ⟨p, hp, rfl⟩ := Outcome.exists_of_return h
  rw [result_settle] at hp
  obtain ⟨_, _, hp⟩ := bind_eq_ok_iff.mp hp
  cases hp
  exact hm o ho

/-- Options that come of a call are those that its change leaves. -/
theorem Mutation.exists_change_of_mutate {m : Mutation} {o o' : Options}
    (h : (o.mutate m).result = .ok o') :
    ∃ c, (m.check o).result = .ok c ∧ o.frozen = false ∧ o' = c.write.after o := by
  obtain ⟨p, hp, rfl⟩ := Outcome.exists_of_return h
  rw [result_settle] at hp
  obtain ⟨_, hok, hp⟩ := bind_eq_ok_iff.mp hp
  cases hp
  rcases m.perform_cases o with ⟨e, he, _⟩ | ⟨c, hcheck, hfrozen, _, _, hafter⟩
  · rw [he] at hok
    cases hok
  · exact ⟨c, hcheck, hfrozen, hafter⟩

theorem Setter.perform_cases (s : Setter) (a : Arguments Value) (mark : Nat) (o : Options) :
    (∃ e, (s.perform a mark).result o = .error e ∧ (s.perform a mark).after o = o) ∨
      ∃ m c, s.mutation? a mark = some m ∧ (m.check o).result = .ok c ∧ o.frozen = false ∧
        (s.perform a mark).result o = .ok .itself ∧
          (s.perform a mark).after o = c.write.after o := by
  cases hmutation : s.mutation? a mark with
  | none => exact .inl ⟨.callShape, by simp [perform, hmutation]⟩
  | some m =>
    have hresult : (s.perform a mark).result o = (m.perform.result o).map fun _ ↦ .itself := by
      simp only [perform, hmutation, result_bind_pure]
    have hafter : (s.perform a mark).after o = m.perform.after o := by
      simp only [perform, hmutation, after_bind_pure]
    rw [hresult, hafter]
    rcases m.perform_cases o with ⟨e, he, hsame⟩ | ⟨c, hcheck, hfrozen, _, hok, hwritten⟩
    · exact .inl ⟨e, by rw [he, Except.map], hsame⟩
    · exact .inr ⟨m, c, rfl, hcheck, hfrozen, by rw [hok, Except.map], hwritten⟩

/-- What a call of a setter by its name can do to options of any kind. -/
theorem invoke_cases (s : Setter) (a : Arguments Value) (mark : Nat) (o : Options) :
    (∃ e, (invoke s.label a mark).result o = .error e ∧
        (invoke s.label a mark).after o = o) ∨
      ∃ m c, s.mutation? a mark = some m ∧ (m.check o).result = .ok c ∧ o.frozen = false ∧
        (invoke s.label a mark).result o = .ok .itself ∧
          (invoke s.label a mark).after o = c.write.after o := by
  by_cases hkind : o.kind.extends? s.owner = true
  · have hresult : (invoke s.label a mark).result o = (s.perform a mark).result o := by
      simp [invoke, result_bind, Member.ofLabel?_label, hkind]
    have hafter : (invoke s.label a mark).after o = (s.perform a mark).after o := by
      simp [invoke, after_bind, Member.ofLabel?_label, hkind]
    rw [hresult, hafter]
    exact s.perform_cases a mark o
  · exact .inl ⟨.noSuchMember, by
      simp [invoke, result_bind, after_bind, Member.ofLabel?_label, hkind]⟩

/-- A call of a setter by its name preserves what the change that it asks for preserves. -/
theorem invoke_preserves {P : Options → Prop} {s : Setter} {a : Arguments Value} {mark : Nat}
    (h : ∀ m, s.mutation? a mark = some m → m.perform.Preserves P) :
    (invoke s.label a mark).Preserves P := by
  refine state_bind_preserves fun o ho ↦ ?_
  rw [Member.ofLabel?_label]
  by_cases hkind : o.kind.extends? s.owner = true
  · rw [if_pos hkind]
    simp only [Setter.perform]
    split
    · exact (readsOnly_ofOutcome _).preserves P
    · next m hm => exact (h m hm).bind fun _ ↦ (readsOnly_ofOutcome _).preserves P
  · rw [if_neg hkind]
    exact (readsOnly_ofOutcome _).preserves P

/-- Calls by name match where both sides have the setter or neither has it, and the setter matches. -/
theorem matches_invoke_of {R : Options → Options → Prop} {s : Setter} {a : Arguments Value}
    {mark mark' : Nat}
    (howner : ∀ o p, R o p → o.kind.extends? s.owner = p.kind.extends? s.owner)
    (hperform : Matches R (s.perform a mark) (s.perform a mark')) :
    Matches R (invoke s.label a mark) (invoke s.label a mark') := by
  refine .state_bind fun o p h ↦ ?_
  rw [Member.ofLabel?_label, Member.ofLabel?_label, howner o p h]
  by_cases hkind : p.kind.extends? s.owner = true
  · rw [if_pos hkind]
    exact hperform
  · rw [if_neg hkind]
    exact .ofOutcome _

/-- A call of a setter with any arguments, on options of any kind, frozen or not, either fails and
leaves the options as they were, or answers the options themselves, of which no other fields have
changed than those of the setter. -/
theorem invoke_atomic_and_framed (s : Setter) (a : Arguments Value) (mark : Nat) (o : Options) :
    (∃ e, (invoke s.label a mark).result o = .error e ∧
        (invoke s.label a mark).after o = o) ∨
      (invoke s.label a mark).result o = .ok .itself ∧
        ((invoke s.label a mark).after o).kind = o.kind ∧
        ((invoke s.label a mark).after o).frozen = o.frozen ∧
        ∀ f, f ∉ s.fields → ((invoke s.label a mark).after o).get? f = o.get? f := by
  rcases invoke_cases s a mark o with hfail | ⟨m, c, hmutation, hcheck, _, hok, hafter⟩
  · exact .inl hfail
  · have hfields : c.fields = s.fields := by
      rw [Mutation.fields_of_check hcheck, Setter.setter_of_mutation? hmutation]
    rw [hafter]
    refine .inr ⟨hok, ?_, ?_, fun f hf ↦ ?_⟩
    · exact c.write_keeps (p := kind) (fun f _ x ↦ assign_keeps_kind f x) o
    · exact c.write_keeps (p := frozen) (fun f _ x ↦ assign_keeps_frozen f x) o
    · exact c.write_keeps_get? (hfields ▸ hf) o

end Calls

end Provisioning.Options
