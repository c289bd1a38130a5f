import Provisioning.Proofs.Options.Effect

/-!
Replays of calls. What options hold after a run of calls on new options is decided, setter by setter,
by the calls of which something is left: the last one that succeeded, and for metadata the last one
that gave a mapping with all those after it that added an entry. These calls alone, with the calls of
different setters in any order, succeed and lead to the same options.
-/

set_option autoImplicit false

namespace Provisioning.Options

variable {o : Options} {k : Kind} {calls : List Call}

/-! ### What is left of several calls -/

/-- The calls of which something is left at the end: those that no later call of the same setter
replaces. -/
def lasting : List Call → List Call
  | [] => []
  | call :: rest =>
    if rest.any fun later ↦ later.setter == call.setter && later.replaces then lasting rest
    else call :: lasting rest

/-- What is left are some of the calls in their order. -/
theorem lasting_sublist (calls : List Call) : (lasting calls).Sublist calls := by
  induction calls with
  | nil => exact .slnil
  | cons call rest ih =>
    rw [lasting]
    split
    · exact ih.cons call
    · exact ih.cons_cons call

theorem isReplaced_iff {call : Call} :
    (calls.any fun later ↦ later.setter == call.setter && later.replaces) = true ↔
      ∃ later ∈ calls, later.setter = call.setter ∧ later.replaces = true := by
  simp [List.any_eq_true]

theorem lasting_eq_self (h : ∀ call ∈ calls, call.replaces = false) : lasting calls = calls := by
  induction calls with
  | nil => rfl
  | cons call rest ih =>
    obtain ⟨_, hrest⟩ := List.forall_mem_cons.mp h
    rw [lasting, if_neg, ih hrest]
    intro hreplaced
    obtain ⟨later, hlater, _, hreplaces⟩ := isReplaced_iff.mp hreplaced
    rw [hrest later hlater] at hreplaces
    cases hreplaces

/-- What is left of the calls of one setter does not hang on the calls of others. -/
theorem filter_lasting (s : Setter) (calls : List Call) :
    ((lasting calls).filter fun call ↦ call.setter == s) =
      lasting (calls.filter fun call ↦ call.setter == s) := by
  induction calls with
  | nil => rfl
  | cons call rest ih =>
    by_cases hs : call.setter = s
    · have hsame : ((rest.filter fun later ↦ later.setter == s).any fun later ↦
          later.setter == call.setter && later.replaces) =
            rest.any fun later ↦ later.setter == call.setter && later.replaces := by
        rw [List.any_filter, hs]
        simp only [← Bool.and_assoc, Bool.and_self]
      rw [List.filter_cons_of_pos (by simp [hs]), lasting, lasting, hsame]
      split
      · exact ih
      · rw [List.filter_cons_of_pos (by simp [hs]), ih]
    · rw [List.filter_cons_of_neg (by simp [hs]), lasting]
      split
      · exact ih
      · rw [List.filter_cons_of_neg (by simp [hs]), ih]

/-- Of calls of one setter an end is left: it starts at the last call that replaces, or at the first
one if none does. -/
theorem lasting_suffix {s : Setter} (h : ∀ call ∈ calls, call.setter = s) :
    lasting calls <:+ calls ∧ (∀ call ∈ (lasting calls).tail, call.replaces = false) ∧
      (lasting calls = calls ∨ ∃ first ∈ (lasting calls).head?, first.replaces = true) := by
  induction calls with
  | nil => exact ⟨List.suffix_rfl, nofun, .inl rfl⟩
  | cons call rest ih =>
    obtain ⟨hs, hrest⟩ := List.forall_mem_cons.mp h
    obtain ⟨hsuffix, htail, hhead⟩ := ih hrest
    rw [lasting]
    split
    · next hreplaced =>
      refine ⟨hsuffix.trans (List.suffix_cons call rest), htail, .inr ?_⟩
      rcases hhead with hall | hhead
      · -- All later calls are left, so the one that replaces is the first of them.
        obtain ⟨later, hlater, _, hreplaces⟩ := isReplaced_iff.mp hreplaced
        rw [hall] at htail ⊢
        cases rest with
        | nil => cases hlater
        | cons first others =>
          rcases List.mem_cons.mp hlater with rfl | hothers
          · exact ⟨later, rfl, hreplaces⟩
          · exact absurd hreplaces (Bool.eq_false_iff.mp (htail later hothers))
      · exact hhead
    · next hnone =>
      have hlater : ∀ later ∈ rest, later.replaces = false := by
        intro later hmem
        refine Bool.eq_false_iff.mpr fun hreplaces ↦ hnone (isReplaced_iff.mpr ?_)
        exact ⟨later, hmem, (hrest later hmem).trans hs.symm, hreplaces⟩
      rw [lasting_eq_self hlater]
      exact ⟨List.suffix_rfl, hlater, .inl rfl⟩

section Calls

variable [Domain.SuffixList]

/-- The other calls leave nothing. -/
theorem writeAll_lasting (hcalls : ∀ call ∈ calls, (call.perform.result (fresh k)).isOk = true)
    (o : Options) : writeAll k (lasting calls) o = writeAll k calls o := by
  induction calls generalizing o with
  | nil => rfl
  | cons call rest ih =>
    obtain ⟨_, hrest⟩ := List.forall_mem_cons.mp hcalls
    rw [lasting]
    split
    · next hreplaced =>
      obtain ⟨later, hlater, hsetter, hreplaces⟩ := isReplaced_iff.mp hreplaced
      rw [ih hrest o, writeAll_cons]
      refine ext_get? ?_ ?_ fun f ↦ ?_
      · rw [kind_writeAll, kind_writeAll, Call.kind_write]
      · rw [frozen_writeAll, frozen_writeAll, Call.frozen_write]
      · by_cases hf : f ∈ call.setter.fields
        · rw [← hsetter] at hf
          exact get?_writeAll_of_replaces hlater (hrest later hlater) hreplaces hf
            (call.kind_write k o).symm
        · exact get?_writeAll_congr (Call.get?_write_of_notMem hf).symm
    · exact ih hrest (call.write k o)

/-! ### Runs of calls -/

/-- Calls that suit the options and none of which gets in the way of another. -/
structure Harmonious (o : Options) (calls : List Call) : Prop where
  suits : ∀ call ∈ calls, call.setter.Suits o
  apart : ∀ a ∈ calls, ∀ b ∈ calls, a.setter = .keyPair → b.setter ≠ .noKeyPair

/-- Only a call that names a key pair or rules one out changes what suits the options. -/
theorem Setter.suits_write_iff {s : Setter} {call : Call} {k : Kind}
    (h : s = .keyPair → call.setter ≠ .noKeyPair) (h' : s = .noKeyPair → call.setter ≠ .keyPair) :
    s.Suits (call.write k o) ↔ s.Suits o := by
  cases s with
  | keyPair =>
    have hf : Field.noKeyPair ∉ call.setter.fields := fun hmem ↦
      h rfl (mem_fields_iff.mp hmem).symm
    rw [Suits, Suits, rulesOutKeyPair_congr (Call.get?_write_of_notMem hf)]
  | noKeyPair =>
    have hf : Field.keyPair ∉ call.setter.fields := fun hmem ↦
      h' rfl (mem_fields_iff.mp hmem).symm
    rw [Suits, Suits, isSome_keyPair?_congr (Call.get?_write_of_notMem hf)]
  | _ => exact Iff.rfl

theorem Harmonious.write {call : Call} {rest : List Call} (h : Harmonious o (call :: rest))
    (k : Kind) : Harmonious (call.write k o) rest := by
  refine ⟨fun b hb ↦ (Setter.suits_write_iff ?_ ?_).mpr (h.suits b (List.mem_cons_of_mem _ hb)),
    fun a ha b hb ↦ h.apart a (List.mem_cons_of_mem _ ha) b (List.mem_cons_of_mem _ hb)⟩
  · exact fun hs ↦ h.apart b (List.mem_cons_of_mem _ hb) call List.mem_cons_self hs
  · exact fun hs hs' ↦ h.apart call List.mem_cons_self b (List.mem_cons_of_mem _ hb) hs' hs

/-- A call that succeeded may be put in front of calls that suit the options it leaves. -/
theorem Harmonious.cons {call : Call} {rest : List Call} (h : Harmonious (call.write k o) rest)
    (hcall : (call.perform.result (fresh k)).isOk = true) (hkind : o.kind = k)
    (hsuits : call.setter.Suits o) : Harmonious o (call :: rest) := by
  have hkeyPair (hs : call.setter = .keyPair) : ∀ b ∈ rest, b.setter ≠ .noKeyPair :=
    fun b hb hb' ↦ Call.not_suits_noKeyPair hcall hs hkind (hb' ▸ h.suits b hb)
  have hnoKeyPair (hs : call.setter = .noKeyPair) : ∀ b ∈ rest, b.setter ≠ .keyPair :=
    fun b hb hb' ↦ Call.not_suits_keyPair hcall hs hkind (hb' ▸ h.suits b hb)
  refine ⟨List.forall_mem_cons.mpr ⟨hsuits, fun b hb ↦ ?_⟩, fun a ha b hb hs hs' ↦ ?_⟩
  · refine (Setter.suits_write_iff (fun hs hs' ↦ ?_) fun hs hs' ↦ ?_).mp (h.suits b hb)
    · exact hnoKeyPair hs' b hb hs
    · exact hkeyPair hs' b hb hs
  · rcases List.mem_cons.mp ha with rfl | harest <;> rcases List.mem_cons.mp hb with rfl | hbrest
    · cases hs.symm.trans hs'
    · exact hkeyPair hs b hbrest hs'
    · exact hnoKeyPair hs' a harest hs
    · exact h.apart a harest b hbrest hs hs'

/-- A run of calls that do not get in each other's way: each has the outcome that it has on new
options, and all that matters for the end is what they ask for. -/
theorem Harmonious.run (h : Harmonious o calls) (hkind : o.kind = k) (hfrozen : o.frozen = false) :
    outcomes calls o = calls.map (fun call ↦ (call.perform.run (fresh k)).2) ∧
      afterAll calls o = writeAll k calls o := by
  induction calls generalizing o with
  | nil => exact ⟨rfl, rfl⟩
  | cons call rest ih =>
    have hsuits := h.suits call List.mem_cons_self
    have hafter := Call.after_eq_write hkind hfrozen hsuits
    have houtcome := Call.outcome_eq_fresh hkind hfrozen hsuits
    obtain ⟨houtcomes, hrest⟩ := ih (h.write k) ((call.kind_write k o).trans hkind)
      ((call.frozen_write k o).trans hfrozen)
    constructor
    · rw [outcomes, List.map_cons, houtcome, hafter, houtcomes]
    · calc afterAll (call :: rest) o
          = afterAll rest (call.perform.after o) := rfl
        _ = writeAll k (call :: rest) o := by rw [hafter, hrest, writeAll_cons]

/-- The calls of a run that succeed. -/
def successes : List Call → Options → List Call
  | [], _ => []
  | call :: rest, o =>
    if (call.perform.result o).isOk then call :: successes rest (call.perform.after o)
    else successes rest (call.perform.after o)

/-- The calls that succeed in a run suit the options at its start, they succeed on new options, and
they alone lead to where the run leads. -/
theorem harmonious_successes (calls : List Call) (o : Options) (hkind : o.kind = k)
    (hfrozen : o.frozen = false) :
    Harmonious o (successes calls o) ∧
      (∀ call ∈ successes calls o, (call.perform.result (fresh k)).isOk = true) ∧
        afterAll calls o = writeAll k (successes calls o) o := by
  induction calls generalizing o with
  | nil => exact ⟨⟨nofun, nofun⟩, nofun, rfl⟩
  | cons call rest ih =>
    by_cases hok : (call.perform.result o).isOk = true
    · have hsuits := Call.suits_of_isOk hok
      have hafter := Call.after_eq_write hkind hfrozen hsuits
      have houtcome := Call.outcome_eq_fresh hkind hfrozen hsuits
      have hfresh : (call.perform.result (fresh k)).isOk = true :=
        (congrArg (fun r ↦ r.result.isOk) houtcome).symm.trans hok
      obtain ⟨hharmonious, hall, hrest⟩ := ih (call.write k o) ((call.kind_write k o).trans hkind)
        ((call.frozen_write k o).trans hfrozen)
      rw [successes, if_pos hok, hafter]
      refine ⟨hharmonious.cons hfresh hkind hsuits, List.forall_mem_cons.mpr ⟨hfresh, hall⟩, ?_⟩
      calc afterAll (call :: rest) o
          = afterAll rest (call.perform.after o) := rfl
        _ = writeAll k (call :: successes rest (call.write k o)) o := by
          rw [hafter, hrest, writeAll_cons]
    · have hsame : call.perform.after o = o := Call.after_of_not_isOk hok
      have hafter : afterAll (call :: rest) o = afterAll rest o :=
        congrArg (afterAll rest) hsame
      rw [successes, if_neg hok, hsame, hafter]
      exact ih o hkind hfrozen

theorem nodup_keys_write {c : Change} (hc : c.Fits o) (h : o.common.userMetadata.keys.Nodup) :
    (c.write.after o).common.userMetadata.keys.Nodup := by
  by_cases hf : Field.userMetadata ∈ c.fields
  · cases c with
    | metadata entries => exact hc.1
    | metadataEntry key value => exact Table.nodup_keys_put h key value
    | _ => simp [Change.fields] at hf
  · have hsame : (c.write.after o).get? .userMetadata = o.get? .userMetadata :=
      c.write_keeps_get? hf o
    rwa [Option.some.inj hsame]

theorem nodup_keys_afterAll (calls : List Call) (h : o.common.userMetadata.keys.Nodup) :
    (afterAll calls o).common.userMetadata.keys.Nodup := by
  induction calls generalizing o with
  | nil => exact h
  | cons call rest ih =>
    have hcall : (call.perform.after o).common.userMetadata.keys.Nodup := by
      rcases invoke_cases call.setter call.arguments call.mark o with
        ⟨_, _, hsame⟩ | ⟨_, _, _, hcheck, _, _, hafter⟩
      · rwa [Call.perform, hsame]
      · rw [Call.perform, hafter]
        exact nodup_keys_write (Mutation.fits_of_check hcheck) h
    exact ih hcall

/-! ### Replays -/

/-- Calls on new options that all succeed and lead to the same options as others. -/
structure Replays (k : Kind) (calls replay : List Call) : Prop where
  succeeds : ∀ r ∈ outcomes replay (fresh k), r.result = .ok .itself
  same : (afterAll replay (fresh k) == afterAll calls (fresh k)) = true

theorem replays_of_filter_eq {replay : List Call}
    (horder : ∀ s : Setter, (replay.filter fun call ↦ call.setter == s) =
      (lasting (successes calls (fresh k))).filter fun call ↦ call.setter == s) :
    Replays k calls replay := by
  have hmem {call : Call} (hcall : call ∈ replay) : call ∈ successes calls (fresh k) := by
    have hfilter : call ∈ replay.filter fun c ↦ c.setter == call.setter := by simp [hcall]
    rw [horder call.setter] at hfilter
    exact (lasting_sublist _).subset (List.mem_of_mem_filter hfilter)
  obtain ⟨hharmonious, hall, hafter⟩ := harmonious_successes calls (fresh k) (kind_fresh k) rfl
  have hreplay : Harmonious (fresh k) replay :=
    ⟨fun call hcall ↦ hharmonious.suits call (hmem hcall),
      fun a ha b hb ↦ hharmonious.apart a (hmem ha) b (hmem hb)⟩
  obtain ⟨houtcomes, hrun⟩ := hreplay.run (kind_fresh k) rfl
  have hsame : afterAll replay (fresh k) = afterAll calls (fresh k) :=
    calc afterAll replay (fresh k)
        = writeAll k replay (fresh k) := hrun
      _ = writeAll k (lasting (successes calls (fresh k))) (fresh k) :=
        writeAll_eq_of_filter horder _
      _ = writeAll k (successes calls (fresh k)) (fresh k) := writeAll_lasting hall _
      _ = afterAll calls (fresh k) := hafter.symm
  have hnodup : (fresh k).common.userMetadata.keys.Nodup := List.nodup_nil
  refine ⟨fun r hr ↦ ?_, ?_⟩
  · obtain ⟨call, hcall, rfl⟩ := List.mem_map.mp (houtcomes ▸ hr)
    exact Call.result_of_isOk (hall call (hmem hcall))
  · rw [hsame]
    exact withFrozen_beq_self (nodup_keys_afterAll calls hnodup) _

/-- Whatever calls are made on new options, and whether or not some of them fail: those that succeed
and of which something is left, in their order or in any other that keeps the order of the calls of
each setter, all succeed on new options and lead to the same options. Something is left of the last
call of each setter and, for metadata, of the last mapping and all entries that were added after it. -/
theorem replays_lasting (k : Kind) (calls : List Call) :
    Replays k calls (lasting (successes calls (fresh k))) ∧
      ∀ replay : List Call, (∀ s : Setter, (replay.filter fun call ↦ call.setter == s) =
          (lasting (successes calls (fresh k))).filter fun call ↦ call.setter == s) →
        Replays k calls replay := by
  have hall (replay : List Call) (horder : ∀ s : Setter,
      (replay.filter fun call ↦ call.setter == s) =
        (lasting (successes calls (fresh k))).filter fun call ↦ call.setter == s) :
      Replays k calls replay := replays_of_filter_eq horder
  exact ⟨hall _ fun _ ↦ rfl, hall⟩

end Calls

/-- A key pair is named before one is to be ruled out, which is refused; a mapping replaces one entry of
metadata, and a second entry is added to it. -/
def mixedCalls : List Call :=
  [⟨.userMetadata, ⟨[.text "env", .text "test"], []⟩, 0⟩, ⟨.keyPair, ⟨[.text "ops"], []⟩, 1⟩,
    ⟨.noKeyPair, ⟨[], []⟩, 2⟩, ⟨.userMetadata, ⟨[.dict [(.text "env", .text "prod")]], []⟩, 3⟩,
    ⟨.keyPair, ⟨[.text "admins"], []⟩, 4⟩, ⟨.userMetadata, ⟨[.text "team", .text "web"], []⟩, 5⟩]

theorem replays_lasting_mixed :
    lasting (successes mixedCalls (fresh .ec2)) =
        [⟨.userMetadata, ⟨[.dict [(.text "env", .text "prod")]], []⟩, 3⟩,
          ⟨.keyPair, ⟨[.text "admins"], []⟩, 4⟩,
          ⟨.userMetadata, ⟨[.text "team", .text "web"], []⟩, 5⟩] ∧
      Replays .ec2 mixedCalls [⟨.keyPair, ⟨[.text "admins"], []⟩, 4⟩,
        ⟨.userMetadata, ⟨[.dict [(.text "env", .text "prod")]], []⟩, 3⟩,
        ⟨.userMetadata, ⟨[.text "team", .text "web"], []⟩, 5⟩] := by
  refine ⟨rfl, (replays_lasting .ec2 mixedCalls).2 _ fun s ↦ ?_⟩
  cases s <;> rfl

end Provisioning.Options