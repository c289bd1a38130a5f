import Provisioning.Proofs.Options.Acceptance
import Provisioning.Proofs.Options.Replay
import Provisioning.Proofs.Session.WellFormed
import Provisioning.Script.Template

/-!
Options made anew from what their getters show. Each field that holds anything is handed to its
setter on new options of the same kind. No setter refuses or alters what is in well-formed options,
so the calls all succeed without a warning, in whatever order they are made, and lead to options that
equal the first ones.
-/

set_option autoImplicit false

namespace Provisioning

/-- The arguments by which a setter is handed what a getter shows: one for each item of a tuple, and
none for a truth value. -/
def Value.unpacked : Value → List Value
  | tuple items => items
  | bool _ => []
  | v => [v]

namespace Outcome

variable {α β : Type} {a : α}

theorem return_of_eq_ok {o : Outcome α} (h : o = .ok a) (f : α → β) :
    (do return f (← o) : Outcome β) = .ok (f a) := by
  rw [h]
  rfl

theorem return_lift_of_eq_ok {r : Except Error α} (h : r = .ok a) (f : α → β) :
    (do return f (← r) : Outcome β) = .ok (f a) := by
  rw [h]
  rfl

end Outcome

namespace Options

variable {o p : Options} {f : Field} {k : Kind} {s : Setter}

/-! ### What getters show -/

/-- The occasion on which the content of a field was handed over. -/
def Field.mark? : (f : Field) → f.Content → Option Nat
  | runScript, script => Option.map Held.mark script
  | spotPrice, price => Option.map Held.mark price
  | _, _ => none

theorem Field.label_injective {f g : Field} (h : f.label = g.label) : f = g := by
  have hfind (f : Field) : (all.find? fun g ↦ g.label == f.label) = some f := by
    cases f <;> rfl
  exact Option.some.inj ((hfind f).symm.trans (h ▸ hfind g))

theorem lookup_label (o : Options) (f : Field) (fs : List Field) :
    (fs.filterMap fun g ↦ (o.get? g).map fun x ↦ (g.label, g.toValue x)).lookup f.label =
      if f ∈ fs then (o.get? f).map f.toValue else none := by
  induction fs with
  | nil => rfl
  | cons g rest ih =>
    by_cases hfg : f = g
    · subst hfg
      cases hget : o.get? f <;> simp [hget, ih]
    · have hlabel : (f.label == g.label) = false :=
        beq_eq_false_iff_ne.mpr fun h ↦ hfg (Field.label_injective h)
      cases hget : o.get? g <;> simp [List.lookup_cons, hget, hlabel, hfg, ih]

/-- A getter shows the content of its field. -/
theorem field_label (o : Options) (f : Field) :
    o.field f.label = ((o.get? f).map f.toValue).getD .null := by
  have hmem : f ∈ Field.all := by cases f <;> decide
  rw [field, fields, lookup_label, if_pos hmem]

theorem eq_initial_of_isUnset {x : f.Content} (h : isUnset (f.toValue x) = true) :
    x = f.initial := by
  cases f with
  | inboundPorts | securityGroups | securityGroupIds | userMetadata =>
    cases x with
    | nil => rfl
    | cons y rest => cases h
  | includeMetadata | noKeyPair | monitoringEnabled =>
    cases x with
    | false => rfl
    | true => cases h
  | domainName => cases h
  | _ =>
    cases x with
    | none => rfl
    | some y => cases h

/-- Where a getter shows nothing, the field is as in new options. -/
theorem get?_of_isUnset (h : isUnset (o.field f.label) = true) :
    o.get? f = (fresh o.kind).get? f := by
  rw [field_label] at h
  rw [get?_fresh, ← isSome_get?]
  cases hget : o.get? f with
  | none => rfl
  | some x =>
    rw [hget] at h
    rw [eq_initial_of_isUnset h]
    rfl

/-- The call of a setter that asks for what getters show of its fields, unless they show nothing. -/
def Setter.restoring? (o : Options) (s : Setter) : Option Call :=
  let shown := s.fields.map fun f ↦ o.field f.label
  if shown.any isUnset then none
  else some ⟨s, ⟨shown.flatMap Value.unpacked, []⟩,
    (s.fields.findSome? fun f ↦ (o.get? f).bind f.mark?).getD 0⟩

/-- The calls that ask for all that getters show. -/
def restoration (o : Options) : List Call :=
  Setter.all.filterMap fun s ↦ s.restoring? o

theorem Setter.setter_of_restoring? {call : Call} (h : s.restoring? o = some call) :
    call.setter = s := by
  simp only [restoring?] at h
  split at h <;> cases h
  rfl

theorem Setter.isUnset_of_restoring? {call : Call} (h : s.restoring? o = some call)
    (hf : f ∈ s.fields) : isUnset (o.field f.label) = false := by
  simp only [restoring?] at h
  split at h
  · cases h
  · next hany =>
    refine Bool.eq_false_iff.mpr fun hunset ↦ hany ?_
    exact List.any_eq_true.mpr ⟨_, List.mem_map_of_mem hf, hunset⟩

theorem Setter.exists_fields_eq (h : s ≠ .blockOnPort) : ∃ f, s.fields = [f] ∧ f.setter = s := by
  cases s <;> first | exact absurd rfl h | exact ⟨_, rfl, rfl⟩

/-- A setter is asked for at most once. -/
theorem filter_restoration (o : Options) (s : Setter) :
    ((restoration o).filter fun call ↦ call.setter == s) = (s.restoring? o).toList := by
  have hone (t : Setter) : ((t.restoring? o).filter fun call ↦ call.setter == s) =
      if t == s then t.restoring? o else none := by
    cases ht : t.restoring? o with
    | none => exact (ite_self _).symm
    | some call => rw [Option.filter_some, Setter.setter_of_restoring? ht]
  have hself : (Setter.all.filter fun t ↦ t == s) = [s] := by
    cases s <;> decide
  calc ((restoration o).filter fun call ↦ call.setter == s)
      = Setter.all.filterMap fun t ↦ if t == s then t.restoring? o else none := by
        rw [restoration, List.filter_filterMap]
        simp only [hone]
    _ = (Setter.all.filter fun t ↦ t == s).filterMap fun t ↦ t.restoring? o :=
        List.filterMap_filter.symm
    _ = (s.restoring? o).toList := by
        rw [hself, List.filterMap_cons, List.filterMap_nil]
        cases s.restoring? o <;> rfl

/-! ### What setters say to it -/

section Checks

variable {name text : String}

theorem checkPrivateKey_text (h : isPem text = true) :
    checkPrivateKey name (.text text) = .ok text := by
  rw [checkPrivateKey, checkKey_text (ne_empty_of_isPem text h), Outcome.bind_eq,
    Outcome.ok_andThen, if_pos h]
  rfl

theorem checkScript_payload {script : Payload} (h : 0 < script.size) :
    checkScript script.toValue = .ok script := by
  have hpayload : checkScript script.toValue =
      if script.size = 0 then .fail (.argument .emptyScript) else .ok script := rfl
  rw [hpayload, if_neg h.ne']

theorem checkUserMetadata_dict {t : Table String String} (hnodup : t.keys.Nodup)
    (hkeys : ∀ k ∈ t.keys, k ≠ "") :
    checkUserMetadata (metadataValue t) .null = .ok (.metadata t) := by
  have hentry : ∀ e ∈ t, checkEntry (.text e.1) (.text e.2) = .ok e := by
    intro e he
    have hkey := (decides_checkText "metadata key" e.1).ok
      (hkeys e.1 (List.mem_map_of_mem he))
    rw [checkEntry, hkey]
    rfl
  have hentries : (t.map fun e ↦ (Value.text e.1, Value.text e.2)).mapM
      (fun e ↦ checkEntry e.1 e.2) = .ok t := by
    clear hnodup hkeys
    induction t with
    | nil => rfl
    | cons e rest ih =>
      rw [List.forall_mem_cons] at hentry
      rw [List.map_cons, List.mapM_cons, hentry.1, ih hentry.2]
      rfl
  have hself : Table.ofList t = t := Table.putAll_eq_of_prefix hnodup List.nil_prefix
  rw [metadataValue, checkUserMetadata, hentries]
  exact congrArg (fun t ↦ Except.ok (Change.metadata t)) hself

end Checks

variable [Domain.SuffixList]

/-- What a field may hold, unless nothing is set in it, is accepted by its setter on new options and
written to the field as it is. -/
theorem exists_change_of_admits {x : f.Content} (hx : f.Admits x)
    (hset : isUnset (f.toValue x) = false) (hf : f.setter ≠ .blockOnPort) (k : Kind) :
    ∃ m c, f.setter.mutation? ⟨(f.toValue x).unpacked, []⟩ ((f.mark? x).getD 0) = some m ∧
      m.check (fresh k) = .ok c ∧ c.write = assign f x := by
  cases f with
  | inboundPorts =>
    obtain ⟨hnodup, hports⟩ := hx
    have hcheck : checkPorts (List.map (fun (n : Nat) ↦ Value.int n) x) = .ok x := by
      rw [(decides_checkPorts x).ok hports, distinct_of_nodup hnodup]
    exact ⟨_, _, rfl, Outcome.return_lift_of_eq_ok hcheck _, rfl⟩
  | securityGroups | securityGroupIds =>
    obtain ⟨hnodup, hnames⟩ := hx
    have hne : x ≠ [] := by
      rintro rfl
      cases hset
    have hcheck (what : String) : checkNames what (List.map Value.text x) = .ok x := by
      rw [(decides_checkNames what hne).ok fun hmem ↦ hnames "" hmem rfl, distinct_of_nodup hnodup]
    exact ⟨_, _, rfl, Outcome.return_lift_of_eq_ok (hcheck _) _, rfl⟩
  | userMetadata =>
    obtain ⟨hnodup, hkeys⟩ := hx
    exact ⟨_, _, rfl, congrArg Outcome.lift (checkUserMetadata_dict hnodup hkeys), rfl⟩
  | includeMetadata | noKeyPair | monitoringEnabled =>
    cases x with
    | false => cases hset
    | true => exact ⟨_, _, rfl, by cases k <;> rfl, rfl⟩
  | domainName =>
    exact ⟨_, _, rfl, Outcome.return_lift_of_eq_ok (checkDomain_eq_ok hx) _, rfl⟩
  | port | seconds => exact absurd rfl hf
  | runScript =>
    cases x with
    | none => cases hset
    | some script =>
      exact ⟨_, _, rfl, Outcome.return_of_eq_ok (checkScript_payload (hx script rfl)) _, rfl⟩
  | privateKey | loginPrivateKey =>
    cases x with
    | none => cases hset
    | some key =>
      exact ⟨_, _, rfl, Outcome.return_of_eq_ok (checkPrivateKey_text (hx key rfl)) _, rfl⟩
  | publicKey =>
    cases x with
    | none => cases hset
    | some key => exact ⟨_, _, rfl, Outcome.return_of_eq_ok (checkKey_text (hx key rfl)) _, rfl⟩
  | loginUser | subnetId =>
    cases x with
    | none => cases hset
    | some text =>
      have hcheck (name : String) := (decides_checkText name text).ok (hx text rfl)
      exact ⟨_, _, rfl, Outcome.return_lift_of_eq_ok (hcheck _) _, rfl⟩
  | keyPair =>
    cases x with
    | none => cases hset
    | some name =>
      have hcheck : checkText "key_pair" (Field.keyPair.toValue (some name)) = .ok name :=
        (decides_checkText "key_pair" name).ok (hx name rfl)
      have hfree : (fresh k).rulesOutKeyPair = false := by cases k <;> rfl
      refine ⟨_, .keyPair name, rfl, ?_, rfl⟩
      simp only [Mutation.check, hcheck, hfree]
      rfl
  | userData =>
    cases x with
    | none => cases hset
    | some data =>
      have hcheck : checkUserData (.bytes data) = .ok data := by
        have hlength : ¬maxUserData < data.length := Nat.not_lt.mpr (hx data rfl)
        exact if_neg hlength
      exact ⟨_, _, rfl, Outcome.return_lift_of_eq_ok hcheck _, rfl⟩
  | spotPrice =>
    cases x with
    | none => cases hset
    | some price =>
      have hcheck := (decides_checkPrice price.value).ok (hx price rfl)
      exact ⟨_, _, rfl, Outcome.return_lift_of_eq_ok hcheck _, rfl⟩

/-! ### Calls that rebuild options -/

/-- A call that gives its fields what they hold in `o`. -/
structure Restores (o : Options) (call : Call) : Prop where
  outcome : (call.perform.run (fresh o.kind)).2 = .ok .itself
  get? : ∀ p, p.kind = o.kind → ∀ f ∈ call.setter.fields, (call.write o.kind p).get? f = o.get? f

theorem Restores.of_check {call : Call} {m : Mutation} {c : Change}
    (howner : o.kind.extends? call.setter.owner = true)
    (hm : call.setter.mutation? call.arguments call.mark = some m)
    (hcheck : m.check (fresh o.kind) = .ok c)
    (hwrite : (c.write.run (fresh o.kind)).2 = .ok ())
    (hget : ∀ p, p.kind = o.kind → ∀ f ∈ call.setter.fields, (c.write.after p).get? f = o.get? f) :
    Restores o call := by
  have houtcome : (call.perform.run (fresh o.kind)).2 = .ok .itself := by
    rw [Call.perform, outcome_invoke _ _ _ (by rwa [kind_fresh]) rfl, hm]
    simp [hcheck, hwrite]
  have hchange : call.change? o.kind = some c := by
    have hok : (call.perform.result (fresh o.kind)).isOk = true :=
      congrArg (fun r ↦ r.result.isOk) houtcome
    rw [Call.change?, if_pos hok, hm, Option.bind_some, hcheck]
    rfl
  refine ⟨houtcome, fun p hp f hf ↦ ?_⟩
  simp only [Call.write, hchange]
  exact hget p hp f hf

theorem Setter.restores_blockOnPort (ho : o.WellFormed) {call : Call}
    (h : restoring? o .blockOnPort = some call) : Restores o call := by
  have hport : o.field Field.port.label = .ofNat? o.common.port := field_label o .port
  have hseconds : o.field Field.seconds.label = .ofNat? o.common.seconds := field_label o .seconds
  simp only [restoring?, fields, List.map_cons, List.map_nil, hport, hseconds] at h
  cases hp : o.common.port with
  | none => simp [hp, Value.ofNat?, isUnset] at h
  | some p =>
    cases hn : o.common.seconds with
    | none => simp [hn, Value.ofNat?, isUnset] at h
    | some n =>
      rw [hp, hn] at h
      cases h
      have hmax : p ≤ maxPort := ho.admits .port (some p) (congrArg some hp) p rfl
      have hcheck : (Mutation.blockOnPort (.int p) (.int n)).check (fresh o.kind) =
          .ok (.block ⟨p, n⟩) := by
        rw [Mutation.check, (decides_checkPort "port" p).ok hmax, (decides_checkSeconds n).ok trivial]
        rfl
      refine .of_check (Kind.extends?_base _) rfl hcheck rfl fun q _ f hf ↦ ?_
      simp only [fields, List.mem_cons, List.not_mem_nil, or_false] at hf
      rcases hf with rfl | rfl
      · exact (congrArg some hp).symm
      · exact (congrArg some hn).symm

theorem Setter.restores_of_restoring? (ho : o.WellFormed) {call : Call}
    (h : s.restoring? o = some call) : Restores o call := by
  by_cases hs : s = .blockOnPort
  · subst hs
    exact restores_blockOnPort ho h
  · obtain ⟨f, hfields, rfl⟩ := exists_fields_eq hs
    simp only [restoring?, hfields, List.map_cons, List.map_nil] at h
    cases hget : o.get? f with
    | none => simp [field_label, hget, isUnset] at h
    | some x =>
      have hshown : o.field f.label = f.toValue x := by
        rw [field_label, hget]
        rfl
      rw [hshown] at h
      split at h
      · cases h
      · next hset =>
        cases h
        have hset' : isUnset (f.toValue x) = false := by simpa using hset
        obtain ⟨m, c, hm, hcheck, hwrite⟩ :=
          exists_change_of_admits (ho.admits f x hget) hset' hs o.kind
        have howner : o.kind.extends? f.owner = true := by
          rw [← isSome_get?, hget]
          rfl
        have hmem : f ∈ f.setter.fields := hfields ▸ List.mem_singleton_self f
        refine .of_check ?_ ?_ hcheck ?_ fun q hq g hg ↦ ?_
        · rwa [← owner_of_mem_fields hmem]
        · simpa [hget] using hm
        · rw [hwrite]
          rfl
        · rw [hfields, List.mem_singleton] at hg
          subst hg
          rw [hwrite, hget]
          exact get?_assign (hq ▸ howner) x

/-- Where no setter is asked for, all fields are as in new options. -/
theorem Setter.get?_of_restoring?_eq_none (ho : o.WellFormed) (h : s.restoring? o = none)
    (hf : f ∈ s.fields) : o.get? f = (fresh o.kind).get? f := by
  have hunset : ∃ g ∈ s.fields, isUnset (o.field g.label) = true := by
    simp only [restoring?] at h
    split at h
    · next hany => simpa using hany
    · cases h
  obtain ⟨g, hg, hunset⟩ := hunset
  have hget := get?_of_isUnset hunset
  by_cases hs : s = .blockOnPort
  · -- Options that do not say which port to wait for do not say how long, and the other way round.
    subst hs
    have hnone : o.get? .port = some none ∧ o.get? .seconds = some none := by
      simp only [fields, List.mem_cons, List.not_mem_nil, or_false] at hg
      rcases hg with rfl | rfl
      · exact ⟨hget, ho.waits.mp hget⟩
      · exact ⟨ho.waits.mpr hget, hget⟩
    simp only [fields, List.mem_cons, List.not_mem_nil, or_false] at hf
    rcases hf with rfl | rfl
    · exact hnone.1
    · exact hnone.2
  · obtain ⟨f', hfields, _⟩ := exists_fields_eq hs
    rw [hfields, List.mem_singleton] at hf hg
    rw [hf, ← hg]
    exact hget

/-! ### All of them -/

/-- Options that name a key pair do not rule one out, so the calls do not get in each other's way. -/
theorem harmonious_of_restoring? (ho : o.WellFormed) {calls : List Call}
    (hcalls : ∀ call ∈ calls, call.setter.restoring? o = some call) :
    Harmonious (fresh o.kind) calls := by
  refine ⟨fun call _ ↦ suits_fresh o.kind call.setter, fun a ha b hb hs hs' ↦ ?_⟩
  have hkeyPair := Setter.isUnset_of_restoring? (hs ▸ hcalls a ha) (f := .keyPair) (by decide)
  have hnoKeyPair := Setter.isUnset_of_restoring? (hs' ▸ hcalls b hb) (f := .noKeyPair) (by decide)
  rw [field_label] at hkeyPair hnoKeyPair
  refine ho.oneKeyPair ?_ ?_
  · rcases hget : o.get? .keyPair with _ | _ | name
    · simp [hget, isUnset] at hkeyPair
    · simp [hget, Field.toValue, Value.ofText?, isUnset] at hkeyPair
    · exact ⟨name, rfl⟩
  · rcases hget : o.get? .noKeyPair with _ | _ | _
    · simp [hget, isUnset] at hnoKeyPair
    · simp [hget, Field.toValue, isUnset] at hnoKeyPair
    · rfl

/-- The calls that ask for what the getters of well-formed options show rebuild the options. -/
theorem rebuilds_of_perm (ho : o.WellFormed) {calls : List Call}
    (hcalls : calls.Perm (restoration o)) :
    (∀ r ∈ outcomes calls (fresh o.kind), r = .ok .itself) ∧
      (afterAll calls (fresh o.kind) == o) = true := by
  have hrestoring : ∀ call ∈ calls, call.setter.restoring? o = some call := by
    intro call hcall
    obtain ⟨s, _, hs⟩ := List.mem_filterMap.mp (hcalls.subset hcall)
    rwa [Setter.setter_of_restoring? hs]
  have hfilter (s : Setter) :
      (calls.filter fun call ↦ call.setter == s) = (s.restoring? o).toList := by
    have hperm := hcalls.filter fun call ↦ call.setter == s
    rw [filter_restoration] at hperm
    cases hs : s.restoring? o with
    | none =>
      rw [hs] at hperm
      exact List.perm_nil.mp hperm
    | some call =>
      rw [hs] at hperm
      exact List.perm_singleton.mp hperm
  obtain ⟨houtcomes, hafter⟩ := (harmonious_of_restoring? ho hrestoring).run (kind_fresh o.kind) rfl
  constructor
  · intro r hr
    rw [houtcomes] at hr
    obtain ⟨call, hcall, rfl⟩ := List.mem_map.mp hr
    exact (Setter.restores_of_restoring? ho (hrestoring call hcall)).outcome
  · have hsame : afterAll calls (fresh o.kind) = { o with frozen := false } := by
      rw [hafter]
      refine ext_get? ?_ (frozen_writeAll _ _ _) fun f ↦ ?_
      · exact (kind_writeAll _ _ _).trans (kind_fresh o.kind)
      · rw [get?_writeAll_filter, hfilter, get?_withFrozen]
        have hmem : f ∈ f.setter.fields := Setter.mem_fields_iff.mpr rfl
        cases hs : f.setter.restoring? o with
        | none => exact (Setter.get?_of_restoring?_eq_none ho hs hmem).symm
        | some call =>
          have hsetter := Setter.setter_of_restoring? hs
          exact (Setter.restores_of_restoring? ho hs).get? _ (kind_fresh o.kind) f (hsetter ▸ hmem)
    obtain ⟨hnodup, _⟩ := ho.admits .userMetadata _ rfl
    rw [hsame]
    exact withFrozen_beq_self hnodup false

end Options

namespace Session

/-- Whatever a program has done, what the getters of any of its options show can be handed to the
setters of new options of the same kind, one call for each setter whose fields hold anything, in any
order: no call fails or gives a warning, and the new options equal the old ones. -/
theorem restoration_succeeds [Domain.SuffixList] [Script.Engine]
    (hdefault : Domain.publicSuffix Options.defaultDomain ≠ "") (operations : List Operation)
    {o : Options} (ho : o ∈ (Session.run start operations).objects) {calls : List Options.Call}
    (hcalls : calls.Perm (Options.restoration o)) :
    (∀ r ∈ Options.outcomes calls (.fresh o.kind), r = .ok .itself) ∧
      (Options.afterAll calls (.fresh o.kind) == o) = true :=
  Options.rebuilds_of_perm (wellFormed_run hdefault operations o ho) hcalls

/-- EC2 options that are copied onto Amazon options. -/
def copying : List Operation :=
  [.create .ec2, .step (.call 4 .inboundPorts ⟨[.int 22, .int 80, .int 22], []⟩),
    .step (.call 4 .blockOnPort ⟨[.int 22, .int 120], []⟩),
    .step (.call 4 .userMetadata ⟨[.text "env", .text "prod"], []⟩),
    .step (.call 4 .keyPair ⟨[.text "ops"], []⟩), .create .awsEc2,
    .step (.call 5 .subnetId ⟨[.text "subnet-1"], []⟩), .step (.copy 4 5)]

/-- The calls that rebuild the Amazon options, the last field first. -/
def rebuilding : List Options.Call :=
  [⟨.subnetId, ⟨[.text "subnet-1"], []⟩, 0⟩, ⟨.keyPair, ⟨[.text "ops"], []⟩, 0⟩,
    ⟨.userMetadata, ⟨[.dict [(.text "env", .text "prod")]], []⟩, 0⟩,
    ⟨.blockOnPort, ⟨[.int 22, .int 120], []⟩, 0⟩, ⟨.inboundPorts, ⟨[.int 22, .int 80], []⟩, 0⟩]

theorem restoration_succeeds_copying : Domain.publicSuffix Options.defaultDomain ≠ "" ∧
    ∃ o ∈ (Session.run start copying).objects, rebuilding.Perm (Options.restoration o) ∧
      o.kind = .awsEc2 ∧
      (∀ r ∈ Options.outcomes rebuilding (.fresh .awsEc2), r = .ok .itself) ∧
      (Options.afterAll rebuilding (.fresh .awsEc2) == o) = true := by
  have hobject : ∃ o, (Session.run start copying).objects[5]? = some o ∧ o.kind = .awsEc2 ∧
      Options.restoration o = rebuilding.reverse := ⟨_, rfl, rfl, rfl⟩
  obtain ⟨o, ho, hkind, hcalls⟩ := hobject
  have hmem := List.mem_of_getElem? ho
  have hperm : rebuilding.Perm (Options.restoration o) :=
    hcalls ▸ (List.reverse_perm rebuilding).symm
  have hspec := restoration_succeeds (by decide) copying hmem hperm
  rw [hkind] at hspec
  exact ⟨by decide, o, hmem, hperm, hkind, hspec⟩

end Session

end Provisioning
