import Provisioning.Proofs.Options.Call

/-!
Well-formed options: what each field may hold, and what holds between the fields that depend on each
other. New options are well formed, and so are options after any call of a setter.
-/

set_option autoImplicit false

namespace Provisioning.Options

theorem rulesOutKeyPair_iff {o : Options} :
    o.rulesOutKeyPair = true ↔ o.get? .noKeyPair = some true := by
  simp only [rulesOutKeyPair, get?]
  cases o.extras.ec2? with
  | none => exact ⟨nofun, nofun⟩
  | some e => exact ⟨fun h ↦ congrArg some h, fun h ↦ Option.some.inj h⟩

theorem isSome_keyPair?_iff {o : Options} :
    o.keyPair?.isSome = true ↔ ∃ name, o.get? .keyPair = some (some name) := by
  simp only [keyPair?, get?]
  cases o.extras.ec2? with
  | none => exact ⟨nofun, nofun⟩
  | some e =>
    rw [Option.isSome_iff_exists]
    exact exists_congr fun name ↦ ⟨fun h ↦ congrArg some h, fun h ↦ Option.some.inj h⟩

theorem rulesOutKeyPair_congr {o p : Options} (h : o.get? .noKeyPair = p.get? .noKeyPair) :
    o.rulesOutKeyPair = p.rulesOutKeyPair := by
  rw [Bool.eq_iff_iff, rulesOutKeyPair_iff, rulesOutKeyPair_iff, h]

theorem isSome_keyPair?_congr {o p : Options} (h : o.get? .keyPair = p.get? .keyPair) :
    o.keyPair?.isSome = p.keyPair?.isSome := by
  rw [Bool.eq_iff_iff, isSome_keyPair?_iff, isSome_keyPair?_iff, h]

private theorem forall_mem_some {α : Type} {P : α → Prop} {a : α} (h : P a) :
    ∀ b ∈ some a, P b := by
  rintro b ⟨⟩
  exact h

section WellFormed

variable [Domain.SuffixList]

/-- What a field may hold. -/
def Field.Admits : (f : Field) → f.Content → Prop
  | inboundPorts => fun (ports : List Nat) ↦ ports.Nodup ∧ ∀ p ∈ ports, p ≤ maxPort
  | port => fun (port : Option Nat) ↦ ∀ p ∈ port, p ≤ maxPort
  | runScript => fun (script : Option (Held Payload)) ↦ ∀ s ∈ script, 0 < s.value.size
  | privateKey | loginPrivateKey => fun (key : Option String) ↦ ∀ k ∈ key, isPem k = true
  | publicKey | loginUser | keyPair | subnetId => fun (text : Option String) ↦ ∀ t ∈ text, t ≠ ""
  | userMetadata => fun (t : Table String String) ↦ t.keys.Nodup ∧ ∀ k ∈ t.keys, k ≠ ""
  | domainName => fun (name : String) ↦ Domain.hasPublicSuffix name = true
  | securityGroups | securityGroupIds =>
    fun (names : List String) ↦ names.Nodup ∧ ∀ name ∈ names, name ≠ ""
  | userData => fun (data : Option Bytes) ↦ ∀ d ∈ data, d.length ≤ maxUserData
  | spotPrice => fun (price : Option (Held Float)) ↦ ∀ p ∈ price, ¬p.value ≤ 0
  | seconds | includeMetadata | noKeyPair | monitoringEnabled => fun _ ↦ True

/-- Options whose fields hold what they may hold, which wait for a port just if they say how long,
and which do not name a key pair and rule it out at the same time. -/
structure WellFormed (o : Options) : Prop where
  admits : ∀ f x, o.get? f = some x → f.Admits x
  waits : o.get? .port = some none ↔ o.get? .seconds = some none
  oneKeyPair : (∃ name, o.get? .keyPair = some (some name)) → o.get? .noKeyPair ≠ some true

/-- What the checks of a call on `o` establish about the change that comes of it. -/
def Change.Fits (o : Options) : Change → Prop
  | inboundPorts ports => Field.Admits .inboundPorts ports
  | block b => Field.Admits .port (some b.port)
  | runScript script mark => Field.Admits .runScript (some ⟨script, mark⟩)
  | privateKey key => Field.Admits .privateKey (some key)
  | publicKey key => Field.Admits .publicKey (some key)
  | loginUser user => Field.Admits .loginUser (some user)
  | loginPrivateKey key => Field.Admits .loginPrivateKey (some key)
  | metadata entries => Field.Admits .userMetadata entries
  | metadataEntry key _ => key ≠ ""
  | domainName name => Field.Admits .domainName name
  | securityGroups names => Field.Admits .securityGroups names
  | keyPair name => Field.Admits .keyPair (some name) ∧ o.get? .noKeyPair ≠ some true
  | noKeyPair => ¬∃ name, o.get? .keyPair = some (some name)
  | userData data => Field.Admits .userData (some data)
  | securityGroupIds ids => Field.Admits .securityGroupIds ids
  | spotPrice offer mark => ∀ x, offer.amount = .ok x → Field.Admits .spotPrice (some ⟨x, mark⟩)
  | subnetId id => Field.Admits .subnetId (some id)
  | includeMetadata | monitoring => True

variable {o : Options}

/-- What comes of a call that passes its checks fits the options. -/
theorem Mutation.fits_of_check {m : Mutation} {c : Change} (h : (m.check o).result = .ok c) :
    c.Fits o := by
  cases m with
  | userMetadata key value =>
    rcases checkUserMetadata_cases h with ⟨t, rfl, ht⟩ | ⟨k, v, rfl, hk⟩
    · exact ht
    · exact hk
  | keyPair name =>
    simp only [check, Outcome.result_bind_eq_ok_iff] at h
    obtain ⟨text, htext, h⟩ := h
    obtain ⟨hconflict, rfl⟩ := checkNoConflict_spec h
    refine ⟨forall_mem_some (ne_empty_of_checkText htext), fun hget ↦ ?_⟩
    exact Bool.false_ne_true (hconflict.symm.trans (rulesOutKeyPair_iff.mpr hget))
  | noKeyPair =>
    obtain ⟨hconflict, rfl⟩ := checkNoConflict_spec h
    exact fun hname ↦ Bool.false_ne_true (hconflict.symm.trans (isSome_keyPair?_iff.mpr hname))
  | withMetadata | enableMonitoring =>
    cases h
    trivial
  | blockOnPort port seconds =>
    simp only [check, Outcome.result_bind_eq_ok_iff] at h
    obtain ⟨p, hp, s, _, h⟩ := h
    cases h
    exact forall_mem_some (le_maxPort_of_checkPort hp)
  | inboundPorts ports =>
    obtain ⟨ps, hps, rfl⟩ := Outcome.exists_of_return_lift h
    exact checkPorts_spec hps
  | runScript script mark =>
    obtain ⟨payload, hpayload, rfl⟩ := Outcome.exists_of_return h
    exact forall_mem_some (size_pos_of_checkScript hpayload)
  | installPrivateKey key | overrideLoginPrivateKey key =>
    obtain ⟨text, htext, rfl⟩ := Outcome.exists_of_return h
    exact forall_mem_some (isPem_of_checkPrivateKey htext)
  | authorizePublicKey key =>
    obtain ⟨text, htext, rfl⟩ := Outcome.exists_of_return h
    exact forall_mem_some (ne_empty_of_checkKey htext)
  | overrideLoginUser text | subnetId text =>
    obtain ⟨text, htext, rfl⟩ := Outcome.exists_of_return_lift h
    exact forall_mem_some (ne_empty_of_checkText htext)
  | domainName name =>
    obtain ⟨text, htext, rfl⟩ := Outcome.exists_of_return_lift h
    exact hasPublicSuffix_of_checkDomain htext
  | securityGroups names | securityGroupIds names =>
    obtain ⟨texts, htexts, rfl⟩ := Outcome.exists_of_return_lift h
    exact checkNames_spec htexts
  | userData data =>
    obtain ⟨bytes, hbytes, rfl⟩ := Outcome.exists_of_return_lift h
    exact forall_mem_some (length_le_of_checkUserData hbytes)
  | spotPrice price mark =>
    obtain ⟨offer, hoffer, rfl⟩ := Outcome.exists_of_return_lift h
    exact fun x hx ↦ forall_mem_some (not_amount_le_zero_of_checkPrice hoffer hx)

/-- What is in the fields of new options is what they may hold, provided that the default domain ends
in a public suffix. -/
theorem wellFormed_fresh (hdefault : Domain.hasPublicSuffix defaultDomain = true) (k : Kind) :
    (fresh k).WellFormed := by
  refine ⟨fun f x hx ↦ ?_, ⟨fun _ ↦ rfl, fun _ ↦ rfl⟩, ?_⟩
  · cases f with
    | inboundPorts | userMetadata =>
      cases hx
      exact ⟨List.nodup_nil, nofun⟩
    | securityGroups | securityGroupIds =>
      cases k <;> cases hx <;> exact ⟨List.nodup_nil, nofun⟩
    | port | runScript | privateKey | publicKey | loginUser | loginPrivateKey =>
      cases hx
      exact nofun
    | keyPair | userData | spotPrice | subnetId => cases k <;> cases hx <;> exact nofun
    | domainName =>
      cases k <;> cases hx
      exact hdefault
    | seconds | includeMetadata | noKeyPair | monitoringEnabled => trivial
  · rintro ⟨name, hname⟩
    cases k <;> cases hname

/-- A field that is set to what it may hold leaves each field with what it may hold. -/
theorem admits_set (h : ∀ g y, o.get? g = some y → g.Admits y) {f : Field} {x : f.Content}
    (hx : f.Admits x) {g : Field} {y : g.Content} (hy : (o.set f x).get? g = some y) :
    g.Admits y := by
  by_cases hfg : f = g
  · subst hfg
    rw [get?_set_self, Option.map_eq_some_iff] at hy
    obtain ⟨_, _, rfl⟩ := hy
    exact hx
  · rw [get?_set_of_ne hfg] at hy
    exact h g y hy

/-- A field that no other one depends on may be set to whatever it may hold. -/
theorem WellFormed.set (h : o.WellFormed) {f : Field} {x : f.Content} (hx : f.Admits x)
    (hfree : f ∉ [Field.port, .seconds, .keyPair, .noKeyPair]) : (o.set f x).WellFormed := by
  simp only [List.mem_cons, List.not_mem_nil, or_false, not_or] at hfree
  obtain ⟨hport, hseconds, hkeyPair, hnoKeyPair⟩ := hfree
  refine ⟨fun g y ↦ admits_set h.admits hx, ?_, ?_⟩
  · rw [get?_set_of_ne hport, get?_set_of_ne hseconds]
    exact h.waits
  · rw [get?_set_of_ne hnoKeyPair]
    simp only [get?_set_of_ne hkeyPair]
    exact h.oneKeyPair

theorem WellFormed.assign (h : o.WellFormed) {f : Field} {x : f.Content} (hx : f.Admits x)
    (hfree : f ∉ [Field.port, .seconds, .keyPair, .noKeyPair]) :
    ((Options.assign f x).after o).WellFormed :=
  h.set hx hfree

/-- A change that fits well-formed options leaves them well formed, even if it fails. -/
theorem WellFormed.write (h : o.WellFormed) {c : Change} (hc : c.Fits o) :
    (c.write.after o).WellFormed := by
  cases c with
  | block b =>
    -- Between the two assignments the options are not well formed.
    have hport : Field.Admits .port (some b.port) := hc
    have hset : ((o.set .port (some b.port)).set .seconds (some b.seconds)).WellFormed := by
      refine ⟨fun g y ↦ admits_set (f := .seconds) ?_ trivial, ⟨nofun, nofun⟩, h.oneKeyPair⟩
      exact fun g y ↦ admits_set h.admits hport
    exact hset
  | metadataEntry key value =>
    obtain ⟨hnodup, hkeys⟩ := h.admits .userMetadata _ rfl
    refine h.set (f := .userMetadata) ⟨Table.nodup_keys_put hnodup key value, ?_⟩ (by decide)
    intro k hk
    rcases Table.mem_keys_put.mp hk with hk | rfl
    · exact hkeys k hk
    · exact hc
  | keyPair name =>
    obtain ⟨hname, hno⟩ := hc
    have hset : (o.set .keyPair (some name)).WellFormed := by
      refine ⟨fun g y ↦ admits_set h.admits hname, h.waits, fun _ ↦ ?_⟩
      rwa [get?_set_of_ne (by decide)]
    exact hset
  | noKeyPair =>
    have hset : (o.set .noKeyPair true).WellFormed := by
      refine ⟨fun g y ↦ admits_set (f := .noKeyPair) h.admits trivial, h.waits, fun hname ↦ ?_⟩
      simp only [get?_set_of_ne (show Field.noKeyPair ≠ .keyPair by decide)] at hname
      exact absurd hname hc
    exact hset
  | spotPrice offer mark =>
    rw [Change.after_write_spotPrice]
    split
    · next x hamount => exact h.assign (hc x hamount) (by decide)
    · exact h
  | includeMetadata | monitoring =>
    refine h.assign ?_ (by decide)
    trivial
  | _ =>
    refine h.assign ?_ (by decide)
    exact hc

theorem WellFormed.withFrozen (h : o.WellFormed) (frozen : Bool) :
    ({ o with frozen := frozen } : Options).WellFormed := by
  have hget := get?_withFrozen o frozen
  refine ⟨fun f x hx ↦ ?_, ?_, ?_⟩
  · rw [hget f] at hx
    exact h.admits f x hx
  · rw [hget .port, hget .seconds]
    exact h.waits
  · rw [hget .keyPair, hget .noKeyPair]
    exact h.oneKeyPair

/-- A call of a setter leaves well-formed options well formed, whether or not it fails. -/
theorem WellFormed.invoke (h : o.WellFormed) (s : Setter) (a : Arguments Value) (mark : Nat) :
    ((invoke s.label a mark).after o).WellFormed := by
  rcases invoke_cases s a mark o with ⟨_, _, hsame⟩ | ⟨m, c, _, hcheck, _, _, hwritten⟩
  · rw [hsame]
    exact h
  · rw [hwritten]
    exact h.write (Mutation.fits_of_check hcheck)

end WellFormed
end Provisioning.Options
