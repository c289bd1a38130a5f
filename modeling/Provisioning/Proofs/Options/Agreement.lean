import Provisioning.Proofs.Options.Copy
import Provisioning.Proofs.Value.Equivalence

/-!
When options equal each other: they are of one kind and agree in every field (`beq_iff_agrees`).
Agreement of most contents is equality. Metadata agree if they give the same text to every key, in
whatever order, and what was handed over agrees if it is equal or was handed over on one occasion.
Agreement is an equivalence of all contents that can be compared, and so is equality of options.
-/

set_option autoImplicit false

namespace Provisioning

open Value (IsSound)

namespace Options

/-! ### Values that were handed over -/

section Held

variable {α : Type} [BEq α]

/-- Equality that is symmetric where the first value has the property `P`, and transitive. -/
structure IsPartialEquivalence (P : α → Prop) : Prop where
  symm : ∀ {x y : α}, P x → (x == y) = true → (y == x) = true
  trans : ∀ {x y z : α}, (x == y) = true → (y == z) = true → (x == z) = true

variable {P : α → Prop} {a b c : Held α} {x y z : Option (Held α)}

theorem Held.same_iff : a.same b = true ↔ (a.value == b.value) = true ∨
    a.mark = b.mark ∧ ¬(a.value == a.value) = true ∧ ¬(b.value == b.value) = true := by
  simp [same, and_assoc]

theorem Held.same_symm (hP : IsPartialEquivalence P) (ha : P a.value) (h : a.same b = true) :
    b.same a = true := by
  rw [same_iff] at h ⊢
  exact h.imp (hP.symm ha) fun ⟨hmark, ha', hb'⟩ ↦ ⟨hmark.symm, hb', ha'⟩

theorem Held.same_trans (hP : IsPartialEquivalence P) (ha : P a.value) (hb : P b.value)
    (hab : a.same b = true) (hbc : b.same c = true) : a.same c = true := by
  rw [same_iff] at hab hbc ⊢
  -- A value that equals another one equals itself, and then its mark does not count.
  rcases hab with hab | ⟨hmark, ha', hb'⟩
  · rcases hbc with hbc | ⟨_, hb', _⟩
    · exact .inl (hP.trans hab hbc)
    · exact absurd (hP.trans (hP.symm ha hab) hab) hb'
  · rcases hbc with hbc | ⟨hmark', _, hc'⟩
    · exact absurd (hP.trans hbc (hP.symm hb hbc)) hb'
    · exact .inr ⟨hmark.trans hmark', ha', hc'⟩

theorem sameHeld_symm (hP : IsPartialEquivalence P) (hx : ∀ a ∈ x, P a.value)
    (h : sameHeld x y = true) : sameHeld y x = true := by
  match x, y with
  | none, none => rfl
  | some a, some b => exact Held.same_symm hP (hx a rfl) h
  | none, some _ | some _, none => cases h

theorem sameHeld_trans (hP : IsPartialEquivalence P) (hx : ∀ a ∈ x, P a.value)
    (hy : ∀ a ∈ y, P a.value) (hxy : sameHeld x y = true) (hyz : sameHeld y z = true) :
    sameHeld x z = true := by
  match x, y, z with
  | none, none, none => rfl
  | some a, some b, some c => exact Held.same_trans hP (hx a rfl) (hy b rfl) hxy hyz
  | none, some _, _ | some _, none, _ => cases hxy
  | none, none, some _ | some _, some _, none => cases hyz

end Held

theorem isPartialEquivalence_payload :
    IsPartialEquivalence fun p : Payload ↦ p.contentType.IsSound where
  symm hp h := IsSound.equals_symm (.payload hp) h
  trans h h' := Value.equals_trans h h'

theorem isPartialEquivalence_float : IsPartialEquivalence fun _ : Float ↦ True where
  symm _ h := by
    obtain ⟨a, hx, hy⟩ := Decimal.beq_iff_amount?.mp h
    exact Decimal.beq_iff_amount?.mpr ⟨a, hy, hx⟩
  trans h h' := by
    obtain ⟨a, hx, hy⟩ := Decimal.beq_iff_amount?.mp h
    obtain ⟨b, hy', hz⟩ := Decimal.beq_iff_amount?.mp h'
    cases hy.symm.trans hy'
    exact Decimal.beq_iff_amount?.mpr ⟨a, hx, hz⟩

/-! ### Metadata -/

section Metadata

variable {s t : Table String String}

/-- Tables with the same entries in any order give the same to every key. -/
theorem perm_iff_get? (hs : s.keys.Nodup) (ht : t.keys.Nodup) :
    List.Perm s t ↔ ∀ k, s.get? k = t.get? k := by
  rw [List.perm_ext_iff_of_nodup (hs.of_map Prod.fst) (ht.of_map Prod.fst)]
  simp only [Table.mem_iff_get? hs, Table.mem_iff_get? ht]
  exact ⟨fun h k ↦ Option.ext fun v ↦ h (k, v), fun h e ↦ by rw [h e.1]⟩

theorem sameMetadata_iff (hs : s.keys.Nodup) (ht : t.keys.Nodup) :
    sameMetadata s t = true ↔ ∀ k, s.get? k = t.get? k := by
  rw [← perm_iff_get? hs ht, sameMetadata, Bool.and_eq_true, beq_iff_eq, List.all_eq_true]
  simp only [beq_iff_eq, ← Table.mem_iff_get? ht]
  constructor
  · rintro ⟨hlength, hsubset⟩
    exact ((hs.of_map Prod.fst).subperm hsubset).perm_of_length_le hlength.ge
  · exact fun h ↦ ⟨h.length_eq, fun e he ↦ h.mem_iff.mp he⟩

end Metadata

/-! ### Fields -/

namespace Field

/-- Content that can be compared: each key of metadata is there once, and the content type of a
script is sound. -/
def Comparable : (f : Field) → f.Content → Prop
  | runScript => fun (script : Option (Held Payload)) ↦ ∀ s ∈ script, s.value.contentType.IsSound
  | userMetadata => fun (t : Table String String) ↦ t.keys.Nodup
  | _ => fun _ ↦ True

/-- Agreement of two contents of a field. Metadata agree if they give the same to every key. -/
def Agrees : (f : Field) → f.Content → f.Content → Prop
  | runScript => fun (x y : Option (Held Payload)) ↦ sameHeld x y = true
  | spotPrice => fun (x y : Option (Held Float)) ↦ sameHeld x y = true
  | userMetadata => fun (s t : Table String String) ↦ ∀ k, s.get? k = t.get? k
  | _ => Eq

variable {f : Field} {x y z : f.Content}

theorem Agrees.refl (f : Field) (x : f.Content) : f.Agrees x x := by
  cases f with
  | runScript | spotPrice => exact sameHeld_self x
  | _ => simp only [Agrees, implies_true]

theorem Agrees.symm (hx : f.Comparable x) (h : f.Agrees x y) : f.Agrees y x := by
  cases f with
  | runScript => exact sameHeld_symm isPartialEquivalence_payload hx h
  | spotPrice => exact sameHeld_symm isPartialEquivalence_float (fun _ _ ↦ trivial) h
  | userMetadata => exact fun k ↦ (h k).symm
  | _ => exact Eq.symm h

theorem Agrees.trans (hx : f.Comparable x) (hy : f.Comparable y) (hxy : f.Agrees x y)
    (hyz : f.Agrees y z) : f.Agrees x z := by
  cases f with
  | runScript => exact sameHeld_trans isPartialEquivalence_payload hx hy hxy hyz
  | spotPrice =>
    exact sameHeld_trans isPartialEquivalence_float (fun _ _ ↦ trivial) (fun _ _ ↦ trivial) hxy hyz
  | userMetadata => exact fun k ↦ (hxy k).trans (hyz k)
  | _ => exact Eq.trans hxy hyz

end Field

/-! ### Options -/

/-- Options whose fields hold what can be compared. -/
def Comparable (o : Options) : Prop :=
  ∀ f x, o.get? f = some x → f.Comparable x

/-- Options of one kind that agree in every field. -/
structure Agrees (a b : Options) : Prop where
  kind : a.kind = b.kind
  get? : ∀ f x y, a.get? f = some x → b.get? f = some y → f.Agrees x y

variable {a b c d : Options}

theorem Ec2.same_iff {e e' : Ec2} : e.same e' = true ↔ e = e' := by
  simp [Ec2.same, Ec2.ext_iff, and_assoc]

theorem Extras.kind_of_same {x y : Extras} (h : x.same y = true) : x.kind = y.kind := by
  cases x <;> cases y <;> first | rfl | cases h

/-- Options whose metadata have every key once equal each other just if they are of one kind and
agree in every field. -/
theorem beq_iff_agrees (ha : a.common.userMetadata.keys.Nodup)
    (hb : b.common.userMetadata.keys.Nodup) : (a == b) = true ↔ a.Agrees b := by
  have hmetadata := sameMetadata_iff ha hb
  obtain ⟨c, x, frozen⟩ := a
  obtain ⟨d, y, frozen'⟩ := b
  constructor
  · intro h
    obtain ⟨hextras, hcommon⟩ := Bool.and_eq_true_iff.mp h
    simp only [Common.same, Bool.and_eq_true, beq_iff_eq, hmetadata] at hcommon
    obtain ⟨⟨⟨⟨⟨⟨⟨⟨⟨_, _⟩, _⟩, _⟩, _⟩, _⟩, _⟩, _⟩, _⟩, _⟩ := hcommon
    refine ⟨Extras.kind_of_same hextras, fun f u v hu hv ↦ ?_⟩
    cases x <;> cases y <;>
      simp only [Extras.same, Ec2.same_iff, Aws.same, Bool.and_eq_true, beq_iff_eq,
        Bool.false_eq_true] at hextras
    case base.base => cases f <;> cases hu <;> cases hv <;> assumption
    case softLayer.softLayer => cases f <;> cases hu <;> cases hv <;> assumption
    case ec2.ec2 =>
      cases hextras
      cases f <;> cases hu <;> cases hv <;> first | assumption | exact rfl
    case awsEc2.awsEc2 =>
      obtain ⟨rfl, ⟨⟨_, _⟩, _⟩, _⟩ := hextras
      cases f <;> cases hu <;> cases hv <;> first | assumption | exact rfl
  · rintro ⟨hkind, hget⟩
    have hcommon : c.same d = true := by
      simp only [Common.same, Bool.and_eq_true, beq_iff_eq, hmetadata]
      exact ⟨⟨⟨⟨⟨⟨⟨⟨⟨hget .inboundPorts _ _ rfl rfl, hget .port _ _ rfl rfl⟩,
        hget .seconds _ _ rfl rfl⟩, hget .runScript _ _ rfl rfl⟩, hget .privateKey _ _ rfl rfl⟩,
        hget .publicKey _ _ rfl rfl⟩, hget .loginUser _ _ rfl rfl⟩,
        hget .loginPrivateKey _ _ rfl rfl⟩, hget .userMetadata _ _ rfl rfl⟩,
        hget .includeMetadata _ _ rfl rfl⟩
    have hextras : x.same y = true := by
      cases x <;> cases y <;> cases hkind
      case base => rfl
      case softLayer => exact beq_iff_eq.mpr (hget .domainName _ _ rfl rfl)
      case ec2 =>
        exact Ec2.same_iff.mpr (Ec2.ext (hget .securityGroups _ _ rfl rfl)
          (hget .keyPair _ _ rfl rfl) (hget .noKeyPair _ _ rfl rfl) (hget .userData _ _ rfl rfl))
      case awsEc2 =>
        have hec2 := Ec2.ext (hget .securityGroups _ _ rfl rfl) (hget .keyPair _ _ rfl rfl)
          (hget .noKeyPair _ _ rfl rfl) (hget .userData _ _ rfl rfl)
        simp only [Extras.same, Ec2.same_iff, Aws.same, Bool.and_eq_true, beq_iff_eq]
        exact ⟨hec2, ⟨⟨hget .monitoringEnabled _ _ rfl rfl, hget .securityGroupIds _ _ rfl rfl⟩,
          hget .spotPrice _ _ rfl rfl⟩, hget .subnetId _ _ rfl rfl⟩
    exact Bool.and_eq_true_iff.mpr ⟨hextras, hcommon⟩

namespace Agrees

/-- Where options of one kind have a field, both have it. -/
theorem exists_get? (h : a.Agrees b) {f : Field} {x : f.Content} (hx : a.get? f = some x) :
    ∃ y, b.get? f = some y ∧ f.Agrees x y := by
  have hsome : (b.get? f).isSome = true := by
    rw [isSome_get?, ← h.kind, ← isSome_get?, hx]
    rfl
  obtain ⟨y, hy⟩ := Option.isSome_iff_exists.mp hsome
  exact ⟨y, hy, h.get? f x y hx hy⟩

theorem refl (a : Options) : a.Agrees a :=
  ⟨rfl, fun f x _ hx hy ↦ Option.some.inj (hx.symm.trans hy) ▸ Field.Agrees.refl f x⟩

theorem symm (ha : a.Comparable) (h : a.Agrees b) : b.Agrees a :=
  ⟨h.kind.symm, fun f x y hx hy ↦ (h.get? f y x hy hx).symm (ha f y hy)⟩

theorem trans (ha : a.Comparable) (hb : b.Comparable) (hab : a.Agrees b) (hbc : b.Agrees c) :
    a.Agrees c := by
  refine ⟨hab.kind.trans hbc.kind, fun f x z hx hz ↦ ?_⟩
  obtain ⟨y, hy, hxy⟩ := hab.exists_get? hx
  exact hxy.trans (ha f x hx) (hb f y hy) (hbc.get? f y z hy hz)

end Agrees

theorem Comparable.nodup_keys (h : a.Comparable) : a.common.userMetadata.keys.Nodup :=
  h .userMetadata _ rfl

theorem Comparable.beq_iff (ha : a.Comparable) (hb : b.Comparable) :
    (a == b) = true ↔ a.Agrees b :=
  beq_iff_agrees ha.nodup_keys hb.nodup_keys

/-- A comparison comes out the same for options that agree with those compared. -/
theorem beq_congr (ha : a.Comparable) (hb : b.Comparable) (hc : c.Comparable) (hd : d.Comparable)
    (hab : a.Agrees b) (hcd : c.Agrees d) : (a == c) = (b == d) := by
  rw [Bool.eq_iff_iff, ha.beq_iff hc, hb.beq_iff hd]
  constructor
  · exact fun h ↦ ((hab.symm ha).trans hb ha h).trans hb hc hcd
  · exact fun h ↦ (hab.trans ha hb h).trans ha hd (hcd.symm hc)

/-- Equality is an equivalence of the options whose fields hold what can be compared. -/
theorem equivalence_beq : Equivalence fun a b : { o : Options // o.Comparable } ↦
    (a.val == b.val) = true where
  refl a := (a.2.beq_iff a.2).mpr (.refl a.val)
  symm {a b} h := (b.2.beq_iff a.2).mpr (((a.2.beq_iff b.2).mp h).symm a.2)
  trans {a b c} hab hbc :=
    (a.2.beq_iff c.2).mpr (((a.2.beq_iff b.2).mp hab).trans a.2 b.2 ((b.2.beq_iff c.2).mp hbc))

end Options
end Provisioning
