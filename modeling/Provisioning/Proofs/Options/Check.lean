import Provisioning.Options.Mutation
import Provisioning.Proofs.Decimal

/-!
What a value is known to be once a check has let it through.
-/

set_option autoImplicit false

namespace Provisioning.Options

variable {name : String} {value : Value}

theorem le_maxPort_of_checkPort {p : Nat} (h : checkPort name value = .ok p) : p ≤ maxPort := by
  cases value with
  | int n =>
    simp only [checkPort] at h
    split at h
    · next hn =>
      cases h
      omega
    · cases h
  | _ => cases h

theorem ne_empty_of_checkText {s : String} (h : checkText name value = .ok s) : s ≠ "" := by
  cases value with
  | text t =>
    simp only [checkText] at h
    split at h
    · cases h
    · next ht =>
      cases h
      simpa using ht
  | _ => cases h

theorem ne_empty_of_checkKey {s : String} (h : (checkKey name value).result = .ok s) : s ≠ "" := by
  cases value with
  | payload data contentType =>
    simp only [checkKey, Outcome.result_bind_eq_ok_iff] at h
    obtain ⟨_, _, t, _, ht⟩ := h
    rw [Outcome.liftM_eq, Outcome.result_lift] at ht
    exact ne_empty_of_checkText ht
  | _ =>
    rw [checkKey, Outcome.liftM_eq, Outcome.result_lift] at h
    · exact ne_empty_of_checkText h
    · rintro _ _ ⟨⟩

theorem isPem_of_checkPrivateKey {s : String} (h : (checkPrivateKey name value).result = .ok s) :
    isPem s = true := by
  simp only [checkPrivateKey, Outcome.result_bind_eq_ok_iff] at h
  obtain ⟨t, _, ht⟩ := h
  split at ht
  · next hpem =>
    cases ht
    exact hpem
  · cases ht

theorem size_pos_of_checkScript {script : Payload} (h : (checkScript value).result = .ok script) :
    0 < script.size := by
  simp only [checkScript, Outcome.result_bind_eq_ok_iff] at h
  obtain ⟨payload, _, h⟩ := h
  split at h
  · cases h
  · next hsize =>
    cases h
    exact Nat.pos_of_ne_zero hsize

/-- A script is the payload that was handed over, or the content type of it is a text. -/
theorem checkScript_cases {script : Payload} (h : (checkScript value).result = .ok script) :
    value = script.toValue ∨ ∃ s, script.contentType = .text s := by
  simp only [checkScript, Outcome.result_bind_eq_ok_iff] at h
  obtain ⟨payload, hpayload, h⟩ := h
  split at h
  · cases h
  cases h
  cases value with
  | text s | bytes data | buffer data =>
    cases hpayload
    exact .inr ⟨_, rfl⟩
  | payload data contentType =>
    cases hpayload
    exact .inl rfl
  | _ => cases hpayload

theorem ne_empty_of_checkEntry {key : Value} {e : String × String}
    (h : checkEntry key value = .ok e) : e.1 ≠ "" := by
  obtain ⟨k, hk, h⟩ := bind_eq_ok_iff.mp h
  obtain ⟨v, _, h⟩ := bind_eq_ok_iff.mp h
  cases h
  exact ne_empty_of_checkText hk

theorem length_le_of_checkUserData {data : Bytes} (h : checkUserData value = .ok data) :
    data.length ≤ maxUserData := by
  obtain ⟨bytes, _, h⟩ := bind_eq_ok_iff.mp h
  split at h
  · cases h
  · next hlength =>
    cases h
    omega

/-- The amount of an offer that passes its check is above zero, unless a double that is not a number
was offered. -/
theorem amount_of_checkPrice {offer : Offer} {amount : Float} (h : checkPrice value = .ok offer)
    (hamount : offer.amount = .ok amount) :
    0 < amount ∨ (amount.isNaN = true ∧ value = .float amount) := by
  cases value with
  | int n =>
    simp only [checkPrice] at h
    split at h
    · cases h
    · next hn =>
      cases h
      simp only [Offer.amount] at hamount
      split at hamount
      · next hnearest =>
        cases hamount
        exact .inl (Decimal.pos_of_ofInt? (Int.not_le.mp hn) hnearest)
      · cases hamount
  | float x =>
    simp only [checkPrice] at h
    split at h
    · cases h
    · next hx =>
      cases h
      cases hamount
      exact (Decimal.not_le_zero_iff.mp hx).imp_right fun hnan ↦ ⟨hnan, rfl⟩
  | _ => cases h

theorem not_amount_le_zero_of_checkPrice {offer : Offer} {amount : Float}
    (h : checkPrice value = .ok offer) (hamount : offer.amount = .ok amount) : ¬amount ≤ 0 :=
  Decimal.not_le_zero_iff.mpr ((amount_of_checkPrice h hamount).imp_right And.left)

theorem checkPorts_spec {ports : List Value} {ps : List Nat} (h : checkPorts ports = .ok ps) :
    ps.Nodup ∧ ∀ p ∈ ps, p ≤ maxPort := by
  obtain ⟨qs, hqs, h⟩ := bind_eq_ok_iff.mp h
  cases h
  refine ⟨nodup_distinct qs, fun p hp ↦ ?_⟩
  obtain ⟨v, _, hv⟩ := exists_of_mem_of_mapM_eq_ok hqs (mem_distinct.mp hp)
  exact le_maxPort_of_checkPort hv

theorem checkNames_spec {names : List Value} {xs : List String}
    (h : checkNames name names = .ok xs) : xs.Nodup ∧ ∀ x ∈ xs, x ≠ "" := by
  simp only [checkNames] at h
  split at h
  · cases h
  · obtain ⟨ys, hys, h⟩ := bind_eq_ok_iff.mp h
    cases h
    refine ⟨nodup_distinct ys, fun x hx ↦ ?_⟩
    obtain ⟨v, _, hv⟩ := exists_of_mem_of_mapM_eq_ok hys (mem_distinct.mp hx)
    exact ne_empty_of_checkText hv

/-- Metadata comes as a table that replaces all entries or as one entry to add. -/
theorem checkUserMetadata_cases {key : Value} {c : Change}
    (h : checkUserMetadata key value = .ok c) :
    (∃ t, c = .metadata t ∧ t.keys.Nodup ∧ ∀ k ∈ t.keys, k ≠ "") ∨
      ∃ k v, c = .metadataEntry k v ∧ k ≠ "" := by
  have hentry {key value : Value} {c : Change}
      (h : (checkEntry key value >>= fun e ↦ .ok (.metadataEntry e.1 e.2)) = Except.ok c) :
      ∃ k v, c = .metadataEntry k v ∧ k ≠ "" := by
    obtain ⟨e, he, h⟩ := bind_eq_ok_iff.mp h
    cases h
    exact ⟨e.1, e.2, rfl, ne_empty_of_checkEntry he⟩
  cases key with
  | dict entries =>
    cases value with
    | null =>
      obtain ⟨checked, hchecked, h⟩ := bind_eq_ok_iff.mp h
      cases h
      refine .inl ⟨_, rfl, Table.nodup_keys_ofList checked, fun k hk ↦ ?_⟩
      obtain ⟨e, he, rfl⟩ := Table.mem_keys_ofList hk
      obtain ⟨raw, _, hraw⟩ := exists_of_mem_of_mapM_eq_ok hchecked he
      exact ne_empty_of_checkEntry hraw
    | _ => cases h
  | _ => exact .inr (hentry h)

section Domains

variable [Domain.SuffixList]

theorem hasPublicSuffix_of_checkDomain {s : String} (h : checkDomain value = .ok s) :
    Domain.hasPublicSuffix s = true := by
  cases value with
  | text t =>
    simp only [checkDomain] at h
    split at h
    · next hsuffix =>
      cases h
      exact hsuffix
    · cases h
  | _ => cases h

/-- A domain that ends in a public suffix passes its check. -/
theorem checkDomain_eq_ok {s : String} (h : Domain.hasPublicSuffix s = true) :
    checkDomain (.text s) = .ok s := by
  simp only [checkDomain, if_pos h]

end Domains

theorem checkNoConflict_spec {conflict : Bool} {c d : Change}
    (h : checkNoConflict conflict c = .ok d) : conflict = false ∧ d = c := by
  cases conflict with
  | true => cases h
  | false =>
    cases h
    exact ⟨rfl, rfl⟩

end Provisioning.Options
