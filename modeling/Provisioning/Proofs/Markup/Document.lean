import Provisioning.Markup.Document
import Provisioning.Outcome
import Provisioning.Proofs.Value.MergeLaws

/-!
What a document can hold. Keys are checked one by one as the dictionary of a node is made, so a
dictionary that is read has distinct keys, of which none can change.
-/

set_option autoImplicit false

namespace Provisioning.Markup

open Value (HasDistinctKeys IsKey)

theorem Entries.exists_of_addAll_cons {distinct : Bool} {k v : Value}
    {rest t t' : List (Value × Value)} (h : addAll distinct ((k, v) :: rest) t = .ok t') :
    ∃ key, IsKey key ∧ addAll distinct rest (Table.put t key v) = .ok t' := by
  rw [addAll] at h
  obtain ⟨key, -, h⟩ := bind_eq_ok_iff.mp h
  cases hkind : key.unhashable? with
  | some kindName =>
    rw [hkind] at h
    cases h
  | none =>
    rw [hkind] at h
    cases hagain : distinct && Table.has t key with
    | true =>
      rw [hagain] at h
      cases h
    | false =>
      rw [hagain] at h
      exact ⟨key, hkind, h⟩

theorem Entries.hasDistinctKeys_of_addAll {distinct : Bool} {es t t' : List (Value × Value)}
    (ht : HasDistinctKeys t) (h : addAll distinct es t = .ok t') : HasDistinctKeys t' := by
  induction es generalizing t with
  | nil =>
    cases h
    exact ht
  | cons e rest ih =>
    obtain ⟨key, hkey, h⟩ := exists_of_addAll_cons h
    exact ih (ht.put hkey e.2) h

/-- No scalar stands for a dictionary. -/
theorem Scalar.value_ne_dict (kind : Kind) (s : String) (es : List (Value × Value)) :
    value kind s ≠ .ok (.dict es) := by
  intro h
  have hmap {α : Type} {f : α → Value} {r : Except Fault α} (hf : ∀ a, f a ≠ .dict es) :
      r.map f ≠ .ok (.dict es) := by
    cases r with
    | error fault => exact nofun
    | ok a => exact fun h ↦ hf a (Except.ok.inj h)
  cases kind with
  | flag | whole | fraction | date => exact hmap nofun h
  | _ => cases h

theorem hasDistinctKeys_of_read {text : String} {es : List (Value × Value)}
    (h : read text = .ok (.dict es)) : HasDistinctKeys es := by
  rw [read] at h
  split at h
  · cases h
  · cases h
  · next n _ =>
    cases n with
    | scalar kind s =>
      rw [Node.value] at h
      exact absurd h (Scalar.value_ne_dict kind s es)
    | list kind items =>
      rw [Node.value] at h
      split at h
      · cases h
      · obtain ⟨vs, -, h⟩ := bind_eq_ok_iff.mp h
        cases h
    | dict kind nodes =>
      rw [Node.value] at h
      split at h
      · cases h
      · obtain ⟨e, -, h⟩ := bind_eq_ok_iff.mp h
        obtain ⟨t, ht, h⟩ := bind_eq_ok_iff.mp h
        cases h
        exact Entries.hasDistinctKeys_of_addAll ⟨by simp [Table.keys], .nil⟩ ht

/-- The decoder gives a dictionary each of its keys once. -/
class LawfulDecoder [Decoder] : Prop where
  hasDistinctKeys {text : String} {es : List (Value × Value)}
    (h : Decoder.decode text = .ok (.dict es)) : HasDistinctKeys es

instance lawful : LawfulDecoder where
  hasDistinctKeys h := hasDistinctKeys_of_read (mapError_eq_ok_iff.mp h)

end Provisioning.Markup
