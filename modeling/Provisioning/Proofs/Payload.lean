import Provisioning.Proofs.Options.Forms
import Provisioning.Proofs.Text.Malformed

/-!
Payloads as texts. A text that is made a payload and read again is the same text; bytes that are
read as a text and written again are the same bytes; and the bytes that are not read are those that
are malformed. So texts and the byte strings that can be read stand for each other one by one
(`text_inverse`).
-/

set_option autoImplicit false

namespace Provisioning.Payload

open Text.Utf8 (Begins Continues Form Malformed)

variable {s : String} {p : Payload}

theorem text_ofText (s : String) (contentType : Value) : (ofText s contentType).text = .ok s :=
  text_eq_ok_iff.mpr rfl

/-- A payload that is read as a text is the one that is made of the text. -/
theorem ofText_of_text (h : p.text = .ok s) : ofText s p.contentType = p := by
  rw [ofText, ← text_eq_ok_iff.mp h]

/-- The bytes of a payload that is no text are malformed. -/
theorem exists_fault_iff : (∃ fault, p.text = .error (.undecodable (.utf8 fault))) ↔
    Malformed p.data := by
  rw [Text.Utf8.malformed_iff]
  constructor
  · rintro ⟨fault, hfault⟩ s hs
    rw [text_eq_ok_iff.mpr hs] at hfault
    cases hfault
  · intro h
    cases hdecode : Text.Utf8.decode p.data with
    | error fault => exact ⟨fault, by rw [text_eq, Text.Encoding.decode, hdecode]; rfl⟩
    | ok s => exact absurd (Text.Utf8.decode_eq_ok_iff.mp hdecode) (h s)

/-- A payload that is not malformed is a text. -/
theorem exists_text_iff : (∃ s, p.text = .ok s) ↔ ¬Malformed p.data := by
  rw [Text.Utf8.malformed_iff]
  simp only [text_eq_ok_iff, not_forall, not_not]

theorem ofValue_of_octets {v : Value} {b : Bytes} (h : v.octets? = some b) (contentType : Value) :
    ofValue v contentType = .ok ⟨b, contentType⟩ := by
  cases v <;> cases h <;> rfl

/-- The payload of a text is read as that text, and its bytes are those of the string. A payload of
bytes of any kind is either read as a text, of which it is the payload, or malformed, and then fault
is found with it. So texts and the byte strings that are read as texts stand for each other one by
one. -/
theorem text_inverse (contentType : Value) :
    (∀ s : String, (ofText s contentType).text = .ok s ∧
        (ofText s contentType).data.toByteArray = s.toUTF8 ∧
          (ofText s contentType).size = s.utf8ByteSize) ∧
      (∀ v b, Value.octets? v = some b → ∃ p, ofValue v contentType = .ok p ∧ p.data = b ∧
        ((∃ s, p.text = .ok s ∧ ofValue (.text s) contentType = .ok p) ∧ ¬Malformed b ∨
          (∃ fault, p.text = .error (.undecodable (.utf8 fault))) ∧ Malformed b)) ∧
        Set.BijOn (fun s ↦ (ofText s contentType).data) Set.univ
          {b | ∃ s, (⟨b, contentType⟩ : Payload).text = .ok s} := by
  refine ⟨fun s ↦ ⟨text_ofText s contentType, Text.Utf8.toByteArray_encode s,
    Text.Utf8.length_encode s⟩, fun v b hb ↦ ⟨⟨b, contentType⟩, ?_, rfl, ?_⟩, ?_, ?_, ?_⟩
  · exact ofValue_of_octets hb contentType
  · by_cases hmalformed : Malformed b
    · exact .inr ⟨exists_fault_iff.mpr hmalformed, hmalformed⟩
    · obtain ⟨s, hs⟩ := exists_text_iff (p := ⟨b, contentType⟩).mpr hmalformed
      exact .inl ⟨⟨s, hs, congrArg Except.ok (ofText_of_text hs)⟩, hmalformed⟩
  · exact fun s _ ↦ ⟨s, text_ofText s contentType⟩
  · intro s _ t _ h
    have ht : (ofText s contentType).text = .ok t := text_eq_ok_iff.mpr h
    exact Except.ok.inj ((text_ofText s contentType).symm.trans ht)
  · rintro b ⟨s, hs⟩
    exact ⟨s, trivial, (text_eq_ok_iff.mp hs).symm⟩

/-- Characters of one to four bytes, a surrogate behind a letter, and a zero byte in two. -/
theorem text_inverse_surrogate :
    (ofText "aé€𐍈" octetStream).size = 10 ∧
      (∃ p fault, ofValue (.view [0x61, 0xED, 0xA0, 0x80]) = .ok p ∧
        p.text = .error (.undecodable (.utf8 fault))) ∧
        ∃ p fault, ofValue (.buffer [0xC0, 0x80]) = .ok p ∧
          p.text = .error (.undecodable (.utf8 fault)) := by
  have hsurrogate : Malformed [0x61, 0xED, 0xA0, 0x80] := by
    have hform : Form 0xD800 [0xED, 0xA0, 0x80] :=
      ⟨0xED, [0xA0, 0x80], 0xD, rfl, by simp [Begins], by simp [Continues], by decide⟩
    exact .surrogate [0x61] [] hform ⟨by decide, by decide⟩
  have hoverlong : Malformed [0xC0, 0x80] := by
    have hform : Form 0 [0xC0, 0x80] :=
      ⟨0xC0, [0x80], 0, rfl, by simp [Begins], by simp [Continues], by decide⟩
    have hshorter : Form 0 [0] :=
      ⟨0, [], 0, rfl, by simp [Begins], List.forall_mem_nil _, by decide⟩
    exact .overlong [] [] hform hshorter (by decide)
  obtain ⟨hwritten, hread, -⟩ := text_inverse octetStream
  obtain ⟨p, hp, -, hrefused⟩ := hread (.view [0x61, 0xED, 0xA0, 0x80]) _ rfl
  obtain ⟨q, hq, -, hrefused'⟩ := hread (.buffer [0xC0, 0x80]) _ rfl
  obtain ⟨⟨fault, hfault⟩, -⟩ := hrefused.resolve_left fun h ↦ h.2 hsurrogate
  obtain ⟨⟨fault', hfault'⟩, -⟩ := hrefused'.resolve_left fun h ↦ h.2 hoverlong
  exact ⟨(hwritten "aé€𐍈").2.2.trans (by decide), ⟨p, fault, hp, hfault⟩, q, fault', hq, hfault'⟩

end Provisioning.Payload
