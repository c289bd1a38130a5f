import Provisioning.Proofs.Options.Acceptance
import Provisioning.Proofs.Options.Forms
import Provisioning.Proofs.Text.Quoted

/-!
What the errors about private keys give away. The error about a text that is not PEM encoded does
not depend on the text, whether it was given as such or in a payload. The check that comes before,
which other texts have to pass as well, writes out what is no text, so that the error about a key
that was given as a byte string gives away all of it.
-/

set_option autoImplicit false

namespace Provisioning.Options

/-- Two keys of one type; texts and payloads are not empty. -/
inductive SameType : Value → Value → Prop
  | texts {s t : String} (hs : s ≠ "") (ht : t ≠ "") : SameType (.text s) (.text t)
  | bytes (data data' : Bytes) : SameType (.bytes data) (.bytes data')
  | buffers (data data' : Bytes) : SameType (.buffer data) (.buffer data')
  | payloads {p q : Payload} (hp : p.data ≠ []) (hq : q.data ≠ []) :
    SameType p.toValue q.toValue

section Checks

variable {name : String} {e : Error}

theorem checkPrivateKey_text_eq_error {s : String} (hs : s ≠ "")
    (h : (checkPrivateKey name (.text s)).result = .error e) : e = .argument (.notPem name) := by
  rw [checkPrivateKey, checkKey_text hs, Outcome.bind_eq, Outcome.ok_andThen] at h
  split at h
  · cases h
  · exact (Except.error.inj h).symm

theorem checkPrivateKey_payload_eq_error {p : Payload} (hp : p.data ≠ [])
    (h : (checkPrivateKey name p.toValue).result = .error e) (hargument : e.IsArgument) :
    e = .argument (.notPem name) := by
  cases htext : p.text with
  | error e' =>
    rw [checkPrivateKey_fault name htext] at h
    cases h
    obtain ⟨fault, rfl⟩ := Payload.exists_undecodable htext
    exact absurd hargument Bool.false_ne_true
  | ok s =>
    rw [checkPrivateKey_payload name htext, Outcome.result_andThen] at h
    refine checkPrivateKey_text_eq_error ?_ h
    rintro rfl
    exact hp (Payload.text_eq_ok_iff.mp htext)

end Checks

section Messages

variable {name : String} {data data' : Bytes}

theorem message_notText_eq_iff {v w : Value} :
    (Error.argument (.notText name v)).message = (Error.argument (.notText name w)).message ↔
      v.written = w.written :=
  String.append_right_inj _

theorem written_bytes_eq_iff : (Value.bytes data).written = (Value.bytes data').written ↔
    data = data' :=
  (Text.quoteBytes_injective false).eq_iff

theorem written_buffer_eq_iff : (Value.buffer data).written = (Value.buffer data').written ↔
    data = data' := by
  have hwritten (data : Bytes) : (Value.buffer data).written =
      "bytearray(" ++ Text.quoteBytes data true ++ ")" := rfl
  rw [hwritten, hwritten, String.append_left_inj, String.append_right_inj]
  exact (Text.quoteBytes_injective true).eq_iff

end Messages

section Calls

variable [Domain.SuffixList] {o : Options} {s : Setter} {name : String} {a b : Arguments Value}
  {mark : Nat} {v w : Value} {e e' : Error}

/-- A private key is blamed by its check. -/
theorem TakesKey.checkPrivateKey_eq_error (hs : TakesKey s "private_key" name)
    (ha : a.only? "private_key" = some v) (he : (invoke s.label a mark).result o = .error e)
    (hargument : e.IsArgument) : (checkPrivateKey name v).result = .error e := by
  obtain ⟨key, check, change, hcheck, hmutation, hkey⟩ := hs.exists_check
  rcases hcheck with ⟨hpublic, -⟩ | rfl
  · exact absurd hpublic (by decide)
  · have hm : s.mutation? a mark = some (key v) := by rw [hmutation, ha, Option.map_some]
    have h := check_eq_error_of_isArgument (hs.owner _) hm he hargument
    rw [hkey, Outcome.result_andThen] at h
    cases hresult : (checkPrivateKey name v).result with
    | error e' =>
      rw [hresult] at h
      exact congrArg _ (Except.error.inj h)
    | ok text =>
      rw [hresult] at h
      cases h

/-- Two private keys of one type are refused in the same words, unless they are byte strings: then
the words are those of one byte string only. -/
theorem message_eq_iff (mark : Nat) (hs : TakesKey s "private_key" name) (htype : SameType v w)
    (ha : a.only? "private_key" = some v) (hb : b.only? "private_key" = some w)
    (he : (invoke s.label a mark).result o = .error e)
    (he' : (invoke s.label b mark).result o = .error e') (hargument : e.IsArgument)
    (hargument' : e'.IsArgument) : e.message = e'.message ↔ v.octets? = w.octets? := by
  have hv := hs.checkPrivateKey_eq_error ha he hargument
  have hw := hs.checkPrivateKey_eq_error hb he' hargument'
  cases htype with
  | texts hs ht =>
    rw [checkPrivateKey_text_eq_error hs hv, checkPrivateKey_text_eq_error ht hw]
    exact iff_of_true rfl rfl
  | payloads hp hq =>
    rw [checkPrivateKey_payload_eq_error hp hv hargument,
      checkPrivateKey_payload_eq_error hq hw hargument']
    exact iff_of_true rfl rfl
  | bytes data data' =>
    have he : e = .argument (.notText name (.bytes data)) := (Except.error.inj hv).symm
    have he' : e' = .argument (.notText name (.bytes data')) := (Except.error.inj hw).symm
    rw [he, he', message_notText_eq_iff, written_bytes_eq_iff]
    exact Option.some_inj.symm
  | buffers data data' =>
    have he : e = .argument (.notText name (.buffer data)) := (Except.error.inj hv).symm
    have he' : e' = .argument (.notText name (.buffer data')) := (Except.error.inj hw).symm
    rw [he, he', message_notText_eq_iff, written_buffer_eq_iff]
    exact Option.some_inj.symm

end Calls

/-- Two texts on frozen options, neither of them PEM encoded, and two byte strings. -/
theorem message_eq_iff_refused :
    (∃ e e', (invoke "override_login_private_key" ⟨[.text "ab"], []⟩).result (fresh .ec2).freeze =
        .error e ∧
      (invoke "override_login_private_key" ⟨[.text "ac"], []⟩).result (fresh .ec2).freeze =
        .error e' ∧ e.message = e'.message) ∧
      ∃ e e', (invoke "install_private_key" ⟨[.bytes [97]], []⟩).result (fresh .base) = .error e ∧
        (invoke "install_private_key" ⟨[.bytes [98]], []⟩).result (fresh .base) = .error e' ∧
          e.message ≠ e'.message := by
  have htext (key : String) : (⟨[.text key], []⟩ : Arguments Value).only? "private_key" =
      some (.text key) := rfl
  have hbytes (data : Bytes) : (⟨[.bytes data], []⟩ : Arguments Value).only? "private_key" =
      some (.bytes data) := rfl
  refine ⟨⟨.argument (.notPem "login_private_key"), _, rfl, rfl, ?_⟩,
    .argument (.notText "private_key" (.bytes [97])),
    .argument (.notText "private_key" (.bytes [98])), rfl, rfl, fun h ↦ ?_⟩
  · exact (message_eq_iff (o := (fresh .ec2).freeze) 0 .overrideLoginPrivateKey
      (.texts (by decide) (by decide)) (htext "ab") (htext "ac") rfl rfl rfl rfl).mpr rfl
  · have hsame := (message_eq_iff (o := fresh .base) 0 .installPrivateKey (.bytes _ _)
      (hbytes [97]) (hbytes [98]) rfl rfl rfl rfl).mp h
    exact absurd hsame (by decide)

/-- Two byte strings of one length that are told apart by the errors about them. -/
theorem messages_of_byteStrings :
    ∃ e e', (invoke "install_private_key" ⟨[.bytes [97, 98]], []⟩).result (fresh .base) =
        .error e ∧
      (invoke "install_private_key" ⟨[.bytes [97, 99]], []⟩).result (fresh .base) = .error e' ∧
        e.IsArgument ∧ e'.IsArgument ∧
          e.message = "private_key must be a non-empty string, got b'ab'" ∧
          e'.message = "private_key must be a non-empty string, got b'ac'" :=
  ⟨_, _, rfl, rfl, rfl, rfl, by decide +kernel, by decide +kernel⟩

end Provisioning.Options
