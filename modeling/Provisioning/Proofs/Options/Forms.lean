import Provisioning.Proofs.Options.Refusal
import Provisioning.Proofs.Text.Utf8

/-!
Arguments that may be given in an older form: a key as a payload, and a script as plain bytes. A
call with the older form does what the call with the newer one does, whether it succeeds or not, and
gives one warning before. The newer forms give none, and a script that is a text is the payload of it.
-/

set_option autoImplicit false

namespace Provisioning

/-- The text of a payload is the one of which it holds the bytes. -/
theorem Payload.text_eq_ok_iff {p : Payload} {s : String} :
    p.text = .ok s ↔ p.data = Text.Utf8.encode s := by
  rw [Payload.text_eq, mapError_eq_ok_iff, Text.Encoding.decode, mapError_eq_ok_iff,
    Text.Utf8.decode_eq_ok_iff]

/-- Fault is found with bytes that are not those of a text. -/
theorem Payload.exists_fault {p : Payload} (h : ∀ s, p.data ≠ Text.Utf8.encode s) :
    ∃ fault, p.text = .error (.undecodable fault) := by
  cases htext : p.text with
  | error e =>
    obtain ⟨fault, rfl⟩ := Payload.exists_undecodable htext
    exact ⟨fault, rfl⟩
  | ok s => exact absurd (Payload.text_eq_ok_iff.mp htext) (h s)

namespace Options

open Provisioning.Action (warned Quiet)

/-! ### Checks -/

section Checks

variable (name : String) {p : Payload} {text : String}

theorem checkKey_payload (h : p.text = .ok text) : checkKey name p.toValue =
    (Outcome.warn (.keyAsPayload name)).andThen fun _ ↦ checkKey name (.text text) := by
  rw [checkKey_eq, h]
  rfl

theorem checkPrivateKey_payload (h : p.text = .ok text) : checkPrivateKey name p.toValue =
    (Outcome.warn (.keyAsPayload name)).andThen fun _ ↦ checkPrivateKey name (.text text) := by
  rw [checkPrivateKey, checkKey_payload name h]
  exact Outcome.andThen_assoc _ _ _

theorem warnings_checkKey : (checkKey name (.text text)).warnings = [] := rfl

theorem warnings_checkPrivateKey : (checkPrivateKey name (.text text)).warnings = [] := by
  refine Outcome.warnings_andThen_eq_nil (warnings_checkKey name) fun text ↦ ?_
  split <;> rfl

theorem checkScript_bytes {v : Value} {data : Bytes} (h : v = .bytes data ∨ v = .buffer data) :
    checkScript v = (Outcome.warn .rawScript).andThen fun _ ↦
      checkScript (⟨data, Payload.octetStream⟩ : Payload).toValue := by
  rcases h with rfl | rfl <;> rfl

theorem checkScript_text (text : String) :
    checkScript (.text text) = checkScript (Payload.ofText text Payload.shellScript).toValue := rfl

theorem warnings_checkScript (p : Payload) : (checkScript p.toValue).warnings = [] := by
  refine Outcome.warnings_andThen_eq_nil (o := .ok p) rfl fun script ↦ ?_
  split <;> rfl

end Checks

/-! ### Calls -/

theorem Change.quiet_write (c : Change) : c.write.Quiet := by
  cases c with
  | block b => exact (Action.quiet_write _).bind fun _ ↦ Action.quiet_write _
  | metadataEntry key value => exact Action.quiet_state_bind fun _ ↦ Action.quiet_write _
  | spotPrice offer mark => exact (Action.quiet_ofOutcome rfl).bind fun _ ↦ Action.quiet_write _
  | _ => exact Action.quiet_write _

/-- What a call does once its arguments have been checked. -/
def carryOut (o : Options) (c : Change) : Action Options Answer := do
  o.checkMutable
  c.write
  return .itself

theorem quiet_carryOut (o : Options) (c : Change) : (o.carryOut c).Quiet :=
  (Action.quiet_ofOutcome rfl).bind fun _ ↦ c.quiet_write.bind fun _ ↦ Action.quiet_ofOutcome rfl

section Calls

variable [Domain.SuffixList] {m m' : Mutation} {s : Setter} {a b : Arguments Value} {mark : Nat}
  {o : Options} {w : Warning}

/-- A call of a setter is the check of its arguments and what follows it. -/
theorem run_invoke (howner : o.kind.extends? s.owner = true) (hm : s.mutation? a mark = some m) :
    (invoke s.label a mark).run o = (Action.ofOutcome (m.check o) >>= o.carryOut).run o := by
  have hkind : o.kind.extends? m.setter.owner = true := Setter.setter_of_mutation? hm ▸ howner
  have hperform : m.perform.run o = (Action.ofOutcome (m.check o) >>= fun c ↦
      Action.ofOutcome (Outcome.lift o.checkMutable) >>= fun _ ↦ c.write).run o := by
    rw [Mutation.perform, Action.run_state_bind, if_pos hkind]
    rfl
  rw [invoke, Action.run_state_bind, Member.ofLabel?_label, if_pos howner]
  simp only [Setter.perform, hm]
  rw [Action.run_bind_congr hperform, Action.bind_assoc]
  refine congrArg (fun f ↦ Action.run (Action.ofOutcome (m.check o) >>= f) o) ?_
  exact funext fun c ↦ Action.bind_assoc _ _ _

/-- Of two calls the check of the first gives a warning and goes on like that of the second. -/
theorem run_invoke_warned (howner : o.kind.extends? s.owner = true)
    (hm : s.mutation? a mark = some m) (hm' : s.mutation? b mark = some m')
    (h : m.check o = (Outcome.warn w).andThen fun _ ↦ m'.check o) :
    (invoke s.label a mark).run o = (warned w (invoke s.label b mark)).run o := by
  rw [run_invoke howner hm, h, Action.ofOutcome_warn_andThen, Action.warned_bind, Action.run_warned,
    Action.run_warned, Action.after, Action.result, Action.after, Action.result,
    run_invoke howner hm']

/-- Where the check fails, the call does, and nothing is written. -/
theorem run_invoke_of_check_error {e : Error} (howner : o.kind.extends? s.owner = true)
    (hm : s.mutation? a mark = some m) {warnings : List Warning}
    (h : m.check o = ⟨.error e, warnings⟩) :
    (invoke s.label a mark).run o = (o, ⟨.error e, warnings⟩) := by
  rw [run_invoke howner hm, h]
  rfl

/-- A call gives no warnings but those of its check. -/
theorem warnings_invoke (howner : o.kind.extends? s.owner = true)
    (hm : s.mutation? a mark = some m) (h : (m.check o).warnings = []) :
    ((invoke s.label a mark).run o).2.warnings = [] := by
  rw [run_invoke howner hm, Action.outcome_bind]
  exact Outcome.warnings_andThen_eq_nil h fun c ↦ o.quiet_carryOut c _

end Calls

/-! ### Older and newer forms -/

/-- The setters that take a key, each with its parameter and the name that it calls the key by. -/
inductive TakesKey : Setter → (parameter name : String) → Prop
  | installPrivateKey : TakesKey .installPrivateKey "private_key" "private_key"
  | authorizePublicKey : TakesKey .authorizePublicKey "public_key" "public_key"
  | overrideLoginPrivateKey :
    TakesKey .overrideLoginPrivateKey "private_key" "login_private_key"

/-- The forms of a key in calls of the setter `s` on `o`. -/
structure KeyForms [Domain.SuffixList] (o : Options) (mark : Nat) (s : Setter)
    (parameter name : String) : Prop where
  /-- A payload that holds a text is as good as the text, but for one warning. -/
  ofText : ∀ (p : Payload) (text : String) (a b : Arguments Value),
    p.data = Text.Utf8.encode text → a.only? parameter = some p.toValue →
      b.only? parameter = some (.text text) →
        (invoke s.label a mark).run o = ((invoke s.label b mark).after o,
          ⟨(invoke s.label b mark).result o, [.keyAsPayload name]⟩)
  /-- A payload that holds no text is refused, with the same warning. -/
  ofBytes : ∀ (p : Payload) (a : Arguments Value), (∀ text, p.data ≠ Text.Utf8.encode text) →
    a.only? parameter = some p.toValue → ∃ fault,
      (invoke s.label a mark).run o = (o, ⟨.error (.undecodable fault), [.keyAsPayload name]⟩)
  quiet : ∀ (text : String) (a : Arguments Value), a.only? parameter = some (.text text) →
    ((invoke s.label a mark).run o).2.warnings = []

/-- The forms of a script in calls on `o`. -/
structure ScriptForms [Domain.SuffixList] (o : Options) (mark : Nat) : Prop where
  /-- Bytes are as good as the payload that is made of them, but for one warning. -/
  ofBytes : ∀ (v : Value) (data : Bytes), v = .bytes data ∨ v = .buffer data →
    ∃ p, Payload.ofValue v = .ok p ∧ ∀ a b : Arguments Value, a.only? "script" = some v →
      b.only? "script" = some p.toValue →
        (invoke Setter.runScript.label a mark).run o =
          ((invoke Setter.runScript.label b mark).after o,
            ⟨(invoke Setter.runScript.label b mark).result o, [.rawScript]⟩)
  /-- A text is as good as the payload that is made of it. -/
  ofText : ∀ (text : String) (a b : Arguments Value), a.only? "script" = some (.text text) →
    b.only? "script" = some (Payload.ofText text Payload.shellScript).toValue →
      (invoke Setter.runScript.label a mark).run o = (invoke Setter.runScript.label b mark).run o
  quiet : ∀ (v : Value) (a : Arguments Value),
    (∃ text, v = .text text) ∨ (∃ p : Payload, v = p.toValue) → a.only? "script" = some v →
      ((invoke Setter.runScript.label a mark).run o).2.warnings = []

section Forms

variable {s : Setter} {parameter name : String}

theorem TakesKey.owner (h : TakesKey s parameter name) (k : Kind) :
    k.extends? s.owner = true := by
  cases h <;> cases k <;> rfl

theorem extends?_owner_runScript (k : Kind) : k.extends? Setter.runScript.owner = true := by
  cases k <;> rfl

variable [Domain.SuffixList] {o : Options} {mark : Nat}

/-- A setter that takes a key checks it and goes on with its text. Only public keys need not be PEM
encoded. -/
theorem TakesKey.exists_check (h : TakesKey s parameter name) :
    ∃ (key : Value → Mutation) (check : Value → Outcome String) (change : String → Change),
      (parameter = "public_key" ∧ check = checkKey name ∨ check = checkPrivateKey name) ∧
        (∀ a mark, s.mutation? a mark = (a.only? parameter).map key) ∧
          ∀ v o, (key v).check o = (check v).andThen fun text ↦ .ok (change text) := by
  cases h with
  | installPrivateKey =>
    exact ⟨.installPrivateKey, checkPrivateKey _, .privateKey, .inr rfl, fun _ _ ↦ rfl,
      fun _ _ ↦ rfl⟩
  | authorizePublicKey =>
    exact ⟨.authorizePublicKey, checkKey _, .publicKey, .inl ⟨rfl, rfl⟩, fun _ _ ↦ rfl,
      fun _ _ ↦ rfl⟩
  | overrideLoginPrivateKey =>
    exact ⟨.overrideLoginPrivateKey, checkPrivateKey _, .loginPrivateKey, .inr rfl,
      fun _ _ ↦ rfl, fun _ _ ↦ rfl⟩

theorem TakesKey.forms (h : TakesKey s parameter name) : KeyForms o mark s parameter name := by
  obtain ⟨key, check, change, hcheck, hmutation, hkey⟩ := h.exists_check
  have hfits {a : Arguments Value} {v : Value} (ha : a.only? parameter = some v) :
      s.mutation? a mark = some (key v) := by
    rw [hmutation, ha, Option.map_some]
  have hquiet (text : String) (a : Arguments Value) (ha : a.only? parameter = some (.text text)) :
      ((invoke s.label a mark).run o).2.warnings = [] := by
    refine warnings_invoke (h.owner _) (hfits ha) ?_
    rw [hkey]
    refine Outcome.warnings_andThen_eq_nil ?_ fun _ ↦ rfl
    rcases hcheck with ⟨-, rfl⟩ | rfl
    · exact warnings_checkKey name
    · exact warnings_checkPrivateKey name
  refine ⟨fun p text a b hdata ha hb ↦ ?_, fun p a hdata ha ↦ ?_, hquiet⟩
  · have hpayload : check p.toValue =
        (Outcome.warn (.keyAsPayload name)).andThen fun _ ↦ check (.text text) := by
      rcases hcheck with ⟨-, rfl⟩ | rfl
      · exact checkKey_payload name (Payload.text_eq_ok_iff.mpr hdata)
      · exact checkPrivateKey_payload name (Payload.text_eq_ok_iff.mpr hdata)
    rw [run_invoke_warned (h.owner _) (hfits ha) (hfits hb) (w := .keyAsPayload name),
      Action.run_warned, hquiet text b hb]
    rw [hkey, hkey, hpayload, Outcome.andThen_assoc]
  · obtain ⟨fault, hfault⟩ := Payload.exists_fault hdata
    refine ⟨fault, run_invoke_of_check_error (h.owner _) (hfits ha) ?_⟩
    rw [hkey]
    rcases hcheck with ⟨-, rfl⟩ | rfl
    · rw [checkKey_fault name hfault]
      rfl
    · rw [checkPrivateKey_fault name hfault]
      rfl

theorem scriptForms : ScriptForms o mark := by
  have hfits {a : Arguments Value} {v : Value} (ha : a.only? "script" = some v) :
      Setter.runScript.mutation? a mark = some (.runScript v mark) := by
    rw [Setter.mutation?, ha, Option.map_some]
  have hcheck (v : Value) : (Mutation.runScript v mark).check o =
      (checkScript v).andThen fun script ↦ .ok (.runScript script mark) := rfl
  have hquiet (p : Payload) (a : Arguments Value) (ha : a.only? "script" = some p.toValue) :
      ((invoke Setter.runScript.label a mark).run o).2.warnings = [] :=
    warnings_invoke (extends?_owner_runScript _) (hfits ha)
      (Outcome.warnings_andThen_eq_nil (warnings_checkScript p) fun _ ↦ rfl)
  have htext (text : String) (a b : Arguments Value) (ha : a.only? "script" = some (.text text))
      (hb : b.only? "script" = some (Payload.ofText text Payload.shellScript).toValue) :
      (invoke Setter.runScript.label a mark).run o =
        (invoke Setter.runScript.label b mark).run o := by
    have hrun := run_invoke (extends?_owner_runScript o.kind) (hfits ha)
    rw [hcheck, checkScript_text] at hrun
    exact hrun.trans (run_invoke (extends?_owner_runScript o.kind) (hfits hb)).symm
  refine ⟨fun v data hv ↦ ?_, htext, fun v a hv ha ↦ ?_⟩
  · have hvalue : Payload.ofValue v = .ok ⟨data, Payload.octetStream⟩ := by
      rcases hv with rfl | rfl <;> rfl
    refine ⟨_, hvalue, fun a b ha hb ↦ ?_⟩
    have hrun := run_invoke_warned (extends?_owner_runScript o.kind) (hfits ha) (hfits hb)
      (w := .rawScript) (by rw [hcheck, hcheck, checkScript_bytes hv, Outcome.andThen_assoc])
    refine hrun.trans ?_
    rw [Action.run_warned, hquiet _ b hb]
  · rcases hv with ⟨text, rfl⟩ | ⟨p, rfl⟩
    · have hnew : (⟨[(Payload.ofText text Payload.shellScript).toValue], []⟩ :
          Arguments Value).only? "script" =
            some (Payload.ofText text Payload.shellScript).toValue := rfl
      rw [htext text a _ ha hnew]
      exact hquiet _ _ hnew
    · exact hquiet p a ha

/-- A call with a key or a script in an older form does on any options, frozen or not, what the call
with the newer form does, whether it succeeds or is refused, and gives one warning before. A payload
that holds no text is refused. The newer forms give no warnings. -/
theorem invoke_forms (o : Options) (mark : Nat) :
    (∀ s parameter name, TakesKey s parameter name → KeyForms o mark s parameter name) ∧
      ScriptForms o mark :=
  ⟨fun _ _ _ h ↦ h.forms, scriptForms⟩

end Forms

/-- A payload of two bytes for one character on frozen options, one of a byte that starts no
character, and an empty script of bytes. -/
theorem invoke_forms_refused :
    (invoke "authorize_public_key" ⟨[(Payload.ofText "é").toValue], []⟩).run (fresh .ec2).freeze =
        ((fresh .ec2).freeze, ⟨.error (.readOnly .ec2), [.keyAsPayload "public_key"]⟩) ∧
      (∃ fault, (invoke "override_login_private_key"
          ⟨[], [("private_key", .payload [0xFF] Payload.plainText)]⟩).run (fresh .base) =
        (fresh .base, ⟨.error (.undecodable fault), [.keyAsPayload "login_private_key"]⟩)) ∧
      (invoke "run_script" ⟨[.buffer []], []⟩).run (fresh .softLayer) =
        (fresh .softLayer, ⟨.error (.argument .emptyScript), [.rawScript]⟩) := by
  have hbyte (text : String) : ([0xFF] : Bytes) ≠ Text.Utf8.encode text := by
    intro h
    have hdecode := Text.Utf8.decode_eq_ok_iff.mpr h
    have hlead : Text.Utf8.lead 0xFF = none := by decide
    simp [Text.Utf8.decode, Text.Utf8.decodeFrom, hlead, Except.map] at hdecode
  obtain ⟨hkeys, _⟩ := invoke_forms (fresh .ec2).freeze 0
  obtain ⟨hkeys', _⟩ := invoke_forms (fresh .base) 0
  obtain ⟨_, hscripts⟩ := invoke_forms (fresh .softLayer) 0
  obtain ⟨p, hp, hscript⟩ := hscripts.ofBytes (.buffer []) [] (.inr rfl)
  cases hp
  refine ⟨?_, ?_, ?_⟩
  · exact (hkeys _ _ _ .authorizePublicKey).ofText (Payload.ofText "é") "é" _ ⟨[.text "é"], []⟩ rfl
      rfl rfl
  · exact (hkeys' _ _ _ .overrideLoginPrivateKey).ofBytes ⟨[0xFF], Payload.plainText⟩ _ hbyte
      rfl
  · exact hscript _ ⟨[.payload [] Payload.octetStream], []⟩ rfl rfl

end Options
end Provisioning
