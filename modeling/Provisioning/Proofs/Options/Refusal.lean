import Provisioning.Options.Copy
import Provisioning.Proofs.Options.Acceptance
import Provisioning.Proofs.Options.Call
import Provisioning.Proofs.Value.Written

/-!
The errors by which arguments and calls are refused. A call on options that are not frozen blames its
arguments. The only other errors are those of a key that has to be read from the bytes of a payload,
of a whole number that is too large for a price, and of an argument that is to be shown in the text of
the refusal but holds a whole number with too many digits (`Mutation.Slips`); plain calls have none
of them, so that all their errors belong to the general family.
-/

set_option autoImplicit false

namespace Provisioning

/-- An error of the general family. -/
def Error.IsGeneral (e : Error) : Prop :=
  e.isAmong [.general] = true

/-- An error that blames an argument. -/
def Error.IsArgument (e : Error) : Prop :=
  e.isAmong [.argument] = true

/-- An error that blames an argument, or would do so if one of `vs` could be shown in its text. -/
def Error.Refuses (vs : List Value) (e : Error) : Prop :=
  e.IsArgument ∨ e = .numberTooLong ∧ ∃ v ∈ vs, v.isWritable = false

theorem Error.Refuses.mono {vs ws : List Value} {e : Error} (h : e.Refuses vs) (hsubset : vs ⊆ ws) :
    e.Refuses ws :=
  h.imp_right fun ⟨he, v, hv, hlong⟩ ↦ ⟨he, v, hsubset hv, hlong⟩

/-- What blames an argument belongs to the general family. -/
theorem Error.IsArgument.isGeneral {e : Error} (h : e.IsArgument) : e.IsGeneral := by
  simp only [IsArgument, IsGeneral, isAmong] at *
  cases hfamily : e.family? with
  | none => simp [hfamily] at h
  | some f => cases f <;> simp [hfamily, Family.widening] at h ⊢

/-- The text of a payload is read as UTF-8. -/
theorem Payload.text_eq (p : Payload) :
    p.text = (Text.Encoding.utf8.decode p.data).mapError .undecodable := by
  have hutf8 : Text.Encoding.ofName? "utf-8" = some .utf8 := by decide
  rw [text, hutf8]

/-- The bytes of a payload that are no text in UTF-8 are found fault with. -/
theorem Payload.exists_undecodable {p : Payload} {e : Error} (h : p.text = .error e) :
    ∃ fault, e = .undecodable fault := by
  rw [Payload.text_eq] at h
  cases hdecode : Text.Encoding.utf8.decode p.data with
  | error fault =>
    rw [hdecode] at h
    cases h
    exact ⟨fault, rfl⟩
  | ok text =>
    rw [hdecode] at h
    cases h

namespace Options

/-- A fault that shows one of the values, or none at all. -/
theorem raises_refuse {α : Type} {fault : ArgumentFault} {vs : List Value}
    (h : fault.shown = .null ∨ fault.shown ∈ vs) :
    Raises (refuse fault : Except Error α) (Error.Refuses vs) := by
  refine .error ?_
  cases hwritable : fault.isWritable with
  | true =>
    rw [ArgumentFault.error, hwritable]
    exact .inl rfl
  | false =>
    rw [ArgumentFault.error, hwritable]
    refine .inr ⟨rfl, fault.shown, h.resolve_left fun hnull ↦ ?_, hwritable⟩
    rw [ArgumentFault.isWritable, hnull] at hwritable
    cases hwritable

theorem raises_refuse_self {α : Type} {fault : ArgumentFault} {v : Value} (h : fault.shown = v) :
    Raises (refuse fault : Except Error α) (Error.Refuses [v]) :=
  raises_refuse (.inr (List.mem_singleton.mpr h))

theorem raises_refuse_plain {α : Type} {fault : ArgumentFault} {vs : List Value}
    (h : fault.shown = .null) : Raises (refuse fault : Except Error α) (Error.Refuses vs) :=
  raises_refuse (.inl h)

theorem raises_asVariant (o : Options) (k : Kind) : Raises (o.asVariant k) Error.IsGeneral := by
  simp only [asVariant]
  split
  · exact .ok _
  · exact .error rfl

theorem eq_of_asVariant {o variant : Options} {k : Kind} (h : o.asVariant k = .ok variant) :
    o.kind.extends? k = true ∧ variant = o := by
  simp only [asVariant, tryAs] at h
  split at h
  · next h' =>
    split at h'
    · next hkind =>
      cases h'
      cases h
      exact ⟨hkind, rfl⟩
    · cases h'
  · cases h

/-! ### Arguments -/

section Checks

variable (name : String) (value : Value)

theorem raises_checkPort : Raises (checkPort name value) (Error.Refuses [value]) := by
  cases value with
  | int n => exact .ite (.ok _) (raises_refuse_self rfl)
  | _ => exact raises_refuse_self rfl

theorem raises_checkSeconds : Raises (checkSeconds value) (Error.Refuses [value]) := by
  cases value with
  | int n => exact .ite (raises_refuse_self rfl) (.ok _)
  | _ => exact raises_refuse_self rfl

theorem raises_checkText : Raises (checkText name value) (Error.Refuses [value]) := by
  cases value with
  | text s => exact .ite (raises_refuse_self rfl) (.ok _)
  | null => exact raises_refuse_plain rfl
  | _ => exact raises_refuse_self rfl

/-- A key that is given as a payload is read, with a warning, and then checked as a text. -/
theorem checkKey_eq (p : Payload) : checkKey name p.toValue =
    (Outcome.warn (.keyAsPayload name)).andThen fun _ ↦
      (Outcome.lift p.text).andThen fun text ↦ Outcome.lift (checkText name (.text text)) := rfl

theorem checkKey_fault {p : Payload} {e : Error} (h : p.text = .error e) :
    checkKey name p.toValue = ⟨.error e, [.keyAsPayload name]⟩ := by
  rw [checkKey_eq, h]
  rfl

theorem checkPrivateKey_fault {p : Payload} {e : Error} (h : p.text = .error e) :
    checkPrivateKey name p.toValue = ⟨.error e, [.keyAsPayload name]⟩ := by
  rw [checkPrivateKey, checkKey_fault name h]
  rfl

/-- A text can always be shown. -/
theorem raises_checkText_text (s : String) :
    Raises (checkText name (.text s)) Error.IsArgument := by
  rw [checkText]
  exact .ite (.error rfl) (.ok _)

/-- A key that is given as a payload may hold bytes that are no text. -/
theorem raises_checkKey : Raises (checkKey name value).result fun e ↦
    e.Refuses [value] ∨ ∃ p : Payload, value = p.toValue ∧ p.text = .error e := by
  by_cases hpayload : ∃ p : Payload, value = p.toValue
  · obtain ⟨p, rfl⟩ := hpayload
    refine .andThen (.ok ()) fun _ _ ↦ .andThen (fun e he ↦ .inr ⟨p, rfl, he⟩) ?_
    exact fun text _ e he ↦ .inl (.inl (raises_checkText_text name text e he))
  · have htext : checkKey name value = Outcome.lift (checkText name value) := by
      cases value with
      | payload data contentType => exact absurd ⟨⟨data, contentType⟩, rfl⟩ hpayload
      | _ => rfl
    rw [htext]
    exact fun e he ↦ .inl (raises_checkText name value e he)

theorem raises_checkPrivateKey : Raises (checkPrivateKey name value).result fun e ↦
    e.Refuses [value] ∨ ∃ p : Payload, value = p.toValue ∧ p.text = .error e := by
  refine (raises_checkKey name value).andThen fun text _ ↦ ?_
  split
  · exact .ok text
  · exact .error (.inl (.inl rfl))

theorem raises_checkScript : Raises (checkScript value).result (Error.Refuses []) := by
  refine .andThen ?_ fun script _ ↦ ?_
  · cases value with
    | text s | payload data contentType => exact .ok _
    | bytes data | buffer data => exact .andThen (.ok ()) fun _ _ ↦ .ok _
    | _ => exact raises_refuse_plain rfl
  · split
    · exact .error (.inl rfl)
    · exact .ok script

theorem raises_checkEntry (key : Value) :
    Raises (checkEntry key value) (Error.Refuses [key, value]) := by
  have hkey := (raises_checkText "metadata key" key).mono fun e he ↦
    he.mono (List.cons_subset_cons key (List.nil_subset [value]))
  refine hkey.bind fun k _ ↦ .map _ ?_
  cases value with
  | text s => exact .ok s
  | null => exact raises_refuse_plain rfl
  | _ => exact raises_refuse (.inr (List.mem_cons_of_mem key (List.mem_singleton_self _)))

theorem raises_checkUserData : Raises (checkUserData value) (Error.Refuses []) := by
  refine .bind ?_ fun bytes _ ↦ .ite (raises_refuse_plain rfl) (.ok bytes)
  cases value with
  | text s | bytes b | buffer b => exact .ok _
  | _ => exact raises_refuse_plain rfl

theorem raises_checkPrice : Raises (checkPrice value) (Error.Refuses [value]) := by
  cases value with
  | int n | float x => exact .ite (raises_refuse_self rfl) (.ok _)
  | _ => exact raises_refuse_self rfl

/-- The error of a list is that of one of its items. -/
theorem raises_mapM_refuses {α β : Type} {f : α → Except Error β} {xs : List α} {vs : List Value}
    (h : ∀ x ∈ xs, Raises (f x) (Error.Refuses vs)) :
    Raises (xs.mapM f) (Error.Refuses vs) := by
  induction xs with
  | nil => exact .ok []
  | cons x xs ih =>
    obtain ⟨hx, hxs⟩ := List.forall_mem_cons.mp h
    rw [List.mapM_cons]
    exact hx.bind fun y _ ↦ (ih hxs).map (y :: ·)

theorem raises_checkPorts (ports : List Value) :
    Raises (checkPorts ports) (Error.Refuses ports) := by
  refine (raises_mapM_refuses fun v hv ↦ ?_).map distinct
  exact (raises_checkPort "port" v).mono fun _ he ↦
    he.mono (List.cons_subset.mpr ⟨hv, List.nil_subset _⟩)

theorem raises_checkNames (names : List Value) :
    Raises (checkNames name names) (Error.Refuses names) := by
  refine .ite (raises_refuse_plain rfl) ((raises_mapM_refuses fun v hv ↦ ?_).map distinct)
  exact (raises_checkText name v).mono fun _ he ↦
    he.mono (List.cons_subset.mpr ⟨hv, List.nil_subset _⟩)

theorem raises_checkUserMetadata (key : Value) :
    Raises (checkUserMetadata key value) (Error.Refuses [key, value]) := by
  cases key with
  | dict entries =>
    cases value with
    | null =>
      have hentries : Raises (entries.mapM fun e ↦ checkEntry e.1 e.2)
          (Error.Refuses [.dict entries, .null]) := by
        refine raises_mapM_refuses fun e he ↦ (raises_checkEntry e.2 e.1).mono fun _ hrefuses ↦ ?_
        refine hrefuses.imp_right fun ⟨hlong, v, hv, hnot⟩ ↦
          ⟨hlong, .dict entries, List.mem_cons_self, Bool.eq_false_iff.mpr fun hall ↦ ?_⟩
        obtain ⟨hkey, hvalue⟩ := Value.isWritable_of_mem_dict hall he
        simp only [List.mem_cons, List.not_mem_nil, or_false] at hv
        rcases hv with rfl | rfl
        · cases hnot.symm.trans hkey
        · cases hnot.symm.trans hvalue
      exact hentries.map fun es ↦ Change.metadata (Table.ofList es)
    | _ => exact raises_refuse_plain rfl
  | _ => exact (raises_checkEntry value _).map fun e ↦ Change.metadataEntry e.1 e.2

theorem raises_checkDomain [Domain.SuffixList] :
    Raises (checkDomain value) (Error.Refuses [value]) := by
  cases value with
  | text s => exact .ite (.ok s) (.error (.inl rfl))
  | null => exact raises_refuse_plain rfl
  | _ => exact raises_refuse_self rfl

theorem raises_checkNoConflict (conflict : Bool) (c : Change) :
    Raises (checkNoConflict conflict c) (Error.Refuses []) :=
  .ite (raises_refuse_plain rfl) (.ok c)

end Checks

/-! ### Calls -/

/-- A change of anything but the price can be written. -/
theorem Change.total_write {c : Change} (h : Field.spotPrice ∉ c.fields) : c.write.Total := by
  cases c with
  | block b => exact (total_assign _ _).bind fun _ ↦ total_assign _ _
  | metadataEntry key value =>
    have hstate : (Action.state : Action Options Options).Total := fun o ↦ ⟨o, rfl⟩
    exact hstate.bind fun _ ↦ total_assign _ _
  | spotPrice offer mark => exact absurd List.mem_cons_self h
  | _ => exact total_assign _ _

/-- Options that are frozen are the only ones that refuse every change. -/
theorem raises_checkMutable (o : Options) :
    Raises o.checkMutable fun e ↦ o.frozen = true ∧ e = .readOnly o.kind := by
  intro e he
  simp only [checkMutable] at he
  split at he
  · next hfrozen =>
    cases he
    exact ⟨hfrozen, rfl⟩
  · cases he

namespace Mutation

/-- A call in which no key is a payload, no price a whole number and no number of seconds anything
else, and whose other arguments can all be shown. -/
def IsPlain : Mutation → Prop
  | installPrivateKey key | authorizePublicKey key | overrideLoginPrivateKey key =>
    (∀ p : Payload, key ≠ p.toValue) ∧ key.isWritable = true
  | spotPrice price _ => (∀ n : Int, price ≠ .int n) ∧ price.isWritable = true
  | blockOnPort port seconds => port.isWritable = true ∧ ∃ n : Nat, seconds = .int n
  | m => ∀ v ∈ m.mentioned, v.isWritable = true

variable [Domain.SuffixList]

/-- The calls on `o` whose arguments run into an error that does not blame them: a key is given as a
payload whose bytes are no text, or a price as a positive whole number that no double is near to, or
the text of the refusal would show an argument that cannot be written. -/
inductive Slips (o : Options) : Mutation → Error → Prop
  | privateKey (p : Payload) {e : Error} (h : p.text = .error e) :
    Slips o (.installPrivateKey p.toValue) e
  | publicKey (p : Payload) {e : Error} (h : p.text = .error e) :
    Slips o (.authorizePublicKey p.toValue) e
  | loginPrivateKey (p : Payload) {e : Error} (h : p.text = .error e) :
    Slips o (.overrideLoginPrivateKey p.toValue) e
  | price (n : Int) (mark : Nat) (hpos : 0 < n) (h : Decimal.ofInt? n = none) :
    Slips o (.spotPrice (.int n) mark) .priceTooLarge
  | number {m : Mutation} {v : Value} (hv : v ∈ m.mentioned) (hlong : v.isWritable = false)
      (h : (m.check o).result = .error .numberTooLong) : Slips o m .numberTooLong

variable {m : Mutation} {o : Options} {e : Error}

theorem Slips.not_isArgument (h : m.Slips o e) : ¬e.IsArgument := by
  have hbytes {p : Payload} (h : p.text = .error e) : ¬e.IsArgument := by
    obtain ⟨fault, rfl⟩ := Payload.exists_undecodable h
    exact Bool.false_ne_true
  cases h with
  | privateKey p h | publicKey p h | loginPrivateKey p h => exact hbytes h
  | price n mark hpos h => exact Bool.false_ne_true
  | number hv hlong h => exact Bool.false_ne_true

/-- Of the numbers of a plain call only the seconds may have too many digits, and they are accepted. -/
theorem IsPlain.check_ne_numberTooLong (hplain : m.IsPlain) {v : Value} (hv : v ∈ m.mentioned)
    (hlong : v.isWritable = false) : (m.check o).result ≠ .error .numberTooLong := by
  cases m with
  | blockOnPort port seconds =>
    obtain ⟨hport, n, rfl⟩ := hplain
    rw [check, Outcome.result_bind, (decides_checkSeconds n).ok trivial]
    intro h
    have hraises : Raises (checkPort "port" port) fun e ↦ e ≠ .numberTooLong := by
      rintro _ he rfl
      rcases raises_checkPort "port" port _ he with hargument | ⟨-, w, hw, hnot⟩
      · cases hargument
      · rw [List.mem_singleton.mp hw, hport] at hnot
        cases hnot
    exact (hraises.map fun p ↦ Change.block ⟨p, n⟩) _ h rfl
  | installPrivateKey key | authorizePublicKey key | overrideLoginPrivateKey key
  | spotPrice price mark =>
    rw [List.mem_singleton.mp hv, hplain.2] at hlong
    cases hlong
  | _ => cases hlong.symm.trans (hplain v hv)

theorem IsPlain.not_slips (hplain : m.IsPlain) : ¬m.Slips o e := by
  rintro (⟨p, _⟩ | ⟨p, _⟩ | ⟨p, _⟩ | ⟨n, mark, _, _⟩ | ⟨hv, hlong, h⟩)
  · exact hplain.1 p rfl
  · exact hplain.1 p rfl
  · exact hplain.1 p rfl
  · exact hplain.1 n rfl
  · exact hplain.check_ne_numberTooLong hv hlong h

theorem check_raises (m : Mutation) (o : Options) :
    Raises (m.check o).result fun e ↦ e.IsArgument ∨ m.Slips o e := by
  have hleft {m : Mutation} {c : Except Error Change} (heq : (m.check o).result = c)
      {vs : List Value} (hvs : vs ⊆ m.mentioned) (h : Raises c (Error.Refuses vs)) :
      Raises (m.check o).result fun e ↦ e.IsArgument ∨ m.Slips o e := by
    intro e he
    rcases h e (heq ▸ he) with hargument | ⟨rfl, v, hv, hlong⟩
    · exact .inl hargument
    · exact .inr (.number (hvs hv) hlong he)
  have hkey {m : Mutation} {e : Error} {v : Value} (hv : v ∈ m.mentioned)
      (he : (m.check o).result = .error e)
      (hslips : ∀ p : Payload, v = p.toValue → p.text = .error e → m.Slips o e)
      (h : e.Refuses [v] ∨ ∃ p : Payload, v = p.toValue ∧ p.text = .error e) :
      e.IsArgument ∨ m.Slips o e := by
    rcases h with (hargument | ⟨rfl, w, hw, hlong⟩) | ⟨p, hp, htext⟩
    · exact .inl hargument
    · exact .inr (.number hv (List.mem_singleton.mp hw ▸ hlong) he)
    · exact .inr (hslips p hp htext)
  cases m with
  | installPrivateKey key =>
    intro e he
    refine hkey (List.mem_singleton_self key) he ?_ (((raises_checkPrivateKey _ key).outcome _) e he)
    rintro p rfl h
    exact .privateKey p h
  | authorizePublicKey key =>
    intro e he
    refine hkey (List.mem_singleton_self key) he ?_ (((raises_checkKey _ key).outcome _) e he)
    rintro p rfl h
    exact .publicKey p h
  | overrideLoginPrivateKey key =>
    intro e he
    refine hkey (List.mem_singleton_self key) he ?_ (((raises_checkPrivateKey _ key).outcome _) e he)
    rintro p rfl h
    exact .loginPrivateKey p h
  | inboundPorts ports => exact hleft rfl (List.Subset.refl _) ((raises_checkPorts ports).outcome _)
  | blockOnPort port seconds =>
    have hport := (raises_checkPort "port" port).mono fun _ he ↦
      he.mono (List.cons_subset_cons port (List.nil_subset [seconds]))
    have hseconds := (raises_checkSeconds seconds).mono fun _ he ↦
      he.mono (List.subset_cons_self port [seconds])
    refine hleft rfl (List.Subset.refl _) (.andThen hport fun p _ ↦ ?_)
    exact hseconds.outcome fun s ↦ Change.block ⟨p, s⟩
  | runScript script mark =>
    exact hleft rfl (List.Subset.refl _) ((raises_checkScript script).outcome _)
  | overrideLoginUser user =>
    exact hleft rfl (List.Subset.refl _) ((raises_checkText "user" user).outcome _)
  | userMetadata key value =>
    exact hleft rfl (List.Subset.refl _) (raises_checkUserMetadata value key)
  | withMetadata | enableMonitoring => exact .ok _
  | domainName name => exact hleft rfl (List.Subset.refl _) ((raises_checkDomain name).outcome _)
  | securityGroups names =>
    exact hleft rfl (List.Subset.refl _) ((raises_checkNames _ names).outcome _)
  | keyPair name =>
    refine hleft rfl (List.Subset.refl _)
      (.andThen (raises_checkText "key_pair" name) fun name _ ↦ ?_)
    exact (raises_checkNoConflict _ _).mono fun _ he ↦ he.mono (List.nil_subset _)
  | noKeyPair => exact hleft rfl (List.Subset.refl _) (raises_checkNoConflict _ _)
  | userData data => exact hleft rfl (List.Subset.refl _) ((raises_checkUserData data).outcome _)
  | securityGroupIds ids =>
    exact hleft rfl (List.Subset.refl _) ((raises_checkNames _ ids).outcome _)
  | spotPrice price mark => exact hleft rfl (List.Subset.refl _) ((raises_checkPrice price).outcome _)
  | subnetId id =>
    exact hleft rfl (List.Subset.refl _) ((raises_checkText "subnet_id" id).outcome _)

/-- What has been accepted can be written, but for a price that no double is near to. -/
theorem write_raises {c : Change} (h : (m.check o).result = .ok c) :
    Raises (c.write.result o) (m.Slips o) := by
  by_cases hprice : Field.spotPrice ∈ c.fields
  · cases m with
    | spotPrice price mark =>
      obtain ⟨offer, hoffer, rfl⟩ := Outcome.exists_of_return_lift h
      rw [Change.result_write_spotPrice]
      cases price with
      | int n =>
        simp only [checkPrice] at hoffer
        split at hoffer
        · cases hoffer
        · next hn =>
          cases hoffer
          simp only [Offer.amount]
          split
          · exact .ok ()
          · next hnone => exact .error (.price n mark (Int.not_le.mp hn) hnone)
      | float x =>
        simp only [checkPrice] at hoffer
        split at hoffer
        · cases hoffer
        · cases hoffer
          exact .ok ()
      | _ => cases hoffer
    | _ =>
      rw [fields_of_check h] at hprice
      simp [setter, Setter.fields] at hprice
  · obtain ⟨u, hu⟩ := Change.total_write hprice o
    rw [hu]
    exact .ok u

theorem result_perform (hkind : o.kind.extends? m.setter.owner = true) :
    m.perform.result o = (m.check o).result >>= fun c ↦
      o.checkMutable >>= fun _ ↦ c.write.result o := by
  simp only [perform, Action.result_bind, Action.result_state, Action.after_state, hkind, if_pos,
    Action.liftM_outcome, Action.liftM_except, Action.result_ofOutcome, Action.after_ofOutcome]
  cases (m.check o).result with
  | error e => rfl
  | ok c => cases o.checkMutable <;> rfl

/-- A call blames an argument, or the options are frozen, or it slips. -/
theorem perform_raises_cases (hkind : o.kind.extends? m.setter.owner = true) :
    Raises (m.perform.result o) fun e ↦
      e.IsArgument ∨ (o.frozen = true ∧ e = .readOnly o.kind) ∨ m.Slips o e := by
  rw [result_perform hkind]
  refine .bind ((check_raises m o).mono fun e ↦ .imp_right .inr) fun c hc ↦ ?_
  refine .bind ((raises_checkMutable o).mono fun e he ↦ .inr (.inl he)) fun _ _ ↦ ?_
  exact (write_raises hc).mono fun e he ↦ .inr (.inr he)

theorem perform_raises (hplain : m.IsPlain) (hkind : o.kind.extends? m.setter.owner = true) :
    Raises (m.perform.result o) Error.IsGeneral := by
  refine (perform_raises_cases hkind).mono fun e he ↦ ?_
  rcases he with hargument | ⟨_, rfl⟩ | hslips
  · exact hargument.isGeneral
  · rfl
  · exact absurd hslips hplain.not_slips

theorem mutate_raises (hplain : m.IsPlain) (hkind : o.kind.extends? m.setter.owner = true) :
    Raises (o.mutate m).result Error.IsGeneral := by
  refine .andThen ?_ fun _ _ ↦ .ok _
  rw [Action.result_settle]
  exact (perform_raises hplain hkind).bind fun _ _ ↦ .ok _

/-- A call that slips fails by the error that it runs into. -/
theorem Slips.result_perform (h : m.Slips o e) (hkind : o.kind.extends? m.setter.owner = true)
    (hfrozen : o.frozen = false) : m.perform.result o = .error e := by
  have hcheck {c : Outcome Change} (hc : m.check o = c) (h : c.result = .error e) :
      m.perform.result o = .error e := by
    rw [Mutation.result_perform hkind, hc, h]
    rfl
  cases h with
  | privateKey p h | loginPrivateKey p h =>
    refine hcheck rfl ?_
    rw [check, Outcome.result_bind, checkPrivateKey_fault _ h]
    rfl
  | publicKey p h =>
    refine hcheck rfl ?_
    rw [check, Outcome.result_bind, checkKey_fault _ h]
    rfl
  | price n mark hpos h =>
    have hoffer : checkPrice (.int n) = .ok (.whole n) := by
      rw [checkPrice, if_neg (Int.not_le.mpr hpos)]
    have hc : ((spotPrice (.int n) mark).check o).result = .ok (.spotPrice (.whole n) mark) := by
      rw [check, hoffer]
      rfl
    have hmutable : o.checkMutable = .ok () := by simp [checkMutable, hfrozen]
    have hamount : (Offer.whole n).amount = .error .priceTooLarge := by simp [Offer.amount, h]
    calc (spotPrice (.int n) mark).perform.result o
        = (Change.spotPrice (.whole n) mark).write.result o := by
          rw [Mutation.result_perform hkind, hc, hmutable]
          rfl
      _ = .error .priceTooLarge := by
          rw [Change.result_write_spotPrice, hamount]
          rfl
  | number hv hlong h => exact hcheck rfl h

end Mutation

/-! ### Calls by name -/

section Calls

variable [Domain.SuffixList] {o : Options} {s : Setter} {a : Arguments Value} {mark : Nat}
  {m : Mutation}

theorem result_invoke (howner : o.kind.extends? s.owner = true)
    (hm : s.mutation? a mark = some m) :
    (invoke s.label a mark).result o = (m.perform.result o).map fun _ ↦ .itself := by
  simp only [invoke, Action.result_bind, Action.result_state, Action.after_state,
    Member.ofLabel?_label, if_pos howner, Setter.perform, hm]
  cases m.perform.result o <;> rfl

/-- What blames an argument comes of the check. -/
theorem check_eq_error_of_isArgument {e : Error} (howner : o.kind.extends? s.owner = true)
    (hm : s.mutation? a mark = some m) (he : (invoke s.label a mark).result o = .error e)
    (hargument : e.IsArgument) : (m.check o).result = .error e := by
  have hkind : o.kind.extends? m.setter.owner = true := Setter.setter_of_mutation? hm ▸ howner
  rw [result_invoke howner hm, Mutation.result_perform hkind] at he
  cases hcheck : (m.check o).result with
  | error e' =>
    rw [hcheck] at he
    exact congrArg _ (Except.error.inj he)
  | ok c =>
    have hlater : Raises (o.checkMutable >>= fun _ ↦ c.write.result o) fun e ↦ ¬e.IsArgument := by
      refine .bind ((raises_checkMutable o).mono ?_) fun _ _ ↦ ?_
      · rintro _ ⟨-, rfl⟩
        exact Bool.false_ne_true
      · exact (Mutation.write_raises hcheck).mono fun _ ↦ Mutation.Slips.not_isArgument
    rw [hcheck] at he
    exact absurd hargument ((hlater.mapOk _) e he)

/-- Options that are not frozen, a setter that they have, and arguments that fit its parameters: the
errors of the call blame an argument, except where it slips, and where it slips the error is another
one. -/
theorem invoke_raises (hfrozen : o.frozen = false) (howner : o.kind.extends? s.owner = true)
    (hm : s.mutation? a mark = some m) :
    (∀ e, (invoke s.label a mark).result o = .error e → e.IsArgument ∨ m.Slips o e) ∧
      ∀ e, m.Slips o e → (invoke s.label a mark).result o = .error e ∧ ¬e.IsArgument := by
  have hkind : o.kind.extends? m.setter.owner = true := Setter.setter_of_mutation? hm ▸ howner
  rw [result_invoke howner hm]
  refine ⟨?_, fun e he ↦ ⟨?_, he.not_isArgument⟩⟩
  · refine Raises.mapOk _ ((Mutation.perform_raises_cases hkind).mono fun e he ↦ ?_)
    rcases he with hargument | ⟨htrue, _⟩ | hslips
    · exact .inl hargument
    · rw [hfrozen] at htrue
      cases htrue
    · exact .inr hslips
  · rw [he.result_perform hkind hfrozen]
    rfl

end Calls

/-- A private key whose bytes are no text, a price that no double is near to, and a user that is a
whole number with too many digits. -/
theorem invoke_raises_slips :
    (invoke "install_private_key" ⟨[.payload [0xFF] Payload.octetStream], []⟩).result
        (fresh .awsEc2) = .error (.undecodable (.utf8 ⟨0, [0xFF], .startByte⟩)) ∧
      ¬(Error.undecodable (.utf8 ⟨0, [0xFF], .startByte⟩)).IsArgument ∧
      (invoke "spot_price" ⟨[.int (10 ^ 400)], []⟩).result (fresh .awsEc2) =
        .error .priceTooLarge ∧ ¬Error.priceTooLarge.IsArgument ∧
      (invoke "override_login_user" ⟨[.int (10 ^ 4300)], []⟩).result (fresh .awsEc2) =
        .error .numberTooLong ∧ ¬Error.numberTooLong.IsArgument := by
  have htext : (⟨[0xFF], Payload.octetStream⟩ : Payload).text =
      .error (.undecodable (.utf8 ⟨0, [0xFF], .startByte⟩)) := by
    have hlead : Text.Utf8.lead 0xFF = none := by decide
    simp [Payload.text_eq, Text.Encoding.decode, Text.Utf8.decode, Text.Utf8.decodeFrom, hlead,
      Except.map, Except.mapError]
  have hnone : Decimal.ofInt? (10 ^ 400) = none := by
    have hbits : Decimal.nearestBits (10 ^ 400 : Int).natAbs 1 = 2047 * Nat.pow 2 52 := by
      decide +kernel
    rw [Decimal.ofInt?, if_pos hbits]
  have hfitsKey : Setter.installPrivateKey.mutation? ⟨[.payload [0xFF] Payload.octetStream], []⟩ 0 =
      some (.installPrivateKey (.payload [0xFF] Payload.octetStream)) := rfl
  have hfitsPrice : Setter.spotPrice.mutation? ⟨[.int (10 ^ 400)], []⟩ 0 =
      some (.spotPrice (.int (10 ^ 400)) 0) := rfl
  have hfitsUser : Setter.overrideLoginUser.mutation? ⟨[.int (10 ^ 4300)], []⟩ 0 =
      some (.overrideLoginUser (.int (10 ^ 4300))) := rfl
  have hlong : (Value.int (10 ^ 4300)).isWritable = false := by
    refine Bool.eq_false_iff.mpr fun h ↦ ?_
    exact absurd (Value.isWritable_int_iff.mp h) (by decide +kernel)
  have huser : ((Mutation.overrideLoginUser (.int (10 ^ 4300))).check (fresh .awsEc2)).result =
      .error .numberTooLong := by
    have hfault : (ArgumentFault.notText "user" (.int (10 ^ 4300))).error = .numberTooLong := by
      rw [ArgumentFault.error, ArgumentFault.isWritable, ArgumentFault.shown, hlong]
      rfl
    exact congrArg Except.error hfault
  obtain ⟨_, hkey⟩ := invoke_raises (o := fresh .awsEc2) rfl rfl hfitsKey
  obtain ⟨_, hprice⟩ := invoke_raises (o := fresh .awsEc2) rfl rfl hfitsPrice
  obtain ⟨_, hnumber⟩ := invoke_raises (o := fresh .awsEc2) rfl rfl hfitsUser
  obtain ⟨hbytes, hbytesKind⟩ := hkey _ (.privateKey ⟨[0xFF], Payload.octetStream⟩ htext)
  obtain ⟨hlarge, hlargeKind⟩ := hprice _ (.price (10 ^ 400) 0 (by decide +kernel) hnone)
  obtain ⟨hdigits, hdigitsKind⟩ := hnumber _ (.number (List.mem_singleton_self _) hlong huser)
  exact ⟨hbytes, hbytesKind, hlarge, hlargeKind, hdigits, hdigitsKind⟩

end Options
end Provisioning
