import Provisioning.Options.Copy
import Provisioning.Proofs.Action

/-!
What the checks say to arguments of the kind that they ask for: a number for a port, a text for a
key and so on. Each is then accepted on a condition of its own and for no other reason refused. A
call on options that have its setter and are not frozen hangs on the condition of its check alone.
-/

set_option autoImplicit false

namespace Provisioning.Options

variable (name : String) (s : String)

theorem decides_checkPort (n : Nat) : Decides (checkPort name (.int n)) (n ≤ maxPort) n := by
  have hiff : (0 ≤ (n : Int) ∧ (n : Int) ≤ maxPort) ↔ n ≤ maxPort := by omega
  exact Decides.ite_ok.congr hiff

theorem decides_checkSeconds (n : Nat) : Decides (checkSeconds (.int n)) True n := by
  simp only [checkSeconds]
  have hneg : ¬(n : Int) < 0 := by omega
  exact .of_ok (if_neg hneg)

theorem decides_checkText : Decides (checkText name (.text s)) (s ≠ "") s := by
  have hiff : ¬s.isEmpty = true ↔ s ≠ "" := by simp
  exact Decides.ite_error.congr hiff

theorem decides_checkKey : Decides (checkKey name (.text s)).result (s ≠ "") s :=
  decides_checkText name s

theorem checkKey_text {name s : String} (h : s ≠ "") : checkKey name (.text s) = .ok s :=
  congrArg Outcome.lift ((decides_checkText name s).ok h)

theorem ne_empty_of_isPem (h : isPem s = true) : s ≠ "" := by
  rintro rfl
  exact absurd h (by decide)

theorem decides_checkPrivateKey :
    Decides (checkPrivateKey name (.text s)).result (isPem s = true) s := by
  have hpem : Decides (if isPem s then Outcome.ok s else .fail (.argument (.notPem name))).result
      (isPem s = true) s := by
    rw [apply_ite Outcome.result]
    exact Decides.ite_ok
  have hboth := (decides_checkKey name s).bind
    (f := fun t ↦ (if isPem t then Outcome.ok t else .fail (.argument (.notPem name))).result)
    fun _ ↦ hpem
  rw [checkPrivateKey, Outcome.result_bind]
  exact hboth.congr (and_iff_right_of_imp (ne_empty_of_isPem s))

theorem decides_checkScript (text : String) (contentType : Value) :
    Decides (checkScript (Payload.ofText text contentType).toValue).result (text ≠ "")
      (.ofText text contentType) := by
  have hscript : checkScript (Payload.ofText text contentType).toValue =
      (Outcome.ok (Payload.ofText text contentType)).andThen fun script ↦
        if script.size = 0 then .fail (.argument .emptyScript) else .ok script := rfl
  have hsize : ¬(Payload.ofText text contentType).size = 0 ↔ text ≠ "" := by
    rw [Payload.size, Payload.ofText, List.length_eq_zero_iff, Text.Utf8.encode_eq_nil_iff]
  rw [hscript, Outcome.ok_andThen, apply_ite Outcome.result]
  exact Decides.ite_error.congr hsize

theorem decides_checkUserData :
    Decides (checkUserData (.text s)) ((Text.Utf8.encode s).length ≤ maxUserData)
      (Text.Utf8.encode s) := by
  have hlength : Decides (if maxUserData < (Text.Utf8.encode s).length then
      refuse (.largeUserData maxUserData) else .ok (Text.Utf8.encode s))
      (¬maxUserData < (Text.Utf8.encode s).length) (Text.Utf8.encode s) := Decides.ite_error
  exact hlength.congr Nat.not_lt

theorem decides_checkPrice (price : Float) :
    Decides (checkPrice (.float price)) (¬price ≤ 0) (.double price) := by
  rw [checkPrice]
  exact Decides.ite_error

theorem decides_checkPorts (ports : List Nat) :
    Decides (checkPorts (ports.map fun (n : Nat) ↦ .int n)) (∀ p ∈ ports, p ≤ maxPort)
      (distinct ports) :=
  (Decides.mapM (decides_checkPort "port") ports).map distinct

theorem decides_checkNames {names : List String} (hnames : names ≠ []) :
    Decides (checkNames name (names.map .text)) ("" ∉ names) (distinct names) := by
  have hne : ¬(names.map Value.text).isEmpty = true := by simpa using hnames
  have hiff : (∀ x ∈ names, x ≠ "") ↔ "" ∉ names :=
    ⟨fun h hmem ↦ h "" hmem rfl, fun h x hx heq ↦ h (heq ▸ hx)⟩
  rw [checkNames, if_neg hne]
  exact ((Decides.mapM (decides_checkText name) names).map distinct).congr hiff

theorem decides_checkUserMetadata (key value : String) :
    Decides (checkUserMetadata (.text key) (.text value)) (key ≠ "")
      (.metadataEntry key value) := by
  have hvalue : Decides (checkMetadata (.text value)) True value := .of_ok rfl
  have hentry : Decides (checkEntry (.text key) (.text value)) (key ≠ "" ∧ True) (key, value) :=
    (decides_checkText "metadata key" key).bind fun _ ↦ hvalue.map (Prod.mk key)
  exact (hentry.map fun e ↦ Change.metadataEntry e.1 e.2).congr (and_iff_left trivial)

theorem decides_checkDomain [Domain.SuffixList] :
    Decides (checkDomain (.text s)) (Domain.hasPublicSuffix s = true) s :=
  Decides.ite_ok

theorem decides_checkNoConflict (conflict : Bool) (c : Change) :
    Decides (checkNoConflict conflict c) (conflict = false) c := by
  have hiff : ¬conflict = true ↔ conflict = false := Bool.not_eq_true conflict ▸ Iff.rfl
  exact Decides.ite_error.congr hiff

theorem keyPair?_eq_of_get? {o : Options} {name : Option String}
    (h : o.get? .keyPair = some name) : o.keyPair? = name := by
  obtain ⟨e, he, rfl⟩ := Option.map_eq_some_iff.mp h
  rw [keyPair?, he]
  rfl

theorem Mutation.perform_leads [Domain.SuffixList] {m : Mutation} {o : Options} {c : Change}
    {p : Prop} (hkind : o.kind.extends? m.setter.owner = true) (hfrozen : o.frozen = false)
    (hcheck : Decides (m.check o).result p c) (hwrite : c.write.result o = .ok ()) :
    m.perform.Leads o p (c.write.after o) := by
  refine ⟨⟨fun hp ↦ ?_, fun hp ↦ ?_⟩, fun hp ↦ ?_⟩
  · simp [perform, Action.result_bind, hkind, hcheck.ok hp, checkMutable, hfrozen, hwrite]
  · obtain ⟨e, he⟩ := hcheck.error hp
    exact ⟨e, by simp [perform, Action.result_bind, hkind, he]⟩
  · simp [perform, Action.after_bind, hkind, hcheck.ok hp, checkMutable, hfrozen]

end Provisioning.Options
