import Provisioning.Proofs.Provider.Defaults
import Provisioning.Proofs.Store.Loading
import Provisioning.Proofs.Template.Refusal
import Provisioning.Store.Lineage

/-!
The errors in which the loading of a store may end, and those in which options may fail to be made
of one of its templates.
-/

set_option autoImplicit false

namespace Provisioning

/-- The errors of a loading. Except for a folder of templates whose path is too long, they come from
the main file. -/
inductive Error.OfLoading : Error → Prop
  | longPath (path : String) : OfLoading (.longPath path)
  | noMainConfig (path : String) : OfLoading (.noMainConfig path)
  | directory (path : String) : OfLoading (.directory path)
  | undecodable (fault : Text.Undecodable) : OfLoading (.undecodable fault)
  | markup (fault : Foreign) : OfLoading (.markup fault)
  | notMapping : OfLoading .notMapping
  | invalid (report : Validation.Report) : OfLoading (.invalid report)

namespace Store

/-! ### The errors of a loading -/

section Reading

variable (t : Tree)

theorem has?_raises (p : Path) : Raises (t.has? p) Error.OfLoading :=
  .ite (.error (.longPath _)) (.ok _)

/-- What is there is a file or a folder. -/
theorem readText_raises {p : Path} (h : t.has? p = .ok true) :
    Raises (t.readText p) Error.OfLoading := by
  have hentry : (t.entry? p).isSome = true := by
    simp only [Tree.has?] at h
    split at h
    · cases h
    · exact Except.ok.inj h
  rw [Tree.readText]
  split
  · next hnone =>
    rw [hnone] at hentry
    cases hentry
  · exact .error (.directory _)
  · split
    · exact .ok _
    · exact .error (.undecodable _)

theorem readDocument_raises [Markup.Decoder] (l : Loading) {p : Path} (h : t.has? p = .ok true) :
    Raises (l.readDocument t p).2 Error.OfLoading := by
  have htext := readText_raises t h
  simp only [Loading.readDocument, Loading.readText]
  cases hread : t.readText p with
  | error e => exact .error (htext e hread)
  | ok text =>
    exact .mapError .markup _

theorem settingsOfEntries_raises [Validation.Reader] (es : List (Value × Value)) :
    Raises (Settings.ofEntries es) Error.OfLoading :=
  .ite (.mapError .invalid _) (.error .notMapping)

theorem settingsOf_raises [Validation.Reader] (document : Value) :
    Raises (settingsOf document) Error.OfLoading := by
  simp only [settingsOf]
  split
  · split
    · exact settingsOfEntries_raises _
    · exact .error .notMapping
  · exact settingsOfEntries_raises _

variable [Markup.Decoder] [Validation.Reader]

theorem readSettings_raises (l : Loading) : Raises (readSettings t l).2 Error.OfLoading := by
  have hhas := has?_raises t l.store.mainFile
  simp only [readSettings]
  split
  · next e he => exact .error (hhas e he)
  · exact .error (.noMainConfig _)
  · next h =>
    have hdocument := readDocument_raises t l h
    rcases hread : l.readDocument t l.store.mainFile with ⟨l', e | document⟩
    · exact .error (hdocument e (by rw [hread]))
    · exact settingsOf_raises document

theorem load_raises (s : Store) : Raises (s.load t).2 Error.OfLoading := by
  have hsettings := readSettings_raises t { store := { s with failures := [], texts := [] } }
  rw [load]
  rcases hread : readSettings t { store := { s with failures := [], texts := [] } } with
    ⟨l, e | settings⟩
  · exact .error (hsettings e (by rw [hread]))
  · have hfolder := has?_raises t (s.folder settings)
    simp only [Loading.readTemplates]
    split
    · next e he => exact .error (hfolder e he)
    · exact .ok ()
    · exact .ok ()

end Reading

/-! ### The settings of a store that has been loaded -/

theorem Loading.settings_foldl_addFile [Markup.Decoder] (t : Tree) (p : Path)
    (names : List String) (l : Loading) :
    (names.foldl (addFile t p) l).store.settings = l.store.settings := by
  induction names generalizing l with
  | nil => rfl
  | cons name rest ih =>
    obtain ⟨templates, failures, notices, hadd⟩ := l.addFile_keeps t p name
    rw [List.foldl_cons, ih, hadd]

/-- A store that has been loaded has settings. -/
theorem exists_settings_of_load [Markup.Decoder] [Validation.Reader] {s : Store} {t : Tree}
    (h : (s.load t).2 = .ok ()) : ∃ settings, (s.load t).1.store.settings = some settings := by
  rw [load] at h ⊢
  rcases hread : readSettings t { store := { s with failures := [], texts := [] } } with
    ⟨l, e | settings⟩
  · rw [hread] at h
    cases h
  · refine ⟨settings, ?_⟩
    simp only [Loading.readTemplates]
    split
    · rfl
    · rfl
    · exact Loading.settings_foldl_addFile _ _ _ _

/-! ### The errors of templates -/

section Templates

theorem cycle_ofTemplate (names : List Value) : (cycle names).OfTemplate := by
  rw [cycle]
  split
  · exact .general rfl
  · exact .chainNotText

theorem notFound_ofTemplate (name : Value) : (notFound name).OfTemplate := by
  rw [notFound]
  split
  · exact .general rfl
  · exact .numberTooLong

theorem lineageWithin_raises {templates : Table Value Definition} {bound : Nat}
    {visited : List Value} {name : Value} {r : Except Error (List Definition)}
    (h : lineageWithin templates bound visited name = some r) : Raises r Error.OfTemplate := by
  induction bound generalizing visited name r with
  | zero => cases h
  | succ bound ih =>
    rw [lineageWithin] at h
    split at h
    · cases h
      exact .error (cycle_ofTemplate _)
    · cases hkind : name.unhashable? with
      | some kindName =>
        rw [hkind] at h
        cases h
        exact .error (.unhashable kindName)
      | none =>
        cases hget : templates.get? name with
        | none =>
          rw [hkind, hget] at h
          cases h
          exact .error (notFound_ofTemplate name)
        | some d =>
          simp only [hkind, hget] at h
          split at h
          · cases h
            exact .ok _
          · obtain ⟨q, hq, rfl⟩ := Option.map_eq_some_iff.mp h
            exact (ih hq).mapOk _

theorem lineage_raises (s : Store) (name : Value) : Raises (s.lineage name) Error.OfTemplate := by
  rw [lineage]
  cases hwalk : lineageWithin s.templates (s.templates.length + 1) [] name with
  | none => exact .error (notFound_ofTemplate name)
  | some r => exact lineageWithin_raises hwalk

variable [Validation.Reader]

theorem template_raises (s : Store) (name : Value) : Raises (s.template name) Error.OfTemplate := by
  have hresolve : Raises (s.resolve name) Error.OfTemplate := (s.lineage_raises name).mapOk _
  exact hresolve.bind fun d _ ↦ .ite (.mapError .invalid _) (.error .notMapping)

/-- A template has passed the checks of its fields. -/
theorem valid_of_template {s : Store} {name : Value} {spec : Template.Spec}
    (h : s.template name = .ok spec) : spec.Valid := by
  rw [template] at h
  cases hresolve : s.resolve name with
  | error e =>
    rw [hresolve] at h
    cases h
  | ok d =>
    rw [hresolve] at h
    exact Template.Spec.valid_of_ofEntries h

variable [Domain.SuffixList] [Script.Engine]

/-- Options of a template, made with a new registry that was started with the settings of the
store. -/
theorem build_raises {s : Store} {settings : Settings} (hsettings : s.settings = some settings)
    (name : Value) (now : Nat) :
    Raises (s.build name (some (Provider.Registry.new.start s.settings).1) now).result
      Error.OfTemplate := by
  rw [hsettings]
  refine (s.template_raises name).andThen fun spec hspec ↦ .andThen (.ok _) fun r hr ↦ ?_
  cases hr
  have hprovider : Raises (s.providerOf spec) Error.OfTemplate := by
    rw [providerOf, hsettings]
    split
    · exact .ok _
    · exact .ok _
    · next heq => cases heq
  refine hprovider.andThen fun provider _ ↦ ?_
  have hstart := Provider.Registry.templateOptions_raises settings provider
  refine hstart.ofTemplate.andThen fun start _ ↦ ?_
  have happly := Template.Spec.applyTo_raises (valid_of_template hspec) start now
  generalize spec.applyTo start now = applied at happly ⊢
  exact happly.andThen fun _ _ ↦ .ok applied.1

end Templates

end Store
end Provisioning
