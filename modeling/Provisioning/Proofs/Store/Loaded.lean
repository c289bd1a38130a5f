import Provisioning.Proofs.Store.Templates

/-!
Stores that have been loaded. A loading goes well just if the main file gives settings and their
folder can be looked up (`load_eq_ok_iff`), and the template files are then read one after another
(`exists_load_eq`). The texts that are kept to find changes are those of the main file and of all
template files that could be read, whatever came of them (`exists_loaded`).
-/

set_option autoImplicit false

namespace Provisioning.Store

/-- The texts that are kept are those of some paths, as far as they can be read. -/
def TextsOf (t : Tree) (ps : List Path) (texts : Table Path String) : Prop :=
  ∀ q text, texts.get? q = some text ↔ q ∈ ps ∧ t.readText q = .ok text

theorem TextsOf.note {t : Tree} {ps : List Path} {texts : Table Path String}
    (h : TextsOf t ps texts) (p : Path) : TextsOf t (ps ++ [p]) (noteText t p texts) := by
  intro q text
  rw [noteText, List.mem_append, List.mem_singleton]
  cases hread : t.readText p with
  | error e =>
    have hnot : ¬(q = p ∧ t.readText q = .ok text) := by
      rintro ⟨rfl, hq⟩
      cases hread.symm.trans hq
    rw [or_and_right, h q text]
    exact (or_iff_left hnot).symm
  | ok text' =>
    by_cases hq : q = p
    · subst hq
      simp [Table.get?_put_self, hread]
    · simp only [Table.get?_put_of_ne (Ne.symm hq), h q text, hq, or_false]

/-! ### Stores that have been loaded -/

/-- The main file and the template files of a folder. -/
def watched (s : Store) (t : Tree) (settings : Settings) : List Path :=
  s.mainFile :: (filesIn t (s.folder settings)).map fun name ↦ s.folder settings ++ [name]

/-- A store that has been loaded from a tree with some settings. -/
structure Loaded (s : Store) (t : Tree) (settings : Settings) (s' : Store) : Prop where
  home_eq : s'.home = s.home
  settings_eq : s'.settings = some settings
  texts : TextsOf t (s.watched t settings) s'.texts
  main : t.has? s.mainFile = .ok true
  folder : t.refuses (s.folder settings) = false

/-! ### Reading the files -/

variable [Markup.Decoder]

/-- After the files of a folder have been read, the texts are also those of these files. -/
theorem Loading.foldl_addFile_keeps (t : Tree) (folder : Path) (names : List String)
    {ps : List Path} {l : Loading}
    (h : TextsOf t ps l.store.texts) :
    ∃ templates failures texts notices, names.foldl (addFile t folder) l =
        { store := { l.store with templates, failures, texts }, notices } ∧
      TextsOf t (ps ++ names.map fun name ↦ folder ++ [name]) texts := by
  induction names generalizing ps l with
  | nil => exact ⟨_, _, _, _, rfl, by simpa using h⟩
  | cons name rest ih =>
    obtain ⟨templates, failures, notices, hadd⟩ := l.addFile_keeps t folder name
    have hnote : TextsOf t (ps ++ [folder ++ [name]]) (addFile t folder l name).store.texts := by
      rw [hadd]
      exact h.note (folder ++ [name])
    obtain ⟨templates', failures', texts', notices', hfold, htexts⟩ := ih hnote
    refine ⟨templates', failures', texts', notices', ?_, ?_⟩
    · rw [List.foldl_cons, hfold, hadd]
    · rwa [List.append_assoc, List.singleton_append] at htexts

/-! ### When a loading goes well -/

variable [Validation.Reader] {s : Store} {t : Tree} {settings : Settings}

/-- Where settings can be read, the main file is there and its text has been kept. -/
theorem main_of_readSettings (h : (readSettings t { store := s.fresh }).2 = .ok settings) :
    t.has? s.mainFile = .ok true ∧
      ∃ text, t.readText s.mainFile = .ok text ∧
        (readSettings t { store := s.fresh }).1 =
          { store := { s.fresh with texts := [(s.mainFile, text)] } } := by
  have hmain : s.fresh.mainFile = s.mainFile := rfl
  simp only [readSettings, hmain, Loading.readDocument, Loading.readText] at h ⊢
  rcases hhas : t.has? s.mainFile with e | _ | _
  · rw [hhas] at h
    cases h
  · rw [hhas] at h
    cases h
  · rw [hhas] at h
    rcases hread : t.readText s.mainFile with e | text
    · rw [hread] at h
      cases h
    · rw [hread] at h
      rcases hdocument : (Markup.Decoder.decode text).mapError Error.markup with e | document
      · simp only [hdocument] at h
        cases h
      · exact ⟨rfl, text, rfl, by simp [hdocument, fresh, Table.put]⟩

/-- Once the settings are known, the rest of a loading is reading the template files. -/
theorem exists_load_eq (hsettings : (readSettings t { store := s.fresh }).2 = .ok settings)
    (hfolder : t.refuses (s.folder settings) = false) :
    ∃ l : Loading, TextsOf t [s.mainFile] l.store.texts ∧
      l.store = { home := s.home, settings := some settings, texts := l.store.texts } ∧
      s.load t = ((filesIn t (s.folder settings)).foldl
        (Loading.addFile t (s.folder settings)) l, .ok ()) := by
  obtain ⟨_, text, htext, hfst⟩ := main_of_readSettings hsettings
  have hread : readSettings t { store := s.fresh } = (_, .ok settings) := Prod.ext hfst hsettings
  have hload := load_eq s t
  rw [hread] at hload
  have hhas : t.has? (s.folder settings) = .ok (t.entry? (s.folder settings)).isSome :=
    Tree.has?_eq_ok_iff.mpr ⟨hfolder, rfl⟩
  have htexts : TextsOf t [s.mainFile] [(s.mainFile, text)] := by
    intro q text'
    rw [List.mem_singleton]
    by_cases hq : q = s.mainFile
    · subst hq
      simp [Table.get?, htext]
    · simp [Table.get?, hq, Ne.symm hq]
  rw [hload, filesIn]
  simp only [Loading.readTemplates, hhas]
  cases (t.entry? (s.folder settings)).isSome with
  | true => exact ⟨_, htexts, rfl, rfl⟩
  | false => exact ⟨_, htexts, rfl, rfl⟩

/-- A loading goes well just if settings can be read and their folder can be looked up. -/
theorem load_eq_ok_iff : (s.load t).2 = .ok () ↔
    ∃ settings, (readSettings t { store := s.fresh }).2 = .ok settings ∧
      t.refuses (s.folder settings) = false := by
  constructor
  · intro h
    rw [load_eq] at h
    rcases hread : readSettings t { store := s.fresh } with ⟨l, e | settings⟩ <;> rw [hread] at h
    · cases h
    · refine ⟨settings, rfl, Bool.eq_false_iff.mpr fun hrefuses ↦ ?_⟩
      have hhas : t.has? (s.folder settings) = .error (.longPath (s.folder settings).toText) :=
        if_pos hrefuses
      simp only [Loading.readTemplates, hhas] at h
      cases h
  · rintro ⟨settings, hsettings, hfolder⟩
    obtain ⟨l, _, _, hload⟩ := exists_load_eq hsettings hfolder
    rw [hload]

theorem exists_loaded {l : Loading} (h : s.load t = (l, .ok ())) :
    ∃ settings, Loaded s t settings l.store := by
  obtain ⟨settings, hsettings, hfolder⟩ := load_eq_ok_iff.mp (congrArg Prod.snd h)
  obtain ⟨hmain, -⟩ := main_of_readSettings hsettings
  obtain ⟨read, htexts, hstore, hload⟩ := exists_load_eq hsettings hfolder
  obtain ⟨templates, failures, texts, notices, hfold, hkept⟩ :=
    Loading.foldl_addFile_keeps t (s.folder settings) (filesIn t (s.folder settings)) htexts
  cases h.symm.trans hload
  rw [hfold, hstore]
  exact ⟨settings, rfl, rfl, hkept, hmain, hfolder⟩

end Provisioning.Store
