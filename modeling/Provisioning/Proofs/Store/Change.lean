import Provisioning.Proofs.Store.Loaded
import Provisioning.Store.Change

/-!
Whether the files of a loaded store have changed. What counts are the main file and the template
files in the folder that the settings name (`Relevant`). If all of them can be read, now as when the
store was loaded, the answer is yes just if one has come or gone or has another text
(`hasChanged_iff_of_readable`). A file that could not be read when the store was loaded counts as
new from the start, and one that cannot be read any more may be an error instead of an answer
(`hasChanged_of_load`).
-/

set_option autoImplicit false

namespace Provisioning.Store

/-! ### What counts -/

/-- A path counts: that of the main file, if it is there, or that of a template file in the folder
of the settings. -/
def Relevant (s : Store) (settings : Settings) (t : Tree) (p : Path) : Prop :=
  p = s.mainFile ∧ (t.entry? p).isSome = true ∨
    ∃ here name, t.locate? (s.folder settings) = some here ∧ here ++ [name] ∈ t.keys ∧
      name.endsWith templateSuffix = true ∧ p = s.folder settings ++ [name]

/-- There is a text at a path. -/
def Readable (t : Tree) (p : Path) : Prop :=
  ∃ text, t.readText p = .ok text

/-- All paths that count can be read. -/
def AllReadable (s : Store) (t : Tree) : Prop :=
  ∀ settings p, s.settings = some settings → s.Relevant settings t p → Readable t p

/-- What counts in a tree are the paths that counted in an earlier one and could be read there. -/
def SamePaths (s : Store) (settings : Settings) (t t' : Tree) : Prop :=
  ∀ p, s.Relevant settings t' p ↔ s.Relevant settings t p ∧ Readable t p

variable {s s' : Store} {t t' : Tree} {settings : Settings} {p : Path} {files : List Path}

theorem relevant_iff : s.Relevant settings t p ↔ p = s.mainFile ∧ (t.entry? p).isSome = true ∨
    ∃ name ∈ templateFiles t (s.folder settings), p = s.folder settings ++ [name] := by
  simp only [Relevant, templateFiles, List.mem_filter, Tree.mem_names_iff]
  grind

theorem filesIn_eq (ht : t.WellFormed) (folder : Path) :
    filesIn t folder = templateFiles t folder := by
  rw [filesIn]
  split
  · rfl
  · next hnone =>
    refine (List.eq_nil_iff_forall_not_mem.mpr fun name hname ↦ hnone ?_).symm
    rw [Tree.entry?_of_mem_names ht (List.mem_filter.mp hname).1]
    rfl

/-! ### The question and its parts -/

/-- The files that are there now are those that count, unless their folder cannot be looked up. -/
theorem currentFiles_spec (hsettings : s.settings = some settings)
    (hmain : t.refuses s.mainFile = false) :
    t.refuses (s.folder settings) = true ∧
        s.currentFiles t = .error (.longPath (s.folder settings).toText) ∨
      t.refuses (s.folder settings) = false ∧
        ∃ files, s.currentFiles t = .ok files ∧ ∀ p, p ∈ files ↔ s.Relevant settings t p := by
  have hhas : t.has? s.mainFile = .ok (t.entry? s.mainFile).isSome :=
    Tree.has?_eq_ok_iff.mpr ⟨hmain, rfl⟩
  cases hfolder : t.refuses (s.folder settings) with
  | true =>
    have hlong : t.has? (s.folder settings) = .error (.longPath (s.folder settings).toText) :=
      if_pos hfolder
    refine .inl ⟨rfl, ?_⟩
    simp [currentFiles, hhas, hsettings, hlong, bind, Except.bind]
  | false =>
    have hlookup : t.has? (s.folder settings) = .ok (t.entry? (s.folder settings)).isSome :=
      Tree.has?_eq_ok_iff.mpr ⟨hfolder, rfl⟩
    refine .inr ⟨rfl, (if (t.entry? s.mainFile).isSome = true then [s.mainFile] else []) ++
      (templateFiles t (s.folder settings)).map fun name ↦ s.folder settings ++ [name], by
      simp only [currentFiles, hhas, hsettings, hlookup, bind, Except.bind, pure, Except.pure],
      fun p ↦ ?_⟩
    rw [relevant_iff, List.mem_append, List.mem_map]
    refine or_congr ?_ (by simp only [eq_comm])
    split
    · next hthere =>
      rw [List.mem_singleton]
      exact ⟨fun hp ↦ ⟨hp, hp ▸ hthere⟩, And.left⟩
    · next hgone =>
      exact iff_of_false List.not_mem_nil fun hp ↦ hgone (hp.1 ▸ hp.2)

/-- A path has the text that was kept for it. -/
def Unchanged (s : Store) (t : Tree) (p : Path) : Prop :=
  ∃ text, t.readText p = .ok text ∧ s.texts.get? p = some text

/-- Either all texts are as before, or the first path that has another text or none decides. -/
theorem hasOtherText_cases (s : Store) (t : Tree) (files : List Path) :
    (∀ p ∈ files, s.Unchanged t p) ∧ s.hasOtherText t files = .ok false ∨
      ∃ p ∈ files, ¬s.Unchanged t p ∧
        s.hasOtherText t files = (t.readText p).map fun _ ↦ true := by
  induction files with
  | nil => exact .inl ⟨by simp, rfl⟩
  | cons p rest ih =>
    cases hread : t.readText p with
    | error e =>
      refine .inr ⟨p, List.mem_cons_self, ?_, by rw [hasOtherText, hread]; rfl⟩
      rintro ⟨text, htext, -⟩
      cases hread.symm.trans htext
    | ok text =>
      have hstep : s.hasOtherText t (p :: rest) =
          if s.texts.get? p == some text then s.hasOtherText t rest else .ok true := by
        rw [hasOtherText, hread]
        rfl
      by_cases hsame : s.texts.get? p = some text
      · rw [hstep, if_pos (beq_iff_eq.mpr hsame)]
        rcases ih with ⟨hall, hrest⟩ | ⟨q, hq, hchanged, hrest⟩
        · exact .inl ⟨List.forall_mem_cons.mpr ⟨⟨text, hread, hsame⟩, hall⟩, hrest⟩
        · exact .inr ⟨q, List.mem_cons_of_mem p hq, hchanged, hrest⟩
      · refine .inr ⟨p, List.mem_cons_self, ?_, ?_⟩
        · rintro ⟨text', htext, hkept⟩
          cases hread.symm.trans htext
          exact hsame hkept
        · rw [hstep, if_neg (mt beq_iff_eq.mp hsame), hread]
          rfl

/-- The texts are looked at only if the paths are those that were read before. -/
theorem hasChanged_eq (hfiles : s.currentFiles t = .ok files) :
    (∀ p, p ∈ files ↔ p ∈ s.texts.keys) ∧ s.hasChanged t = s.hasOtherText t files ∨
      (∃ p, ¬(p ∈ files ↔ p ∈ s.texts.keys)) ∧ s.hasChanged t = .ok true := by
  have hsame : (files.all s.texts.has && s.texts.keys.all files.contains) = true ↔
      ∀ p, p ∈ files ↔ p ∈ s.texts.keys := by
    simp only [Bool.and_eq_true, List.all_eq_true, Table.has_eq_true_iff, List.contains_iff_mem]
    exact ⟨fun h p ↦ ⟨h.1 p, h.2 p⟩, fun h ↦ ⟨fun p ↦ (h p).mp, fun p ↦ (h p).mpr⟩⟩
  have hopen : s.hasChanged t =
      if (files.all s.texts.has && s.texts.keys.all files.contains) = true then
        s.hasOtherText t files
      else .ok true := by
    rw [hasChanged, hfiles]
    rfl
  by_cases hpaths : ∀ p, p ∈ files ↔ p ∈ s.texts.keys
  · exact .inl ⟨hpaths, hopen.trans (if_pos (hsame.mpr hpaths))⟩
  · exact .inr ⟨not_forall.mp hpaths, hopen.trans (if_neg (mt hsame.mp hpaths))⟩

/-! ### After a loading -/

namespace Loaded

variable (h : Loaded s t settings s') (ht : t.WellFormed)
include h

theorem mainFile_eq : s'.mainFile = s.mainFile := by
  rw [mainFile, mainFile, h.home_eq]

theorem folder_eq : s'.folder settings = s.folder settings := by
  rw [Store.folder, Store.folder, h.home_eq]

theorem relevant_eq : s'.Relevant settings = s.Relevant settings := by
  funext u q
  rw [Relevant, Relevant, h.mainFile_eq, h.folder_eq]

include ht

/-- The paths that a loading reads are those that count. -/
theorem mem_watched_iff : p ∈ s.watched t settings ↔ s'.Relevant settings t p := by
  have hmain : (t.entry? s.mainFile).isSome = true := (Tree.has?_eq_ok_iff.mp h.main).2
  rw [watched, filesIn_eq ht, List.mem_cons, List.mem_map, h.relevant_eq, relevant_iff]
  refine or_congr ⟨fun hp ↦ ⟨hp, hp ▸ hmain⟩, And.left⟩ ?_
  simp only [eq_comm]

theorem get?_texts_iff {text : String} :
    s'.texts.get? p = some text ↔ s'.Relevant settings t p ∧ t.readText p = .ok text := by
  rw [h.texts, h.mem_watched_iff ht]

theorem mem_keys_texts_iff : p ∈ s'.texts.keys ↔ s'.Relevant settings t p ∧ Readable t p := by
  simp only [← Table.exists_get?_iff, h.get?_texts_iff ht, exists_and_left, Readable]

/-- A path that was read has the text it had just if it can still be read. -/
theorem unchanged_iff (hp : s'.Relevant settings t p ∧ Readable t p) :
    s'.Unchanged t' p ↔ t'.readText p = t.readText p := by
  obtain ⟨hrelevant, text, htext⟩ := hp
  simp only [Unchanged, h.get?_texts_iff ht, hrelevant, true_and]
  constructor
  · rintro ⟨text', hnow, hthen⟩
    rw [hnow, hthen]
  · intro hsame
    exact ⟨text, hsame.trans htext, htext⟩

/-- The main file can be looked up for ever, as it was there. -/
theorem refuses_mainFile (t' : Tree) : t'.refuses s'.mainFile = false := by
  rw [h.mainFile_eq]
  exact Tree.refuses_eq_false_of_has? ht h.main t'

/-- A folder that cannot be looked up any more was not there. -/
theorem hasChanged_of_refuses (hrefuses : t'.refuses (s'.folder settings) = true) :
    t.entry? (s'.folder settings) = none ∧
      s'.hasChanged t' = .error (.longPath (s'.folder settings).toText) := by
  constructor
  · rw [h.folder_eq] at hrefuses ⊢
    refine Option.not_isSome_iff_eq_none.mp fun hthere ↦ ?_
    have hhas := Tree.has?_eq_ok_iff.mpr ⟨h.folder, hthere⟩
    cases (Tree.refuses_eq_false_of_has? ht hhas t').symm.trans hrefuses
  · rcases currentFiles_spec h.settings_eq (h.refuses_mainFile ht t') with
      ⟨-, hfiles⟩ | ⟨hno, -⟩
    · rw [hasChanged, hfiles]
      rfl
    · cases hno.symm.trans hrefuses

/-- What decides whether the files of a loaded store have changed. The paths that count are compared
with those that could be read, and only if these are the same, so are the texts. -/
theorem hasChanged_cases (hrefuses : t'.refuses (s'.folder settings) = false) :
    ¬s'.SamePaths settings t t' ∧ s'.hasChanged t' = .ok true ∨
      s'.SamePaths settings t t' ∧
        ((∀ p, s'.Relevant settings t' p → t'.readText p = t.readText p) ∧
            s'.hasChanged t' = .ok false ∨
          ∃ p, s'.Relevant settings t' p ∧ t'.readText p ≠ t.readText p ∧
            s'.hasChanged t' = (t'.readText p).map fun _ ↦ true) := by
  rcases currentFiles_spec h.settings_eq (h.refuses_mainFile ht t') with
    ⟨hyes, -⟩ | ⟨-, files, hfiles, hmem⟩
  · cases hyes.symm.trans hrefuses
  have hopen := hasChanged_eq hfiles
  simp only [hmem, h.mem_keys_texts_iff ht] at hopen
  rcases hopen with ⟨hsame, htexts⟩ | ⟨hother, hanswer⟩
  · refine .inr ⟨hsame, ?_⟩
    rw [htexts]
    rcases s'.hasOtherText_cases t' files with ⟨hall, hanswer⟩ | ⟨p, hp, hchanged, hanswer⟩
    · refine .inl ⟨fun p hp ↦ ?_, hanswer⟩
      exact (h.unchanged_iff ht ((hsame p).mp hp)).mp (hall p ((hmem p).mpr hp))
    · have hrelevant := (hmem p).mp hp
      exact .inr ⟨p, hrelevant, mt (h.unchanged_iff ht ((hsame p).mp hrelevant)).mpr hchanged,
        hanswer⟩
  · exact .inl ⟨not_forall.mpr hother, hanswer⟩

/-- Right after a loading, only files that cannot be read make a difference. -/
theorem hasChanged_self :
    ∃ changed, s'.hasChanged t = .ok changed ∧
      (changed = true ↔ ∃ p, s'.Relevant settings t p ∧ ¬Readable t p) := by
  have hsame : s'.SamePaths settings t t ↔ ¬∃ p, s'.Relevant settings t p ∧ ¬Readable t p := by
    simp [SamePaths]
  have hfolder : t.refuses (s'.folder settings) = false := h.folder_eq ▸ h.folder
  rcases h.hasChanged_cases ht hfolder with
    ⟨hother, hanswer⟩ | ⟨hpaths, ⟨-, hanswer⟩ | ⟨p, -, hne, -⟩⟩
  · exact ⟨true, hanswer, iff_of_true rfl (not_not.mp (mt hsame.mpr hother))⟩
  · exact ⟨false, hanswer, iff_of_false Bool.false_ne_true (hsame.mp hpaths)⟩
  · exact absurd rfl hne

end Loaded

variable {l : Loading}

/-- Let all files that count be readable, now as when the store was loaded. Then they have changed
just if one has come or gone or has another text. The one exception is a folder of template files
that was not there: it may have become one that cannot be looked up, because there is now a folder
in which a name is asked for that is too long. -/
theorem hasChanged_iff_of_readable [Markup.Decoder] [Validation.Reader] (ht : t.WellFormed)
    (hload : s.load t = (l, .ok ()))
    (hold : l.store.AllReadable t) (hnew : l.store.AllReadable t') :
    ∃ settings, l.store.settings = some settings ∧
      (t'.refuses (l.store.folder settings) = true →
        t.entry? (l.store.folder settings) = none ∧
          l.store.hasChanged t' = .error (.longPath (l.store.folder settings).toText)) ∧
      (t'.refuses (l.store.folder settings) = false →
        ∃ changed, l.store.hasChanged t' = .ok changed ∧
          (changed = true ↔
            (∃ p, ¬(l.store.Relevant settings t' p ↔ l.store.Relevant settings t p)) ∨
              ∃ p, l.store.Relevant settings t' p ∧ t'.readText p ≠ t.readText p)) := by
  obtain ⟨settings, h⟩ := exists_loaded hload
  have hsame : l.store.SamePaths settings t t' ↔
      ∀ p, l.store.Relevant settings t' p ↔ l.store.Relevant settings t p :=
    forall_congr' fun p ↦ by rw [and_iff_left_of_imp (hold settings p h.settings_eq)]
  refine ⟨settings, h.settings_eq, h.hasChanged_of_refuses ht, fun hrefuses ↦ ?_⟩
  rw [← not_forall, ← hsame]
  rcases h.hasChanged_cases ht hrefuses with ⟨hother, hanswer⟩ |
    ⟨hpaths, ⟨htexts, hanswer⟩ | ⟨p, hp, htext, hanswer⟩⟩
  · exact ⟨true, hanswer, iff_of_true rfl (.inl hother)⟩
  · refine ⟨false, hanswer, iff_of_false Bool.false_ne_true ?_⟩
    rintro (hother | ⟨p, hp, hne⟩)
    · exact hother hpaths
    · exact hne (htexts p hp)
  · obtain ⟨text, hnow⟩ := hnew settings p h.settings_eq hp
    rw [hnow] at hanswer
    exact ⟨true, hanswer, iff_of_true rfl (.inr ⟨p, hp, htext⟩)⟩

/-- A tree with one template file, which has some contents. -/
def oneFile (contents : Bytes) : Tree :=
  [(["config.yaml"], .file []), (["templates"], .folder),
    (["templates", "a.yaml"], .file contents)]

theorem readSettings_oneFile (contents : Bytes) :
    readSettings (oneFile contents) { store := { home := [] } } =
      ({ store := { home := [], texts := [(["config.yaml"], "")] } }, .ok {}) := by
  cbv

/-- A loading of such a tree succeeds, whatever becomes of the file. -/
theorem load_oneFile_eq (contents : Bytes) :
    load { home := [] } (oneFile contents) =
      (Loading.addFile (oneFile contents) ["templates"]
        { store := { home := [], settings := some {}, texts := [(["config.yaml"], "")] } } "a.yaml",
        .ok ()) := by
  have hfolder : folder { home := [] } {} = ["templates"] := by cbv
  have hhas : (oneFile contents).has? ["templates"] = .ok true := by cbv
  have hfiles : templateFiles (oneFile contents) ["templates"] = ["a.yaml"] := by cbv
  rw [load_eq, fresh, readSettings_oneFile]
  simp [Loading.readTemplates, Loading.withSettings, hfolder, hhas, hfiles]

/-- An empty store loaded from a tree with one template file. -/
def loadedOneFile : Loading :=
  { store :=
      { home := []
        settings := some {}
        templates := [(.text "a", [])]
        texts := [(["config.yaml"], ""), (["templates", "a.yaml"], "a:")] } }

theorem load_oneFile :
    load { home := [] } (oneFile (Text.Utf8.encode "a:")) = (loadedOneFile, .ok ()) := by
  rw [load_oneFile_eq]
  cbv

theorem relevant_oneFile {contents : Bytes}
    (h : loadedOneFile.store.Relevant {} (oneFile contents) p) :
    p = ["config.yaml"] ∨ p = ["templates", "a.yaml"] := by
  rcases h with ⟨hp, -⟩ | ⟨here, name, hlocate, hkey, -, hp⟩
  · exact .inl (hp.trans (by cbv))
  · have hfolder : loadedOneFile.store.folder {} = ["templates"] := by cbv
    rw [hfolder] at hlocate hp
    obtain rfl : here = ["templates"] := Option.some.inj (hlocate.symm.trans rfl)
    simp [oneFile, Table.keys] at hkey
    exact .inr (hkey ▸ hp)

/-- After a change to the text of its template file, the files of a store have changed. -/
theorem hasChanged_oneFile :
    (oneFile (Text.Utf8.encode "a:")).WellFormed ∧
      loadedOneFile.store.AllReadable (oneFile (Text.Utf8.encode "a:")) ∧
      loadedOneFile.store.AllReadable (oneFile (Text.Utf8.encode "b:")) ∧
      loadedOneFile.store.hasChanged (oneFile (Text.Utf8.encode "b:")) = .ok true := by
  have ht : (oneFile (Text.Utf8.encode "a:")).WellFormed := by decide
  have hreadable (contents : Bytes) (text : String)
      (htext : (oneFile contents).readText ["templates", "a.yaml"] = .ok text) :
      loadedOneFile.store.AllReadable (oneFile contents) := by
    intro settings p hsettings hp
    obtain rfl : settings = {} := (Option.some.inj hsettings).symm
    rcases relevant_oneFile hp with rfl | rfl
    · exact ⟨"", by cbv⟩
    · exact ⟨text, htext⟩
  have hold := hreadable (Text.Utf8.encode "a:") "a:" (by cbv)
  have hnew := hreadable (Text.Utf8.encode "b:") "b:" (by cbv)
  obtain ⟨settings, hsettings, -, hanswer⟩ := hasChanged_iff_of_readable ht load_oneFile hold hnew
  obtain rfl : settings = {} := (Option.some.inj hsettings).symm
  obtain ⟨changed, hchanged, hiff⟩ := hanswer (by cbv)
  have hyes : changed = true := by
    refine hiff.mpr (.inr ⟨["templates", "a.yaml"], .inr ⟨["templates"], "a.yaml", by cbv, by decide,
      by cbv, by cbv⟩, ?_⟩)
    have hnow : (oneFile (Text.Utf8.encode "b:")).readText ["templates", "a.yaml"] = .ok "b:" := by
      cbv
    have hthen : (oneFile (Text.Utf8.encode "a:")).readText ["templates", "a.yaml"] = .ok "a:" := by
      cbv
    rw [hnow, hthen]
    simp
  exact ⟨ht, hold, hnew, hyes ▸ hchanged⟩

/-- Right after a loading, the files have changed just if one that counts cannot be read. Later they
have changed if what counts is not just what could be read then. If it is, they have not changed as
long as all texts are as they were. Where a text is another one, or cannot be read any more, the
first such text decides: the answer is yes or the error of the reading. -/
theorem hasChanged_of_load [Markup.Decoder] [Validation.Reader] (ht : t.WellFormed)
    (hload : s.load t = (l, .ok ())) :
    ∃ settings, l.store.settings = some settings ∧
      (∃ changed, l.store.hasChanged t = .ok changed ∧
        (changed = true ↔ ∃ p, l.store.Relevant settings t p ∧ ¬Readable t p)) ∧
      ∀ t' : Tree,
        (t'.refuses (l.store.folder settings) = true →
          t.entry? (l.store.folder settings) = none ∧
            l.store.hasChanged t' = .error (.longPath (l.store.folder settings).toText)) ∧
        (t'.refuses (l.store.folder settings) = false →
          (¬l.store.SamePaths settings t t' → l.store.hasChanged t' = .ok true) ∧
            (l.store.SamePaths settings t t' →
              (l.store.hasChanged t' = .ok false ↔
                ∀ p, l.store.Relevant settings t' p → t'.readText p = t.readText p) ∧
              (l.store.hasChanged t' = .ok true →
                ∃ p text, l.store.Relevant settings t' p ∧ t'.readText p = .ok text ∧
                  t.readText p ≠ .ok text) ∧
              ∀ e, l.store.hasChanged t' = .error e →
                ∃ p, l.store.Relevant settings t' p ∧ t'.readText p = .error e)) := by
  obtain ⟨settings, h⟩ := exists_loaded hload
  refine ⟨settings, h.settings_eq, h.hasChanged_self ht, fun t' ↦
    ⟨h.hasChanged_of_refuses ht, fun hrefuses ↦ ?_⟩⟩
  rcases h.hasChanged_cases ht hrefuses with ⟨hother, hanswer⟩ |
    ⟨hpaths, ⟨htexts, hanswer⟩ | ⟨p, hp, htext, hanswer⟩⟩
  · exact ⟨fun _ ↦ hanswer, fun hpaths ↦ absurd hpaths hother⟩
  · rw [hanswer]
    exact ⟨fun hother ↦ absurd hpaths hother, fun _ ↦ ⟨iff_of_true rfl htexts, nofun, nofun⟩⟩
  · refine ⟨fun hother ↦ absurd hpaths hother, fun _ ↦ ?_⟩
    rw [hanswer]
    cases hnow : t'.readText p with
    | error e =>
      refine ⟨iff_of_false nofun fun htexts ↦ htext (htexts p hp), nofun, ?_⟩
      rintro _ ⟨⟩
      exact ⟨p, hp, hnow⟩
    | ok text =>
      refine ⟨iff_of_false nofun fun htexts ↦ htext (htexts p hp), fun _ ↦ ?_, nofun⟩
      exact ⟨p, text, hp, hnow, fun hthen ↦ htext (hnow.trans hthen.symm)⟩

theorem load_oneFile_notUtf8 :
    (load { home := [] } (oneFile [255])).2 = .ok () ∧
      (load { home := [] } (oneFile [255])).1.store.settings = some {} ∧
      (load { home := [] } (oneFile [255])).1.store.home = [] := by
  rw [load_oneFile_eq]
  exact ⟨rfl, by cbv, by cbv⟩

/-- A file that is not UTF-8 counts as new even before anything has been touched. -/
theorem hasChanged_oneFile_notUtf8 :
    (oneFile [255]).WellFormed ∧ (load { home := [] } (oneFile [255])).2 = .ok () ∧
      (load { home := [] } (oneFile [255])).1.store.hasChanged (oneFile [255]) = .ok true := by
  have ht : (oneFile [255]).WellFormed := by decide
  obtain ⟨hok, hsettings, hhome⟩ := load_oneFile_notUtf8
  obtain ⟨settings, hsettings', ⟨changed, hchanged, hiff⟩, -⟩ :=
    hasChanged_of_load ht (Prod.ext rfl hok : load { home := [] } (oneFile [255]) = (_, .ok ()))
  obtain rfl : settings = {} := Option.some.inj (hsettings'.symm.trans hsettings)
  have hfolder : (load { home := [] } (oneFile [255])).1.store.folder {} = ["templates"] := by
    rw [folder, hhome]
    cbv
  have hread : (oneFile [255]).readText ["templates", "a.yaml"] =
      .error (.undecodable (.utf8 ⟨0, [255], .startByte⟩)) := by cbv
  have hyes : changed = true := by
    refine hiff.mpr ⟨["templates", "a.yaml"], .inr ⟨["templates"], "a.yaml", ?_, by decide, by cbv,
      by rw [hfolder]; rfl⟩, ?_⟩
    · rw [hfolder]
      cbv
    · rintro ⟨text, htext⟩
      cases hread.symm.trans htext
  exact ⟨ht, hok, hyes ▸ hchanged⟩

/-- Neither is the answer no as long as nothing has been touched, nor is there always an answer. -/
theorem hasChanged_may_fail :
    (¬∀ (s : Store) (t : Tree) (l : Loading), t.WellFormed → s.load t = (l, .ok ()) →
        l.store.hasChanged t = .ok false) ∧
      ¬∀ (s : Store) (t t' : Tree) (l : Loading), t.WellFormed → t'.WellFormed →
        s.load t = (l, .ok ()) → ∃ changed, l.store.hasChanged t' = .ok changed := by
  constructor
  · intro h
    have hno := h { home := [] } (oneFile [255]) _ (by decide) (Prod.ext rfl load_oneFile_notUtf8.1)
    have hyes : (load { home := [] } (oneFile [255])).1.store.hasChanged (oneFile [255]) =
        .ok true := by
      cbv
    cases hyes.symm.trans hno
  · intro h
    obtain ⟨changed, hchanged⟩ := h { home := [] } (oneFile (Text.Utf8.encode "a:"))
      (oneFile [255]) loadedOneFile (by decide) (by decide) load_oneFile
    have herror : loadedOneFile.store.hasChanged (oneFile [255]) =
        .error (.undecodable (.utf8 ⟨0, [255], .startByte⟩)) := by
      cbv
    cases herror.symm.trans hchanged

end Provisioning.Store
