import Provisioning.Store.Basic

/-!
What a loading takes over from earlier ones. Reading does not look at the settings and the templates
that a store has, so it may as well take place in a new store (`readSettings_onto`). From where the
new settings are known, nothing of the earlier ones is left. Each part of a loading writes to some
components of the store and keeps the others (`Loading.addFile_keeps`).
-/

set_option autoImplicit false

namespace Provisioning.Store

/-- A store of the same folder that has not loaded anything. -/
def fresh (s : Store) : Store :=
  { home := s.home }

/-- The texts with that of one more path, if it can be read. -/
def noteText (t : Tree) (p : Path) (texts : Table Path String) : Table Path String :=
  match t.readText p with
  | .ok text => texts.put p text
  | .error _ => texts

namespace Loading

/-- A loading with the settings and templates of a store in place of its own. -/
def onto (l : Loading) (s : Store) : Loading :=
  { l with store := { l.store with settings := s.settings, templates := s.templates } }

/-- A loading with some settings. -/
def withSettings (l : Loading) (settings : Settings) : Loading :=
  { l with store := { l.store with settings := some settings } }

variable (l : Loading) (s : Store) (t : Tree) (p : Path)

theorem readText_onto :
    (l.onto s).readText t p = ((l.readText t p).1.onto s, (l.readText t p).2) := by
  simp only [readText]
  cases t.readText p <;> rfl

theorem note_keeps {l l' : Loading} {name : Value} (h : l.note p name = .ok l') :
    ∃ notices, l' = { l with notices } := by
  simp only [note] at h
  split at h
  · cases h
    exact ⟨l.notices, rfl⟩
  · split at h
    · cases h
      exact ⟨_, rfl⟩
    · cases h

theorem define_keeps (named : List (Value × Value)) (l : Loading) :
    ∃ templates notices, (define p named l).1 =
      { store := { l.store with templates }, notices } := by
  induction named generalizing l with
  | nil => exact ⟨l.store.templates, l.notices, rfl⟩
  | cons e rest ih =>
    simp only [define]
    split
    · exact ⟨_, _, rfl⟩
    · next l' hnote =>
      obtain ⟨notices, rfl⟩ := note_keeps p hnote
      split
      · exact ⟨_, _, rfl⟩
      · exact ih _

variable [Markup.Decoder]

theorem readDocument_onto :
    (l.onto s).readDocument t p = ((l.readDocument t p).1.onto s, (l.readDocument t p).2) := by
  simp only [readDocument, readText_onto]
  rcases l.readText t p with ⟨l', e | text⟩ <;> rfl

/-- Reading a document leaves everything but the texts as it was. -/
theorem readDocument_fst : (l.readDocument t p).1 =
    { l with store := { l.store with texts := noteText t p l.store.texts } } := by
  simp only [readDocument, readText, noteText]
  cases t.readText p <;> rfl

theorem readDocument_keeps :
    ∃ texts, (l.readDocument t p).1 = { l with store := { l.store with texts } } :=
  ⟨_, l.readDocument_fst t p⟩

/-- Besides templates and notices, reading a file changes the texts only. -/
theorem readFile_keeps :
    ∃ templates notices, (l.readFile t p).1 =
      { store := { l.store with templates, texts := noteText t p l.store.texts }, notices } := by
  have hdocument := l.readDocument_fst t p
  rw [readFile]
  rcases hread : l.readDocument t p with ⟨l', e | document⟩ <;> rw [hread] at hdocument <;>
    obtain rfl : l' = _ := hdocument
  · exact ⟨_, _, rfl⟩
  · simp only
    split
    · exact ⟨_, _, rfl⟩
    · exact define_keeps p _ _

theorem addFile_keeps (name : String) :
    ∃ templates failures notices, addFile t p l name =
      { store := { l.store with
          templates, failures, texts := noteText t (p ++ [name]) l.store.texts }, notices } := by
  obtain ⟨templates, notices, hkeeps⟩ := l.readFile_keeps t (p ++ [name])
  rw [addFile]
  rcases hread : l.readFile t (p ++ [name]) with ⟨l', flaw | _⟩ <;> rw [hread] at hkeeps <;>
    obtain rfl : l' = _ := hkeeps <;> exact ⟨_, _, _, rfl⟩

/-- Templates can always be read from a folder that can be looked up. -/
theorem readTemplates_error {e : Error} (h : (l.readTemplates t p).2 = .error e) :
    t.refuses p = true ∧
      (l.readTemplates t p).1 = { l with store := { l.store with templates := [] } } := by
  cases hrefuses : t.refuses p with
  | true =>
    have hhas : t.has? p = .error (.longPath p.toText) := if_pos hrefuses
    simp only [readTemplates, hhas, and_self]
  | false =>
    have hhas : t.has? p = .ok (t.entry? p).isSome := if_neg (Bool.not_eq_true _ ▸ hrefuses)
    simp only [readTemplates, hhas] at h
    cases hsome : (t.entry? p).isSome <;> rw [hsome] at h <;> cases h

end Loading

variable [Markup.Decoder] [Validation.Reader]

theorem readSettings_onto (l : Loading) (s : Store) (t : Tree) :
    readSettings t (l.onto s) = ((readSettings t l).1.onto s, (readSettings t l).2) := by
  have hmain : (l.onto s).store.mainFile = l.store.mainFile := rfl
  simp only [readSettings, hmain, Loading.readDocument_onto]
  rcases t.has? l.store.mainFile with e | _ | _
  · rfl
  · rfl
  · simp only
    rcases l.readDocument t l.store.mainFile with ⟨l', e | document⟩ <;> rfl

theorem readSettings_keeps (l : Loading) (t : Tree) :
    ∃ texts, (readSettings t l).1 = { l with store := { l.store with texts } } := by
  simp only [readSettings]
  rcases t.has? l.store.mainFile with e | _ | _
  · exact ⟨l.store.texts, rfl⟩
  · exact ⟨l.store.texts, rfl⟩
  · obtain ⟨texts, h⟩ := l.readDocument_keeps t l.store.mainFile
    simp only
    rcases hread : l.readDocument t l.store.mainFile with ⟨l', e | document⟩ <;> rw [hread] at h <;>
      exact ⟨texts, h⟩

/-- A loading reads the settings as a new store would. -/
theorem load_eq (s : Store) (t : Tree) :
    s.load t = match readSettings t { store := s.fresh } with
      | (l, .error e) => (l.onto s, .error e)
      | (l, .ok settings) => (l.withSettings settings).readTemplates t (s.folder settings) := by
  have hstart : readSettings t { store := { s with failures := [], texts := [] } } =
      ((readSettings t { store := s.fresh }).1.onto s, (readSettings t { store := s.fresh }).2) :=
    readSettings_onto { store := s.fresh } s t
  rw [load, hstart]
  rcases readSettings t { store := s.fresh } with ⟨l, e | settings⟩ <;> rfl

/-- A loading of a new store and the loading of any store of the same folder have the same result.
If they succeed, nothing of what the store had before is left. If they fail before the new settings
are known, the store keeps its settings and templates. They may still fail afterwards, if the folder
of the templates cannot be looked up, and then the store has the new settings and no templates. No
failure of an earlier loading is left in either case. -/
theorem load_spec (s : Store) (t : Tree) :
    (s.load t).2 = (s.fresh.load t).2 ∧
      ((s.fresh.load t).2 = .ok () → (s.load t).1 = (s.fresh.load t).1) ∧
      ∀ e, (s.fresh.load t).2 = .error e →
        (s.load t).1.store.failures = [] ∧
          (s.load t).1.store.texts = (s.fresh.load t).1.store.texts ∧
          match (s.fresh.load t).1.store.settings with
          | none => (s.load t).1.store.settings = s.settings ∧
              (s.load t).1.store.templates = s.templates
          | some settings => t.refuses (s.folder settings) = true ∧
              (s.load t).1 = (s.fresh.load t).1 ∧ (s.load t).1.store.templates = [] := by
  have hload := load_eq s t
  have hloadFresh := load_eq s.fresh t
  have hfresh : s.fresh.fresh = s.fresh := rfl
  obtain ⟨texts, hkeeps⟩ := readSettings_keeps { store := s.fresh } t
  rw [hfresh] at hloadFresh
  rcases hread : readSettings t { store := s.fresh } with ⟨l, e | settings⟩
  · rw [hread] at hload hloadFresh hkeeps
    obtain rfl : l = { store := { s.fresh with texts } } := hkeeps
    rw [hload, hloadFresh]
    exact ⟨rfl, nofun, fun _ _ ↦ ⟨rfl, rfl, rfl, rfl⟩⟩
  · rw [hread] at hload hloadFresh hkeeps
    obtain rfl : l = { store := { s.fresh with texts } } := hkeeps
    have hsame : s.load t = s.fresh.load t := hload.trans hloadFresh.symm
    rw [hsame]
    refine ⟨rfl, fun _ ↦ rfl, fun e he ↦ ?_⟩
    rw [hloadFresh] at he ⊢
    obtain ⟨hrefuses, hafter⟩ := Loading.readTemplates_error _ _ _ he
    rw [hafter]
    exact ⟨rfl, rfl, hrefuses, rfl, rfl⟩

end Provisioning.Store
