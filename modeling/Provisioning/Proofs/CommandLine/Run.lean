import Provisioning.CommandLine.Run
import Provisioning.CommandLine.Words
import Provisioning.Proofs.Review
import Provisioning.Proofs.Store.Refusal

/-!
How commands on a folder end. A command that fails prints what went wrong, unless it ends in an error
of no family that commands report, or the console refuses what is to be printed. Such errors do come
up, while the main file is read as well as while the options of a template are made and shown;
`run_ending` says which they are.
-/

set_option autoImplicit false

namespace Provisioning.CommandLine

open Report (Console Item)
open Review (State)
open Store (Path Tree)

/-! ### Reports -/

/-- The line by which an error is reported. -/
def errorLine (e : Error) : Item :=
  .line ("[red]Error:[/red] " ++ e.message)

/-- A command gives a verdict, or it fails with an error that is not reported, or with one whose line
the console refuses, or with one that is reported. -/
theorem ending_reporting [Console] (x : Action State Bool) (s : State) :
    (∃ valid, x.result s = .ok valid ∧ Ending.of (reporting x) s =
        { code := if valid then 0 else 1, printed := (x.after s).printed }) ∨
      ∃ e, x.result s = .error e ∧
        (e.isAmong reported = false ∧ Ending.of (reporting x) s =
            { code := 1, printed := (x.after s).printed, cause := some e } ∨
          (∃ fault, Console.lines (errorLine e) = .error fault ∧
            Ending.of (reporting x) s =
              { code := 1, printed := (x.after s).printed, cause := some (.unprintable fault) }) ∨
          Ending.of (reporting x) s =
            { code := 1, printed := (x.after s).printed ++ [errorLine e] }) := by
  obtain ⟨hafter, hcases⟩ := Action.catching_cases reported x s
  rw [Ending.of, reporting, Action.result_bind, Action.after_bind, hafter]
  rcases hcases with ⟨valid, hx, hcatch⟩ | ⟨e, hx, ⟨hamong, hcatch⟩ | ⟨hamong, hcatch⟩⟩ <;>
    rw [hcatch]
  · exact .inl ⟨valid, hx, rfl⟩
  · refine .inr ⟨e, hx, .inr ?_⟩
    dsimp only
    rw [Action.result_bind_pure, Action.after_bind_pure]
    rcases Review.print_cases (errorLine e) (x.after s) with
      ⟨_, _, hok, hprinted⟩ | ⟨fault, hlines, herror, hprinted⟩
    · rw [errorLine] at hok hprinted
      rw [hok, hprinted]
      exact .inr rfl
    · rw [errorLine] at herror hprinted
      rw [herror, hprinted]
      exact .inl ⟨fault, hlines, rfl⟩
  · exact .inr ⟨e, hx, .inl ⟨hamong, rfl⟩⟩

/-! ### The work of a command -/

/-- The state in which a command on a folder starts. -/
def start (folder : Path) : State :=
  { store := { home := folder } }

section Work

variable [Domain.SuffixList] [Validation.Reader] [Script.Engine] [Store.Aftermath]

/-- What becomes of the templates that a command builds, one after another. -/
def Command.made (r : Provider.Registry) (st : State) :
    Command → List (Value × Except Error Options)
  | .providers => []
  | .template name _ => Review.made r st [.text name]
  | .validate _ => Review.made r st st.store.names

/-- The families of errors of a template after which a command goes on. -/
def Command.endured : Command → List Family
  | .validate _ => Review.reported
  | _ => []

/-- A command cannot write what it is to print: a value of the options that it shows, or the name of
a template that was not built. -/
def Command.CannotWrite (r : Provider.Registry) (st : State) : Command → Prop
  | .providers => False
  | .template name _ => ∃ o, (Review.build r (.text name)).result st = .ok o ∧
      Review.tableOf (.text name) o = .error .numberTooLong
  | .validate _ => ∃ name e, (name, .error e) ∈ Review.made r st st.store.names ∧
      name.isWritable = false

/-- What a command prints at its end, unless it fails before. -/
def Command.Prints (r : Provider.Registry) (st : State) : Command → Item → Prop
  | .providers, _ => False
  | .template name _, item => ∃ o, (Review.build r (.text name)).result st = .ok o ∧
      Review.tableOf (.text name) o = .ok item
  | .validate _, item => item ∈ Review.verdict r st

variable {r : Provider.Registry} {st : State} {c : Command} {settings : Settings}

/-- With the registry of the settings of a store, templates fail to be built as they do in a single
call. -/
theorem made_raises (hsettings : st.store.settings = some settings)
    (hr : r = (Provider.Registry.new.start (some settings)).1) (names : List Value) :
    ∀ m ∈ Review.made r st names, Raises m.2 Error.OfTemplate := by
  induction names generalizing st with
  | nil => exact List.forall_mem_nil _
  | cons name rest ih =>
    have hbuild : Raises ((Review.build r name).result st) Error.OfTemplate := by
      rw [hr, ← hsettings]
      exact Store.build_raises hsettings name st.clock
    exact List.forall_mem_cons.mpr ⟨hbuild, ih hsettings⟩

variable [Console]

/-- What a command on a folder does once the folder has been loaded. -/
def Command.work (r : Provider.Registry) : Command → Action State Bool
  | .providers => return true
  | .template name _ => do
    Review.template r (.text name)
    return true
  | .validate _ => Review.validate r

/-- What ends the work of a command: a template is not built, and the command does not go on after
that; or it cannot write something, or the console refuses something. -/
inductive Command.Breaks (r : Provider.Registry) (st : State) (c : Command) : Error → Prop
  | unbuilt {name : Value} {e : Error} (h : (name, .error e) ∈ c.made r st) (hof : e.OfTemplate)
      (hendured : e.isAmong c.endured = false) : Breaks r st c e
  | unwritten (h : c.CannotWrite r st) : Breaks r st c .numberTooLong
  | refused {item : Item} {fault : Foreign} (h : c.Prints r st item)
      (hlines : Console.lines item = .error fault) : Breaks r st c (.unprintable fault)

/-- The errors in which the work of a command ends are those that break it. -/
theorem work_raises (hsettings : st.store.settings = some settings)
    (hr : r = (Provider.Registry.new.start (some settings)).1) :
    Raises ((c.work r).result st) (c.Breaks r st) := by
  have hnone (e : Error) : e.isAmong [] = false := by
    rw [Error.isAmong]
    cases e.family? with
    | none => rfl
    | some f => exact List.any_eq_false.mpr fun _ _ ↦ Bool.false_ne_true
  cases c with
  | providers => exact .ok true
  | template name folder =>
    have hmade := made_raises hsettings hr [.text name]
    rw [Command.work, Action.result_bind_pure]
    refine .mapOk _ fun e he ↦ ?_
    rcases Review.template_cases r (.text name) st with
      ⟨e', hbuild, he'⟩ | ⟨o, hbuild, ⟨e', htable, he'⟩ |
        ⟨table, htable, ⟨fault, hlines, he'⟩ | ⟨_, _, hok⟩⟩⟩
    · obtain rfl : e = e' := Except.error.inj (he.symm.trans he')
      have hm : (.text name, .error e) ∈ Review.made r st [.text name] :=
        List.mem_singleton.mpr (Prod.ext rfl hbuild.symm)
      exact .unbuilt hm (hmade _ hm e rfl) (hnone e)
    · obtain rfl : e = e' := Except.error.inj (he.symm.trans he')
      obtain rfl : e = .numberTooLong := Report.ofOptions_raises name o e htable
      exact .unwritten ⟨o, hbuild, htable⟩
    · obtain rfl : e = .unprintable fault := Except.error.inj (he.symm.trans he')
      have hprints : Command.Prints r st (.template name folder) table := ⟨o, hbuild, htable⟩
      exact .refused hprints hlines
    · cases he.symm.trans hok
  | validate folder =>
    have hmade := made_raises hsettings hr st.store.names
    intro e he
    rcases Review.validate_cases r st with
      ⟨e', he', hends, -⟩ | ⟨-, ⟨before, item, rest, fault, heq, hlines, he', -⟩ | ⟨-, hok, -⟩⟩
    · obtain rfl : e = e' := Except.error.inj (he.symm.trans he')
      cases hends with
      | unreported hm hamong => exact .unbuilt hm (hmade _ hm e rfl) hamong
      | unwritten hm hwritable => exact .unwritten ⟨_, _, hm, hwritable⟩
    · obtain rfl : e = .unprintable fault := Except.error.inj (he.symm.trans he')
      have hprints : item ∈ Review.verdict r st := heq ▸ List.mem_append_cons_self
      exact .refused hprints hlines
    · cases he.symm.trans hok

end Work

/-! ### Runs -/

section Runs

variable [Domain.SuffixList] [Markup.Decoder] [Validation.Reader]

/-- A folder is loaded, and then there are some registry and some state. -/
structure Loads (t : Tree) (folder : Path) (r : Provider.Registry) (st : State) : Prop where
  result : (load t).result (start folder) = .ok r
  after : (load t).after (start folder) = st

/-- The registry of a folder that is loaded is the one of its settings. -/
theorem load_cases (t : Tree) (folder : Path) :
    (∃ e, (load t).result (start folder) = .error e ∧ e.OfLoading) ∨
      ∃ r st settings, Loads t folder r st ∧ st.store.settings = some settings ∧
        r = (Provider.Registry.new.start (some settings)).1 := by
  have hraises := Store.load_raises t ({ home := folder } : Store)
  cases hresult : (({ home := folder } : Store).load t).2 with
  | error e =>
    refine .inl ⟨e, ?_, hraises e hresult⟩
    change ((liftM (({ home := folder } : Store).load t).2 : Action State Unit) >>= _).result _ = _
    rw [hresult]
    rfl
  | ok _ =>
    obtain ⟨settings, hsettings⟩ := Store.exists_settings_of_load hresult
    let st : State := { store := (({ home := folder } : Store).load t).1.store }
    have hrun : (load t).run (start folder) =
        (st, .ok (Provider.Registry.new.start (some settings)).1) := by
      change ((liftM (({ home := folder } : Store).load t).2 : Action State Unit) >>= _).run st = _
      rw [hresult, ← hsettings]
      rfl
    exact .inr ⟨_, st, settings, ⟨congrArg (·.2.result) hrun, congrArg (·.1) hrun⟩, hsettings, rfl⟩

variable [Script.Engine] [Store.Aftermath] [Console] {t : Tree} {folder : Path} {c : Command}
  {r : Provider.Registry} {st : State}

/-- What a command on a folder does: it loads the folder and goes to work. -/
def Command.whole (t : Tree) (c : Command) : Action State Bool := do
  let r ← load t
  c.work r

theorem run_of_folder (hfolder : c.folder? = some folder) (t : Tree) :
    c.run t = .of (reporting (c.whole t)) (start folder) := by
  cases c <;> cases hfolder <;> rfl

theorem Loads.result_whole (h : Loads t folder r st) :
    (c.whole t).result (start folder) = (c.work r).result st := by
  rw [Command.whole, Action.result_bind, h.result, h.after]

theorem Loads.after_whole (h : Loads t folder r st) :
    (c.whole t).after (start folder) = (c.work r).after st := by
  rw [Command.whole, Action.after_bind, h.result, h.after]

/-- Lines by which a command on a folder says what went wrong. Only a validation goes into every file
and every template. -/
inductive Describes (t : Tree) (folder : Path) (c : Command) : Item → Prop
  | failure {e : Error} (h : (c.whole t).result (start folder) = .error e) :
    Describes t folder c (errorLine e)
  | complaint {r : Provider.Registry} {st : State} {line : String}
      (hcommand : c = .validate folder) (hload : Loads t folder r st)
      (h : line ∈ Review.complaints r st) : Describes t folder c (.line ("  Error: " ++ line))

/-- Errors in which a command on a folder ends the run: one of loading the folder or of the work
afterwards that is not reported, or the refusal of the line by which one would be reported. -/
inductive Escapes (t : Tree) (folder : Path) (c : Command) : Error → Prop
  | loading {e : Error} (h : (load t).result (start folder) = .error e) (hof : e.OfLoading)
      (hamong : e.isAmong reported = false) : Escapes t folder c e
  | working {r : Provider.Registry} {st : State} {e : Error} (hload : Loads t folder r st)
      (h : c.Breaks r st e) (hamong : e.isAmong reported = false) : Escapes t folder c e
  | reporting {e : Error} {fault : Foreign} (h : (c.whole t).result (start folder) = .error e)
      (hlines : Console.lines (errorLine e) = .error fault) :
    Escapes t folder c (.unprintable fault)

/-- A command that gives a verdict has loaded its folder. -/
theorem exists_loads {valid : Bool} (h : (c.whole t).result (start folder) = .ok valid) :
    ∃ r st, Loads t folder r st := by
  rcases load_cases t folder with ⟨e, he, -⟩ | ⟨r, st, _, hload, -⟩
  · rw [Command.whole, Action.result_bind, he] at h
    cases h
  · exact ⟨r, st, hload⟩

/-- A command fails while its folder is loaded or after that. -/
theorem escapes_of_failure {e : Error} (h : (c.whole t).result (start folder) = .error e)
    (hamong : e.isAmong reported = false) : Escapes t folder c e := by
  rcases load_cases t folder with ⟨e', he, hof⟩ | ⟨r, st, _, hload, hsettings, hr⟩
  · have hfails : (c.whole t).result (start folder) = .error e' := by
      rw [Command.whole, Action.result_bind, he]
    obtain rfl : e = e' := Except.error.inj (h.symm.trans hfails)
    exact .loading he hof hamong
  · rw [hload.result_whole] at h
    exact .working hload (work_raises hsettings hr e h) hamong

/-- If the verdict is good, nothing went wrong. -/
theorem not_describes (h : (c.whole t).result (start folder) = .ok true) (item : Item) :
    ¬Describes t folder c item := by
  intro hitem
  cases hitem with
  | failure he => cases h.symm.trans he
  | complaint hcommand hload hline =>
    subst hcommand
    have hempty := (Review.validate_ok (hload.result_whole.symm.trans h)).1
    rw [List.isEmpty_iff.mp hempty.symm] at hline
    cases hline

/-- If the verdict is bad, a line says what went wrong. -/
theorem exists_describes (hfolder : c.folder? = some folder)
    (h : (c.whole t).result (start folder) = .ok false) :
    ∃ item ∈ ((c.whole t).after (start folder)).printed, Describes t folder c item := by
  obtain ⟨r, st, hload⟩ := exists_loads h
  rw [hload.result_whole] at h
  rw [hload.after_whole]
  cases c with
  | providers => cases hfolder
  | template name folder =>
    rw [Command.work, Action.result_bind_pure] at h
    cases hresult : (Review.template r (.text name)).result st <;> rw [hresult] at h <;> cases h
  | validate folder =>
    cases hfolder
    obtain ⟨hempty, hprinted⟩ := Review.validate_ok h
    obtain ⟨line, hline⟩ : ∃ line, line ∈ Review.complaints r st :=
      List.exists_mem_of_ne_nil _ fun hnil ↦ by rw [hnil] at hempty; cases hempty
    refine ⟨_, ?_, .complaint rfl hload hline⟩
    change _ ∈ ((Review.validate r).after st).printed
    rw [hprinted, Review.verdict, ← hempty]
    exact List.mem_append_right _ (List.mem_cons_of_mem _ (List.mem_map_of_mem hline))

variable [Reader]

section Levels

variable {words : List String} {level : Option String} {request : Request}
  (hread : Reader.read words = .starts level (.ok request))
include hread

theorem run_of_level (h : (({} : LogSetup.Log).setUp (level.getD defaultLevel)).2 = .ok ())
    (t : Tree) : run t words = request.command.run t := by
  unfold run Reading.command
  rw [hread]
  simp only [h]

theorem run_of_noLevel {e : Error}
    (h : (({} : LogSetup.Log).setUp (level.getD defaultLevel)).2 = .error e) (t : Tree) :
    run t words = { code := 1, cause := some e } := by
  unfold run Reading.command
  rw [hread]
  simp only [h]

end Levels

/-- On every tree of files, a command line that asks for a command on a folder ends in one of four
ways. The level of the log may be no level. Otherwise the command ends with the code 0, and then
nothing went wrong, or with the code 1 and a line that says what went wrong, or in an error. The error
is one that commands do not report, of loading the folder or of making or writing the options of a
template, or the console has refused what was to be printed. -/
theorem run_ending {words : List String} {level : Option String} {request : Request}
    (hread : Reader.read words = .starts level (.ok request))
    (hfolder : request.command.folder? = some folder) (t : Tree) :
    (∃ name e, level = some name ∧ (({} : LogSetup.Log).setUp name).2 = .error e ∧
        run t words = { code := 1, cause := some e }) ∨
      ((run t words).cause = none ∧ (run t words).code = 0 ∧
        ∀ item, ¬Describes t folder request.command item) ∨
      ((run t words).cause = none ∧ (run t words).code = 1 ∧
        ∃ item ∈ (run t words).printed, Describes t folder request.command item) ∨
      ∃ e, (run t words).cause = some e ∧ (run t words).code = 1 ∧
        Escapes t folder request.command e := by
  have hlevel : (∃ name e, level = some name ∧ (({} : LogSetup.Log).setUp name).2 = .error e ∧
      run t words = { code := 1, cause := some e }) ∨ run t words = request.command.run t := by
    cases hsetUp : (({} : LogSetup.Log).setUp (level.getD defaultLevel)).2 with
    | ok _ => exact .inr (run_of_level hread hsetUp t)
    | error e =>
      cases level with
      | none => cases hsetUp
      | some name => exact .inl ⟨name, e, rfl, hsetUp, run_of_noLevel hread hsetUp t⟩
  rcases hlevel with hlevel | hrun
  · exact .inl hlevel
  refine .inr ?_
  rw [hrun, run_of_folder hfolder]
  rcases ending_reporting (request.command.whole t) (start folder) with
    ⟨valid, hx, hend⟩ | ⟨e, hx, ⟨hamong, hend⟩ | ⟨fault, hlines, hend⟩ | hend⟩ <;> rw [hend]
  · cases valid with
    | true => exact .inl ⟨rfl, rfl, not_describes hx⟩
    | false => exact .inr (.inl ⟨rfl, rfl, exists_describes hfolder hx⟩)
  · exact .inr (.inr ⟨e, rfl, rfl, escapes_of_failure hx hamong⟩)
  · exact .inr (.inr ⟨_, rfl, rfl, .reporting hx hlines⟩)
  · refine .inr (.inl ⟨rfl, rfl, errorLine e, ?_, .failure hx⟩)
    exact List.mem_append_right _ (List.mem_singleton_self _)

end Runs

/-- A folder whose main file holds a list. -/
def listTree : Tree :=
  [(["d"], .folder), (["d", "config.yaml"], .file (Text.Utf8.encode "- a\n- b\n"))]

theorem read_validate :
    Reader.read ["validate", "-c", "d"] = .starts none (.ok (.validate (some "d"))) := by
  cbv

theorem run_listTree :
    run listTree ["validate", "-c", "d"] = { code := 1, cause := some .notMapping } := by
  rw [run_of_level read_validate rfl]
  cbv

theorem run_ending_list :
    Reader.read ["validate", "-c", "d"] = .starts none (.ok (.validate (some "d"))) ∧
      (Request.validate (some "d")).command.folder? = some (Path.ofText "d") ∧
      ∃ e, (run listTree ["validate", "-c", "d"]).cause = some e ∧
        Escapes listTree (Path.ofText "d") (Request.validate (some "d")).command e := by
  refine ⟨read_validate, rfl, ?_⟩
  rcases run_ending read_validate rfl listTree with
    ⟨_, _, hlevel, _⟩ | ⟨hcause, _⟩ | ⟨hcause, _⟩ | ⟨e, hcause, _, hescapes⟩
  · cases hlevel
  · rw [run_listTree] at hcause
    cases hcause
  · rw [run_listTree] at hcause
    cases hcause
  · exact ⟨e, hcause, hescapes⟩

/-- Not every command on a folder says what went wrong and then exits. -/
theorem run_ends_in_error :
    ¬∀ (t : Tree) (words : List String) (request : Request),
      Reader.read words = .starts none (.ok request) → request.command.folder?.isSome = true →
      (run t words).cause = none ∧
        ((run t words).code = 0 ∨ (run t words).code = 1 ∧ (run t words).printed ≠ []) := by
  intro h
  obtain ⟨hcause, _⟩ := h listTree _ _ read_validate rfl
  rw [run_listTree] at hcause
  cases hcause

end Provisioning.CommandLine
