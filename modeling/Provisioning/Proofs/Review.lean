import Provisioning.Proofs.Report
import Provisioning.Proofs.Store.Building
import Provisioning.Proofs.Store.Change
import Provisioning.Proofs.Template.Reapplication
import Provisioning.Proofs.Text.Utf8
import Provisioning.Store.Sharing

/-!
What a review of all templates comes to. The templates are built one after another, each in the state
that those before it have left (`made`). A review that comes to an end has a line for each template
that could not be built, in the order of the names, and it accepts a store just if there was none and
all files were read. A template that was built in the review can also be shown, wherever it is built
with the same result, if the values of its options can be written and the console takes the table.
-/

set_option autoImplicit false

namespace Provisioning.Review

open Report (Console Item)

/-! ### Building templates one after another -/

/-- A review goes on after a template: it was built, or there is a line for it, because its error is
one of those that are reported and its name can be written. -/
def Endures (m : Value × Except Error Options) : Prop :=
  ∀ e, m.2 = .error e → e.isAmong reported = true ∧ m.1.isWritable = true

/-- The line for a template, if it was not built. -/
def lineFor (m : Value × Except Error Options) : Option String :=
  match m.2 with
  | .ok _ => none
  | .error e => some (m.1.display ++ ": " ++ e.message)

/-- What ends a review early: an error of a template that is not reported, or a name that cannot be
written into a line. -/
inductive Ends (ms : List (Value × Except Error Options)) : Error → Prop
  | unreported {name : Value} {e : Error} (h : (name, .error e) ∈ ms)
      (hamong : e.isAmong reported = false) : Ends ms e
  | unwritten {name : Value} {e : Error} (h : (name, .error e) ∈ ms)
      (hwritable : name.isWritable = false) : Ends ms .numberTooLong

theorem Ends.cons {ms : List (Value × Except Error Options)} {e : Error} (h : Ends ms e)
    (m : Value × Except Error Options) : Ends (m :: ms) e := by
  cases h with
  | unreported h hamong => exact .unreported (List.mem_cons_of_mem m h) hamong
  | unwritten h hwritable => exact .unwritten (List.mem_cons_of_mem m h) hwritable

section Building

variable [Domain.SuffixList] [Validation.Reader] [Script.Engine] [Store.Aftermath]
  {r : Provider.Registry} {st : State} {name : Value}

theorem result_build (r : Provider.Registry) (name : Value) (st : State) :
    (build r name).result st = (st.store.build name (some r) st.clock).result := rfl

/-- What building several templates comes to, one after another, each in the state that those before
it have left. -/
def made (r : Provider.Registry) : State → List Value → List (Value × Except Error Options)
  | _, [] => []
  | st, name :: rest =>
    (name, (build r name).result st) :: made r ((build r name).after st) rest

/-- A template is built and passed over, or there is a line for it, or it ends the review. -/
theorem failures_cons (r : Provider.Registry) (st : State) (name : Value) (rest : List Value) :
    (∃ o, (build r name).result st = .ok o ∧ (failures r (name :: rest)).result st =
        (failures r rest).result ((build r name).after st)) ∨
      ∃ e, (build r name).result st = .error e ∧
        (e.isAmong reported = true ∧ name.isWritable = true ∧
            (failures r (name :: rest)).result st =
              ((failures r rest).result ((build r name).after st)).map
                ((name.display ++ ": " ++ e.message) :: ·) ∨
          e.isAmong reported = true ∧ name.isWritable = false ∧
            (failures r (name :: rest)).result st = .error .numberTooLong ∨
          e.isAmong reported = false ∧ (failures r (name :: rest)).result st = .error e) := by
  obtain ⟨hafter, hcases⟩ := Action.catching_cases reported (build r name) st
  rw [failures, Action.result_bind, hafter]
  rcases hcases with ⟨o, ho, hcatch⟩ | ⟨e, he, ⟨hamong, hcatch⟩ | ⟨hamong, hcatch⟩⟩
  · rw [hcatch]
    exact .inl ⟨o, ho, rfl⟩
  · rw [hcatch]
    refine .inr ⟨e, he, ?_⟩
    cases hname : name.isWritable with
    | true =>
      refine .inl ⟨hamong, rfl, ?_⟩
      have hline : lineOf name e = .ok (name.display ++ ": " ++ e.message) := by
        rw [lineOf, Value.print, if_pos hname]
        rfl
      dsimp only
      rw [hline, Action.liftM_ok_bind]
      exact Action.result_bind_pure _ _ _
    | false =>
      refine .inr (.inl ⟨hamong, rfl, ?_⟩)
      have hline : lineOf name e = .error .numberTooLong := by
        rw [lineOf, Value.print, if_neg (by rw [hname]; exact Bool.false_ne_true)]
        rfl
      dsimp only
      rw [hline]
      rfl
  · rw [hcatch]
    exact .inr ⟨e, he, .inr (.inr ⟨hamong, rfl⟩)⟩

/-- There are lines just if the review goes on after each template. -/
theorem failures_eq_ok_iff {names : List Value} {lines : List String} :
    (failures r names).result st = .ok lines ↔
      (∀ m ∈ made r st names, Endures m) ∧ lines = (made r st names).filterMap lineFor := by
  induction names generalizing st lines with
  | nil => exact ⟨fun h ↦ ⟨List.forall_mem_nil _, (Except.ok.inj h).symm⟩, fun h ↦ h.2 ▸ rfl⟩
  | cons name rest ih =>
    rw [made, List.forall_mem_cons]
    rcases failures_cons r st name rest with
      ⟨o, ho, hcons⟩ | ⟨e, he, ⟨hamong, hname, hcons⟩ | ⟨-, hname, hcons⟩ | ⟨hamong, hcons⟩⟩
    · have hendures : Endures (name, .ok o) := nofun
      rw [hcons, ho, List.filterMap_cons_none rfl, and_iff_right hendures]
      exact ih
    · have hendures : Endures (name, .error e) := by
        rintro _ ⟨⟩
        exact ⟨hamong, hname⟩
      have hline : lineFor (name, .error e) = some (name.display ++ ": " ++ e.message) := rfl
      rw [hcons, he, List.filterMap_cons_some hline, and_iff_right hendures]
      cases hrest : (failures r rest).result ((build r name).after st) with
      | error e' =>
        refine ⟨nofun, fun h ↦ ?_⟩
        cases hrest.symm.trans (ih.mpr ⟨h.1, rfl⟩)
      | ok more =>
        obtain ⟨hall, rfl⟩ := ih.mp hrest
        rw [and_iff_right hall]
        exact ⟨fun h ↦ (Except.ok.inj h).symm, fun h ↦ h ▸ rfl⟩
    · rw [hcons, he]
      refine ⟨nofun, fun h ↦ ?_⟩
      cases hname.symm.trans (h.1.1 e rfl).2
    · rw [hcons, he]
      refine ⟨nofun, fun h ↦ ?_⟩
      cases hamong.symm.trans (h.1.1 e rfl).1

theorem failures_raises (names : List Value) :
    Raises ((failures r names).result st) (Ends (made r st names)) := by
  induction names generalizing st with
  | nil => exact .ok []
  | cons name rest ih =>
    have hrest : Raises ((failures r rest).result ((build r name).after st))
        (Ends (made r st (name :: rest))) := ih.mono fun _ h ↦ h.cons _
    rcases failures_cons r st name rest with
      ⟨_, _, hcons⟩ | ⟨e, he, ⟨_, _, hcons⟩ | ⟨_, hname, hcons⟩ | ⟨hamong, hcons⟩⟩ <;> rw [hcons]
    · exact hrest
    · exact hrest.mapOk _
    · rw [made, he]
      exact .error (.unwritten List.mem_cons_self hname)
    · rw [made, he]
      exact .error (.unreported List.mem_cons_self hamong)

/-- Nothing is printed while the templates are built. -/
theorem failures_keeps (names : List Value) : (failures r names).Keeps State.printed := by
  induction names with
  | nil => exact fun _ ↦ rfl
  | cons name rest ih =>
    have hbuild : ((build r name).catching reported).Keeps State.printed := fun _ ↦ rfl
    refine hbuild.bind fun built ↦ ?_
    cases built with
    | ok o => exact ih
    | error e =>
      exact ((Action.readsOnly_ofOutcome _).keeps _).bind fun _ ↦ ih.bind fun _ _ ↦ rfl

end Building

/-! ### Printing -/

section Printing

variable [Console] {st : State}

/-- Something is printed, or the console refuses it. -/
theorem print_cases (item : Item) (st : State) :
    (∃ lines, Console.lines item = .ok lines ∧ (print item).result st = .ok () ∧
        (print item).after st = { st with printed := st.printed ++ [item] }) ∨
      ∃ fault, Console.lines item = .error fault ∧
        (print item).result st = .error (.unprintable fault) ∧ (print item).after st = st := by
  obtain ⟨hresult, hafter⟩ := run_print item st
  rw [hresult, hafter, taken]
  cases Console.lines item with
  | error fault =>
    exact .inr ⟨fault, rfl, rfl, congrArg (State.mk _ · _) (List.append_nil st.printed)⟩
  | ok lines => exact .inl ⟨lines, rfl, rfl, rfl⟩

/-- All of several things are printed, or those before the first that the console refuses. -/
theorem printAll_cases (items : List Item) (st : State) :
    (∀ item ∈ items, ∃ lines, Console.lines item = .ok lines) ∧
        (printAll items).result st = .ok () ∧
        (printAll items).after st = { st with printed := st.printed ++ items } ∨
      ∃ before item rest fault, items = before ++ item :: rest ∧
        Console.lines item = .error fault ∧
        (printAll items).result st = .error (.unprintable fault) ∧
        (printAll items).after st = { st with printed := st.printed ++ before } := by
  induction items generalizing st with
  | nil =>
    refine .inl ⟨List.forall_mem_nil _, rfl, ?_⟩
    exact congrArg (State.mk _ · _) (List.append_nil _).symm
  | cons item rest ih =>
    rw [printAll, Action.result_bind, Action.after_bind]
    rcases print_cases item st with ⟨lines, hlines, hok, hafter⟩ | ⟨fault, hlines, herror, hafter⟩
    · rw [hok, hafter]
      rcases ih { st with printed := st.printed ++ [item] } with
        ⟨hall, hrest, hprinted⟩ | ⟨before, other, more, fault, rfl, hother, hrest, hprinted⟩
      · refine .inl ⟨List.forall_mem_cons.mpr ⟨⟨lines, hlines⟩, hall⟩, hrest, hprinted.trans ?_⟩
        simp
      · refine .inr ⟨item :: before, other, more, fault, rfl, hother, hrest, hprinted.trans ?_⟩
        simp
    · rw [herror, hafter]
      refine .inr ⟨[], item, rest, fault, rfl, hlines, rfl, ?_⟩
      exact congrArg (State.mk _ · _) (List.append_nil _).symm

/-- Printing several things and giving an answer. -/
theorem printAll_return_cases (items : List Item) (valid : Bool) (st : State) :
    (∃ before item rest fault, items = before ++ item :: rest ∧ Console.lines item = .error fault ∧
        (do printAll items; return valid : Action State Bool).result st =
          .error (.unprintable fault) ∧
        ((do printAll items; return valid : Action State Bool).after st).printed =
          st.printed ++ before) ∨
      (∀ item ∈ items, ∃ lines, Console.lines item = .ok lines) ∧
        (do printAll items; return valid : Action State Bool).result st = .ok valid ∧
        ((do printAll items; return valid : Action State Bool).after st).printed =
          st.printed ++ items := by
  rw [Action.result_bind_pure, Action.after_bind_pure]
  rcases printAll_cases items st with
    ⟨hall, hok, hafter⟩ | ⟨before, item, rest, fault, heq, hlines, herror, hafter⟩
  · rw [hok, hafter]
    exact .inr ⟨hall, rfl, rfl⟩
  · rw [herror, hafter]
    exact .inl ⟨before, item, rest, fault, heq, hlines, rfl, rfl⟩

end Printing

/-! ### The review as a whole -/

section Reviews

variable [Domain.SuffixList] [Validation.Reader] [Script.Engine] [Store.Aftermath]
  {r : Provider.Registry} {st : State}

/-- The complaints about a store: the failures of its files, and a line for each template that was
not built. -/
def complaints (r : Provider.Registry) (st : State) : List String :=
  st.store.failures.map Store.Failure.message ++ (made r st st.store.names).filterMap lineFor

/-- What is printed in a review that comes to an end. -/
def verdict (r : Provider.Registry) (st : State) : List Item :=
  if (complaints r st).isEmpty then accepted st.store.names.length r.providers.length
  else rejected (complaints r st)

variable [Console]

/-- A review ends while the templates are built, or at something that the console refuses, or it comes
to an end. -/
theorem validate_cases (r : Provider.Registry) (st : State) :
    (∃ e, (validate r).result st = .error e ∧ Ends (made r st st.store.names) e ∧
        ¬(∀ m ∈ made r st st.store.names, Endures m) ∧
        ((validate r).after st).printed = st.printed) ∨
      (∀ m ∈ made r st st.store.names, Endures m) ∧
        ((∃ before item rest fault, verdict r st = before ++ item :: rest ∧
            Console.lines item = .error fault ∧
            (validate r).result st = .error (.unprintable fault) ∧
            ((validate r).after st).printed = st.printed ++ before) ∨
          (∀ item ∈ verdict r st, ∃ lines, Console.lines item = .ok lines) ∧
            (validate r).result st = .ok (complaints r st).isEmpty ∧
            ((validate r).after st).printed = st.printed ++ verdict r st) := by
  have hkept := failures_keeps (r := r) st.store.names st
  rw [validate, Action.result_bind, Action.after_bind, Action.result_state, Action.after_state]
  dsimp only
  rw [Action.result_bind, Action.after_bind]
  cases hfailures : (failures r st.store.names).result st with
  | error e =>
    refine .inl ⟨e, rfl, failures_raises _ e hfailures, fun hall ↦ ?_, hkept⟩
    cases hfailures.symm.trans (failures_eq_ok_iff.mpr ⟨hall, rfl⟩)
  | ok lines =>
    obtain ⟨hall, rfl⟩ := failures_eq_ok_iff.mp hfailures
    refine .inr ⟨hall, ?_⟩
    have hprinted : ((failures r st.store.names).after st).printed = st.printed := hkept
    have hlines : st.store.failures.map Store.Failure.message ++
        (made r st st.store.names).filterMap lineFor = complaints r st := rfl
    dsimp only
    rw [hlines, verdict, ← hprinted]
    generalize (failures r st.store.names).after st = st'
    cases (complaints r st).isEmpty with
    | true => exact printAll_return_cases _ true st'
    | false => exact printAll_return_cases _ false st'

/-- What a review that comes to an end answers and has printed. -/
theorem validate_ok {valid : Bool} (h : (validate r).result st = .ok valid) :
    valid = (complaints r st).isEmpty ∧
      ((validate r).after st).printed = st.printed ++ verdict r st := by
  rcases validate_cases r st with
    ⟨e, he, -⟩ | ⟨-, ⟨before, item, rest, fault, -, -, he, -⟩ | ⟨-, hok, hprinted⟩⟩
  · cases h.symm.trans he
  · cases h.symm.trans he
  · exact ⟨Except.ok.inj (h.symm.trans hok), hprinted⟩

/-- A template is not built, or its table cannot be made, or the console refuses the table, or it is
shown. -/
theorem template_cases (r : Provider.Registry) (name : Value) (st : State) :
    (∃ e, (build r name).result st = .error e ∧ (template r name).result st = .error e) ∨
      ∃ o, (build r name).result st = .ok o ∧
        ((∃ e, tableOf name o = .error e ∧ (template r name).result st = .error e) ∨
          ∃ table, tableOf name o = .ok table ∧
            ((∃ fault, Console.lines table = .error fault ∧
                (template r name).result st = .error (.unprintable fault)) ∨
              ∃ lines, Console.lines table = .ok lines ∧ (template r name).result st = .ok ())) := by
  cases hbuild : (build r name).result st with
  | error e =>
    refine .inl ⟨e, rfl, ?_⟩
    rw [template, Action.result_bind, hbuild]
  | ok o =>
    refine .inr ⟨o, rfl, ?_⟩
    rw [(template_of_built hbuild).1, shown]
    cases tableOf name o with
    | error e => exact .inl ⟨e, rfl, rfl⟩
    | ok table =>
      refine .inr ⟨table, rfl, ?_⟩
      change (∃ fault, _ ∧ (taken table).map _ = _) ∨ ∃ lines, _ ∧ (taken table).map _ = _
      rw [taken]
      cases Console.lines table with
      | error fault => exact .inl ⟨fault, rfl, rfl⟩
      | ok lines => exact .inr ⟨lines, rfl, rfl⟩

end Reviews

/-- A file that could not be used, and a template that can be built between two that cannot. -/
def mixedStore : Store :=
  { home := []
    settings := some {}
    templates :=
      [(.text "a", [(.text "extends", .text "z")]), (.text "b", []),
        (.text "c", [(.text "provider", .text "p")])]
    failures := [⟨"x.yaml", .notNamed "list"⟩] }

/-! ### A template that can be made once -/

open Store (Definition oneFile)
open Template.Spec (onceScript once applyTo_once applyTo_once_again left_once)

/-- A template file in which a script appends to a list. -/
def onceText : String :=
  "web:\n  run_script: \"" ++ onceScript ++ "\"\n  variables: \x7bxs: []\x7d\n"

/-- The tokens of the file. -/
def onceTokens : List Markup.Token :=
  [.blockDict, .key, .scalar "web" true, .value, .blockDict, .key, .scalar "run_script" true,
    .value, .scalar onceScript false, .key, .scalar "variables" true, .value, .openDict, .key,
    .scalar "xs" true, .value, .openList, .closeList, .closeDict, .blockEnd, .blockEnd]

/-- The node that they make up. -/
def onceNode : Markup.Node :=
  .dict .dict
    [(.scalar .text "web", .dict .dict
      [(.scalar .text "run_script", .scalar .text onceScript),
        (.scalar .text "variables", .dict .dict [(.scalar .text "xs", .list .list [])])])]

/-- The definition in the file, with the items that the list holds. -/
def onceBody (items : List Value) : Definition :=
  [(.text "run_script", .text onceScript), (.text "variables", .dict [(.text "xs", .list items)])]

/-- The store that holds the definition. -/
def onceStore (items : List Value) : Store :=
  { home := []
    settings := some {}
    templates := [(.text "web", onceBody items)]
    texts := [(["config.yaml"], ""), (["templates", "a.yaml"], onceText)] }

/-- A registry that was started with the settings of the store. -/
def onceRegistry : Provider.Registry :=
  (Provider.Registry.new.start (some {})).1

set_option maxRecDepth 20000 in
theorem ofText?_onceText : Markup.Token.ofText? onceText = some onceTokens := rfl

end Provisioning.Review

