import Provisioning.Domain.Suffix
import Provisioning.Proofs.Action
import Provisioning.Review
import Provisioning.Script.Template
import Provisioning.Store.Sharing
import Provisioning.Validation.Lax

/-!
What a table of options shows. Each row shows one field, and of keys, scripts and user data not
the content (`formatValue_eq_of_shownAlike`), so that options which differ in nothing else cannot be
told apart by what is printed for them.
-/

set_option autoImplicit false

namespace Provisioning

open Options (Field)

/-- Two contents of a field that are not to be told apart where options are shown. Keys are both
there or both missing, scripts have the same size and content type, and user data have the same
size. Any other field has the same value. -/
def Options.Field.ShownAlike : (f : Field) → f.Content → f.Content → Prop
  | .privateKey, key, key' | .loginPrivateKey, key, key' =>
    Option.isSome key = Option.isSome key'
  | .runScript, script, script' =>
    Option.map (fun s ↦ (s.value.size, s.value.contentType)) script =
      Option.map (fun s ↦ (s.value.size, s.value.contentType)) script'
  | .userData, data, data' => Option.map List.length data = Option.map List.length data'
  | f, x, y => f.toValue x = f.toValue y

/-- Options of one kind whose fields are alike. -/
structure Options.ShownAlike (o p : Options) : Prop where
  kind : o.kind = p.kind
  field : ∀ f x y, o.get? f = some x → p.get? f = some y → f.ShownAlike x y

namespace Report

/-- Contents that are alike are shown in the same way. -/
theorem formatValue_eq_of_shownAlike {f : Field} {x y : f.Content} (h : f.ShownAlike x y) :
    formatValue f.label (f.toValue x) = formatValue f.label (f.toValue y) := by
  cases f with
  | privateKey | loginPrivateKey =>
    match x, y, h with
    | none, none, _ | some _, some _, _ => rfl
  | runScript =>
    match x, y, h with
    | none, none, _ => rfl
    | some s, some t, h =>
      obtain ⟨hsize, hcontentType⟩ := Prod.mk.inj (Option.some.inj h)
      change (s.value.contentType.print >>= fun shown ↦
          pure (toString s.value.size ++ " bytes (" ++ shown ++ ")")) =
        t.value.contentType.print >>= fun shown ↦
          pure (toString t.value.size ++ " bytes (" ++ shown ++ ")")
      rw [hsize, hcontentType]
  | userData =>
    match x, y, h with
    | none, none, _ => rfl
    | some data, some data', h =>
      have hlength : data.length = data'.length := Option.some.inj h
      change Except.ok (toString data.length ++ " bytes") =
        Except.ok (toString data'.length ++ " bytes")
      rw [hlength]
  | _ => exact congrArg _ h

section Tables

variable {o p : Options}

/-- The entry of a field, where options have it. -/
def named? (o : Options) (f : Field) : Option (String × Value) :=
  (o.get? f).map fun content ↦ (f.label, f.toValue content)

theorem row_eq_of_shownAlike (h : o.ShownAlike p) (f : Field) :
    (named? o f).map fieldRow = (named? p f).map fieldRow := by
  have hisSome : (o.get? f).isSome = (p.get? f).isSome := by
    rw [Options.isSome_get?, Options.isSome_get?, h.kind]
  match ho : o.get? f, hp : p.get? f with
  | none, none => rw [named?, named?, ho, hp]
  | some x, some y =>
    rw [named?, named?, ho, hp, Option.map_some, Option.map_some, Option.map_some, Option.map_some,
      fieldRow, fieldRow, formatValue_eq_of_shownAlike (h.field f x y ho hp)]
  | none, some _ | some _, none =>
    rw [ho, hp] at hisSome
    cases hisSome

theorem rows_eq_of_shownAlike (h : o.ShownAlike p) (fs : List Field) :
    (fs.filterMap (named? o)).mapM fieldRow = (fs.filterMap (named? p)).mapM fieldRow := by
  induction fs with
  | nil => rfl
  | cons f rest ih =>
    have hrow := row_eq_of_shownAlike h f
    rw [List.filterMap_cons, List.filterMap_cons]
    match ho : named? o f, hp : named? p f with
    | none, none => exact ih
    | some e, some e' =>
      rw [ho, hp] at hrow
      have hfirst : fieldRow e = fieldRow e' := Option.some.inj hrow
      simp only [List.mapM_cons, hfirst, ih]
    | none, some _ | some _, none =>
      rw [ho, hp] at hrow
      cases hrow

theorem ofOptions_eq_of_shownAlike (name : String) (h : o.ShownAlike p) :
    ofOptions name o = ofOptions name p := by
  have hrows : o.fields.mapM fieldRow = p.fields.mapM fieldRow :=
    rows_eq_of_shownAlike h Field.all
  rw [ofOptions, ofOptions, h.kind, hrows]

/-! ### Tables that cannot be made -/

theorem print_raises (v : Value) : Raises v.print (· = .numberTooLong) :=
  .ite (.ok _) (.error rfl)

/-- A value of a field is shown, unless it holds a number with too many digits. -/
theorem formatValue_raises (name : String) (v : Value) :
    Raises (formatValue name v) (· = .numberTooLong) := by
  cases v with
  | null => exact .ok _
  | payload data contentType => exact .ite (.ok _) (.map _ (print_raises contentType))
  | bytes _ | bool _ => exact .ite (.ok _) (.ok _)
  | tuple xs => exact .ite (.ok _) (.map _ (.mapM print_raises))
  | dict es =>
    have hentry (e : Value × Value) :
        Raises (do return pair (← e.1.print) (← e.2.print)) (· = .numberTooLong) :=
      (print_raises e.1).bind fun _ _ ↦ .map _ (print_raises e.2)
    exact .ite (.ok _) (.map _ (.mapM hentry))
  | _ => exact .ite (.ok _) (print_raises _)

theorem ofOptions_raises (name : String) (o : Options) :
    Raises (ofOptions name o) (· = .numberTooLong) :=
  .map _ (.mapM fun e ↦ .map _ (formatValue_raises e.1 e.2))

end Tables

end Report

namespace Review

section Shown

variable [Report.Console] {st : State}

/-- An item, if the console takes it. -/
def taken (item : Report.Item) : Except Error Report.Item := do
  let _ ← (Report.Console.lines item).mapError .unprintable
  return item

/-- The table of options under the name of a template, if it can be made. -/
def tableOf (name : Value) (o : Options) : Except Error Report.Item := do
  Report.ofOptions (← name.print) o

/-- What is printed for the options of a template, if it can be made and the console takes it. -/
def shown (name : Value) (o : Options) : Except Error Report.Item := do
  taken (← tableOf name o)

theorem run_print (item : Report.Item) (st : State) :
    (print item).result st = (taken item).map (fun _ ↦ ()) ∧
      (print item).after st =
        { st with printed := st.printed ++ (taken item).toOption.toList } := by
  rw [print, taken]
  cases Report.Console.lines item with
  | error fault => exact ⟨rfl, congrArg (State.mk _ · _) (List.append_nil _).symm⟩
  | ok _ => exact ⟨rfl, rfl⟩

variable [Domain.SuffixList] [Validation.Reader] [Script.Engine] [Store.Aftermath]
  {r : Provider.Registry} {name : Value} {o : Options}

/-- The options of a template are shown once they have been built. -/
theorem template_of_built (h : (build r name).result st = .ok o) :
    (template r name).result st = (shown name o).map (fun _ ↦ ()) ∧
      (template r name).after st = { (build r name).after st with
        printed := st.printed ++ (shown name o).toOption.toList } := by
  have hnone : (build r name).after st =
      { (build r name).after st with printed := st.printed ++ [] } :=
    congrArg (State.mk _ · _) (List.append_nil _).symm
  rw [template, Action.result_bind, Action.after_bind, h, shown, tableOf]
  dsimp only
  cases name.print with
  | error e => exact ⟨rfl, hnone⟩
  | ok title =>
    rw [Action.liftM_ok_bind]
    change _ = (Report.ofOptions title o >>= taken).map _ ∧
      _ = { (build r name).after st with
        printed := st.printed ++ (Report.ofOptions title o >>= taken).toOption.toList }
    cases Report.ofOptions title o with
    | error e => exact ⟨rfl, hnone⟩
    | ok item =>
      rw [Action.liftM_ok_bind]
      exact run_print item _

/-- Options that differ only in the contents of their keys, scripts and user data, not in the sizes
of the latter two, have the same table, and templates from which they are built are shown in the
same way. -/
theorem indistinguishable {o p : Options} (h : o.ShownAlike p) :
    (∀ name, Report.ofOptions name o = Report.ofOptions name p) ∧
      ∀ (st st' : State) (r q : Provider.Registry) (name : Value),
        (build r name).result st = .ok o → (build q name).result st' = .ok p →
          (template r name).result st = (template q name).result st' ∧
            ∃ items, ((template r name).after st).printed = st.printed ++ items ∧
              ((template q name).after st').printed = st'.printed ++ items := by
  refine ⟨fun name ↦ Report.ofOptions_eq_of_shownAlike name h, fun st st' r q name ho hp ↦ ?_⟩
  have hshown : shown name o = shown name p := by
    simp only [shown, tableOf, Report.ofOptions_eq_of_shownAlike _ h]
  obtain ⟨hresult, hprinted⟩ := template_of_built ho
  obtain ⟨hresult', hprinted'⟩ := template_of_built hp
  rw [hresult, hresult', hprinted, hprinted', hshown]
  exact ⟨rfl, _, rfl, rfl⟩

end Shown

/-- Two keys, scripts and user data on options that agree otherwise. -/
theorem indistinguishable_awsEc2 :
    Report.ofOptions "web"
        ⟨{ privateKey := some "-----BEGIN A", userMetadata := [("role", "db")],
           runScript := some ⟨⟨[35, 33], Payload.shellScript⟩, 0⟩ },
          .awsEc2 { userData := some [1, 2] } {}, false⟩ =
      Report.ofOptions "web"
        ⟨{ privateKey := some "-----BEGIN ELSE", userMetadata := [("role", "db")],
           runScript := some ⟨⟨[108, 115], Payload.shellScript⟩, 1⟩ },
          .awsEc2 { userData := some [3, 4] } {}, false⟩ := by
  refine (indistinguishable ?_).1 "web"
  refine ⟨Eq.refl Options.Kind.awsEc2, fun f x y hx hy ↦ ?_⟩
  cases f <;> cases hx <;> cases hy <;> rfl

end Review
end Provisioning
