import Provisioning.Table
import Provisioning.Validation.Report

/-!
Checks of values against what they should be. What text, number, list or dictionary a value stands
for is for a reader to say, as is the wording of reports; everything here works with any reader.
Checks of the parts of a value are all made, and their issues are collected in order.
-/

set_option autoImplicit false

namespace Provisioning.Validation

/-- A reader of values: it gives what a value stands for, or the rule that the value breaks. It also
words reports, in which it gives the place of an entry by a step made from its key. -/
class Reader where
  text : Value → Except Rule String
  whole : Value → Except Rule Int
  number : Value → Except Rule Float
  flag : Value → Except Rule Bool
  items : Value → Except Rule (List Value)
  entries : Value → Except Rule (List (Value × Value))
  step : (key : Value) → Step
  report : (title : String) → List Issue → String

/-- What was accepted, or the issues that stand against it. -/
inductive Checked (α : Type)
  | good (a : α)
  | bad (issues : List Issue)

namespace Checked

variable {α β : Type}

/-- What was accepted, changed. -/
def map (f : α → β) : Checked α → Checked β
  | good a => good (f a)
  | bad issues => bad issues

/-- Two results at once; the issues of both are kept. -/
def seq (f : Checked (α → β)) (x : Unit → Checked α) : Checked β :=
  match f, x () with
  | good f, good a => good (f a)
  | good _, bad issues => bad issues
  | bad issues, good _ => bad issues
  | bad issues, bad more => bad (issues ++ more)

instance : Applicative Checked where
  pure := good
  map := map
  seq := seq

/-- The result with one more step in front of the path of each issue. -/
def under (s : Step) : Checked α → Checked α
  | good a => good a
  | bad issues => bad (issues.map (Issue.under s))

/-- The result as a success or a report. -/
def toExcept [Reader] (title : String) : Checked α → Except Report α
  | good a => .ok a
  | bad issues => .error ⟨title, issues, Reader.report title issues⟩

end Checked

/-- A check of a value. -/
abbrev Check (α : Type) := Value → Checked α

variable {α : Type}

/-- Refuses a value. -/
def against (rule : Rule) (input : Value) : Checked α :=
  .bad [⟨[], rule, input⟩]

/-- A check that breaks a single rule if it fails. -/
def Check.of (f : Value → Except Rule α) : Check α := fun v ↦
  match f v with
  | .ok a => .good a
  | .error rule => against rule v

/-- One check after another, both made on the same value. -/
def Check.andThen {β : Type} (c : Check α) (f : α → Except Rule β) : Check β := fun v ↦
  match c v with
  | .good a =>
    match f a with
    | .ok b => .good b
    | .error rule => against rule v
  | .bad issues => .bad issues

variable [Reader]

/-! ### Texts, numbers and truth values -/

/-- A text. -/
def text : Check String :=
  .of Reader.text

/-- One of a few texts. -/
def choice (options : List String) : Check String :=
  .of fun
    | .text s => if options.contains s then .ok s else .error (.choice options)
    | _ => .error (.choice options)

/-- A whole number that is not negative and, if there is a bound, not above it. -/
def natural (most : Option Nat) : Check Nat :=
  (Check.of Reader.whole).andThen fun n ↦
    if n < 0 then .error (.atLeast 0)
    else
      match most with
      | some bound => if n ≤ bound then .ok n.toNat else .error (.atMost bound)
      | none => .ok n.toNat

/-- A number above zero. -/
def positive : Check Float :=
  (Check.of Reader.number).andThen fun x ↦ if 0 < x then .ok x else .error (.above 0)

/-- A truth value. -/
def flag : Check Bool :=
  .of Reader.flag

/-! ### Values with parts -/

/-- Anything. -/
def any : Check Value := .good

/-- Nothing, or something that passes a check. -/
def optional (c : Check α) : Check (Option α)
  | .null => .good none
  | v => (c v).map some

/-- Several items from the index `n` on. -/
def items (c : Check α) (n : Nat) : List Value → Checked (List α)
  | [] => .good []
  | v :: vs => List.cons <$> (c v).under (.index n) <*> items c (n + 1) vs

/-- A list whose items all pass a check. -/
def list (c : Check α) : Check (List α) := fun v ↦
  match Reader.items v with
  | .ok vs => items c 0 vs
  | .error rule => against rule v

/-- The entries of a dictionary from texts to what passes a check. -/
def entries (c : Check α) : List (Value × Value) → Checked (List (String × α))
  | [] => .good []
  | (k, v) :: es =>
    let key := ((text k).under (.name "[key]")).under (Reader.step k)
    let value := (c v).under (Reader.step k)
    List.cons <$> (Prod.mk <$> key <*> value) <*> entries c es

/-- A dictionary from texts to what passes a check. -/
def dict (c : Check α) : Check (Table String α) := fun v ↦
  match Reader.entries v with
  | .ok es => (entries c es).map Table.ofList
  | .error rule => against rule v

/-! ### Records -/

/-- The value of a field. -/
def find? (es : List (Value × Value)) (name : String) : Option Value :=
  Table.get? es (.text name)

/-- A field that must be there. -/
def required (es : List (Value × Value)) (name : String) (c : Check α) : Checked α :=
  match find? es name with
  | some v => (c v).under (.name name)
  | none => .bad [⟨[.name name], .required, .dict es⟩]

/-- A field with a default. -/
def field (es : List (Value × Value)) (name : String) (default : α) (c : Check α) : Checked α :=
  match find? es name with
  | some v => (c v).under (.name name)
  | none => .good default

/-- Refuses keys that are no fields. -/
def onlyFields (names : List String) (es : List (Value × Value)) : Checked Unit :=
  let issues := es.filterMap fun (k, v) ↦
    match k with
    | .text s => if names.contains s then none else some ⟨[.name s], .unknown, v⟩
    | k => some ⟨[Reader.step k], .keyText, k⟩
  if issues.isEmpty then .good () else .bad issues

/-- What was accepted, if nothing stands against what comes with it. -/
def Checked.also (a : Checked α) (u : Checked Unit) : Checked α :=
  (fun x _ ↦ x) <$> a <*> u

/-- A record: a dictionary whose entries pass a check. -/
def record (title : String) (c : List (Value × Value) → Checked α) : Check α
  | .dict es => c es
  | v => against (.record title) v

end Provisioning.Validation
