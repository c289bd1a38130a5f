import Provisioning.Script.Template

/-!
What a script gives depends on its variables only through what their names stand for. Expressions
give the same items in scopes that agree, and statements that are run in scopes that agree give the
same text and leave scopes that agree.
-/

set_option autoImplicit false

namespace Provisioning.Script

/-! ### Scopes that agree -/

namespace Scope

variable {a b : Scope}

/-- Every name stands for the same item in both scopes. -/
def Agree (a b : Scope) : Prop :=
  ∀ name, a.find name = b.find name

theorem find_cons (a : Scope) (name other : String) (i : Item) :
    find ((name, i) :: a) other = if other == name then i else a.find other := by
  rw [find, List.lookup_cons]
  cases other == name <;> rfl

theorem Agree.cons (h : a.Agree b) (name : String) (i : Item) :
    Agree ((name, i) :: a) ((name, i) :: b) := by
  intro other
  rw [find_cons, find_cons, h other]

end Scope

section Expressions

variable {a b : Scope}

mutual

/-- Expressions give the same items in scopes that agree. -/
theorem Expr.eval_congr (h : a.Agree b) : ∀ e : Expr, e.eval a = e.eval b
  | .const _ => rfl
  | .name s => by rw [Expr.eval, Expr.eval, h s]
  | .filtered => by rw [Expr.eval, Expr.eval, h capturedName]
  | .list items => by rw [Expr.eval, Expr.eval, evalAll_congr h items]
  | .tuple items => by rw [Expr.eval, Expr.eval, evalAll_congr h items]
  | .dict entries => by rw [Expr.eval, Expr.eval, evalEntries_congr h entries]
  | .member e _ => by rw [Expr.eval, Expr.eval, e.eval_congr h]
  | .item e key => by rw [Expr.eval, Expr.eval, e.eval_congr h, key.eval_congr h]
  | .slice e start stop step => by
    rw [Expr.eval, Expr.eval, e.eval_congr h, evalSome_congr h start, evalSome_congr h stop,
      evalSome_congr h step]
  | .call f positional named => by
    rw [Expr.eval, Expr.eval, f.eval_congr h, evalAll_congr h positional, evalNamed_congr h named]
  | .filter e _ positional named => by
    rw [Expr.eval, Expr.eval, e.eval_congr h, evalAll_congr h positional, evalNamed_congr h named]
  | .test e _ positional named => by
    rw [Expr.eval, Expr.eval, e.eval_congr h, evalAll_congr h positional, evalNamed_congr h named]
  | .negative e => by rw [Expr.eval, Expr.eval, e.eval_congr h]
  | .positive e => by rw [Expr.eval, Expr.eval, e.eval_congr h]
  | .not e => by rw [Expr.eval, Expr.eval, e.eval_congr h]
  | .binary _ l r => by rw [Expr.eval, Expr.eval, l.eval_congr h, r.eval_congr h]
  | .and l r => by rw [Expr.eval, Expr.eval, l.eval_congr h, r.eval_congr h]
  | .or l r => by rw [Expr.eval, Expr.eval, l.eval_congr h, r.eval_congr h]
  | .concat parts => by rw [Expr.eval, Expr.eval, evalAll_congr h parts]
  | .compare first others => by
    rw [Expr.eval, Expr.eval, first.eval_congr h]
    simp only [evalComparisons_congr h others]
  | .choice condition yes no _ => by
    rw [Expr.eval, Expr.eval, condition.eval_congr h, yes.eval_congr h, evalSome_congr h no]

theorem evalSome_congr (h : a.Agree b) : ∀ e : Option Expr, evalSome a e = evalSome b e
  | none => rfl
  | some e => by rw [evalSome, evalSome, e.eval_congr h]

theorem evalAll_congr (h : a.Agree b) : ∀ es : List Expr, evalAll a es = evalAll b es
  | [] => rfl
  | e :: es => by rw [evalAll, evalAll, e.eval_congr h, evalAll_congr h es]

theorem evalNamed_congr (h : a.Agree b) :
    ∀ es : List (String × Expr), evalNamed a es = evalNamed b es
  | [] => rfl
  | (_, e) :: es => by rw [evalNamed, evalNamed, e.eval_congr h, evalNamed_congr h es]

theorem evalEntries_congr (h : a.Agree b) :
    ∀ es : List (Expr × Expr), evalEntries a es = evalEntries b es
  | [] => rfl
  | (k, v) :: es => by
    rw [evalEntries, evalEntries, k.eval_congr h, v.eval_congr h, evalEntries_congr h es]

theorem evalComparisons_congr (h : a.Agree b) :
    ∀ (others : List (Comparison × Expr)) (left : Item),
      evalComparisons a left others = evalComparisons b left others
  | [], _ => rfl
  | (_, e) :: others, _ => by
    rw [evalComparisons, evalComparisons, e.eval_congr h]
    simp only [evalComparisons_congr h others]

end

end Expressions

/-! ### Results that agree -/

/-- Both results are the same fault, or neither is one and `R` relates them. -/
inductive Alike {α : Type} (R : α → α → Prop) : Except Fault α → Except Fault α → Prop
  | error (f : Fault) : Alike R (.error f) (.error f)
  | ok {x y : α} : R x y → Alike R (.ok x) (.ok y)

namespace Alike

variable {α β : Type} {R : α → α → Prop} {S : β → β → Prop} {x y : Except Fault α}

theorem bind {f g : α → Except Fault β} (h : Alike R x y)
    (hf : ∀ a b, R a b → Alike S (f a) (g b)) : Alike S (x >>= f) (y >>= g) := by
  cases h with
  | error e => exact .error e
  | ok hxy => exact hf _ _ hxy

/-- What follows the same result. -/
theorem bind_left {f g : α → Except Fault β} (x : Except Fault α) (hf : ∀ a, Alike S (f a) (g a)) :
    Alike S (x >>= f) (x >>= g) := by
  cases x with
  | error e => exact .error e
  | ok a => exact hf a

theorem bind_eq {f g : α → Except Fault β} (h : Alike R x y) (hf : ∀ a b, R a b → f a = g b) :
    x >>= f = y >>= g := by
  cases h with
  | error e => rfl
  | ok hxy => exact hf _ _ hxy

end Alike

/-! ### Statements -/

/-- The same text, and scopes that agree. -/
inductive SameText : Scope × String → Scope × String → Prop
  | intro {a b : Scope} (h : a.Agree b) (text : String) : SameText (a, text) (b, text)

mutual

/-- Items given to a target in scopes that agree. -/
theorem Target.bind_alike {a b : Scope} (h : a.Agree b) (i : Item) :
    ∀ t : Target, Alike Scope.Agree (t.bind a i) (t.bind b i)
  | .name s => .ok (h.cons s i)
  | .member _ _ => .error _
  | .tuple targets => by
    rw [Target.bind, Target.bind]
    exact .bind_left i.iterate fun items ↦ bindAll_alike h targets items

theorem bindAll_alike {a b : Scope} (h : a.Agree b) :
    ∀ (ts : List Target) (is : List Item),
      Alike Scope.Agree (bindAll a ts is) (bindAll b ts is)
  | [], [] => .ok h
  | [], _ :: _ => .error _
  | _ :: _, [] => .error _
  | t :: ts, i :: is => by
    rw [bindAll, bindAll]
    exact (t.bind_alike h i).bind fun _ _ h ↦ bindAll_alike h ts is

end

theorem kept_congr {a b : Scope} (h : a.Agree b) (target : Target) (only : Option Expr)
    (items : List Item) : kept a target only items = kept b target only items := by
  cases only with
  | none => rfl
  | some e =>
    have hholds (i : Item) :
        (do (← e.eval (← target.bind a i)).isTruthy) =
          (do (← e.eval (← target.bind b i)).isTruthy) :=
      (target.bind_alike h i).bind_eq fun _ _ h ↦ by rw [e.eval_congr h]
    rw [kept, kept]
    simp only [hholds]

mutual

/-- Statements that are run in scopes that agree. -/
theorem Stmt.run_alike {a b : Scope} (h : a.Agree b) :
    ∀ s : Stmt, Alike SameText (s.run a) (s.run b)
  | .data s => .ok ⟨h, _⟩
  | .print e => by
    rw [Stmt.run, Stmt.run, e.eval_congr h]
    exact .bind_left _ fun i ↦ .bind_left _ fun s ↦ .ok ⟨h, _⟩
  | .cond branches otherwise => by
    rw [Stmt.run, Stmt.run]
    exact (runBranches_alike h branches).bind fun
      | _, _, .none => runAll_alike h otherwise
      | _, _, .some hxy => .ok hxy
  | .loop target source only body otherwise => by
    rw [Stmt.run, Stmt.run, source.eval_congr h]
    refine .bind_left _ fun i ↦ .bind_left _ fun items ↦ ?_
    rw [kept_congr h]
    refine .bind_left _ fun items ↦ ?_
    split
    · exact (runAll_alike h otherwise).bind fun | _, _, .intro _ s => .ok ⟨h, s⟩
    · have hround (round : Item × Nat) :
          (do
            let (_, s) ← runAll body (("loop", .loop round.2 items) :: (← target.bind a round.1))
            return s) =
          (do
            let (_, s) ← runAll body (("loop", .loop round.2 items) :: (← target.bind b round.1))
            return s : Except Fault String) :=
        (target.bind_alike h round.1).bind_eq fun _ _ h ↦
          (runAll_alike (h.cons _ _) body).bind_eq fun | _, _, .intro _ _ => rfl
      simp only [hround]
      exact .bind_left _ fun texts ↦ .ok ⟨h, _⟩
  | .assign target e => by
    rw [Stmt.run, Stmt.run, e.eval_congr h]
    exact .bind_left _ fun i ↦ (target.bind_alike h i).bind fun _ _ h ↦ .ok ⟨h, _⟩
  | .capture target through body => by
    rw [Stmt.run, Stmt.run]
    refine (runAll_alike h body).bind fun | _, _, .intro hinner s => ?_
    cases through with
    | none => exact (target.bind_alike h (Item.text s)).bind fun _ _ h ↦ .ok ⟨h, _⟩
    | some e =>
      simp only [e.eval_congr (hinner.cons capturedName (Item.text s))]
      exact .bind_left _ fun i ↦ (target.bind_alike h i).bind fun _ _ h ↦ .ok ⟨h, _⟩

theorem runBranches_alike {a b : Scope} (h : a.Agree b) :
    ∀ branches : List (Expr × List Stmt),
      Alike (Option.Rel SameText) (runBranches branches a) (runBranches branches b)
  | [] => .ok .none
  | (condition, body) :: branches => by
    rw [runBranches, runBranches, condition.eval_congr h]
    refine .bind_left _ fun i ↦ .bind_left _ fun holds ↦ ?_
    split
    · exact (runAll_alike h body).bind fun _ _ hxy ↦ .ok (.some hxy)
    · exact runBranches_alike h branches

theorem runAll_alike {a b : Scope} (h : a.Agree b) :
    ∀ stmts : List Stmt, Alike SameText (runAll stmts a) (runAll stmts b)
  | [] => .ok ⟨h, _⟩
  | s :: rest => by
    rw [runAll, runAll]
    refine (s.run_alike h).bind fun | _, _, .intro h' here => ?_
    exact (runAll_alike h' rest).bind fun | _, _, .intro h'' there => .ok ⟨h'', here ++ there⟩

end

/-! ### The outermost level -/

section Outermost

variable {a b : Scope}

theorem Expr.appended?_congr (h : a.Agree b) (e : Expr) : e.appended? a = e.appended? b := by
  unfold Expr.appended?
  split
  · next s e =>
    rw [h s, e.eval_congr h]
  · rfl

theorem Stmt.change?_congr (h : a.Agree b) (s : Stmt) : s.change? a = s.change? b := by
  cases s with
  | print e | assign _ e => exact e.appended?_congr h
  | _ => rfl

theorem Stmt.runOuter_alike (h : a.Agree b) (s : Stmt) :
    Alike SameText (s.runOuter a) (s.runOuter b) := by
  unfold Stmt.runOuter
  rw [s.change?_congr h]
  split
  · exact .bind_left _ fun s ↦ .ok ⟨h.cons _ _, s⟩
  · next target _ _ =>
    exact (target.bind_alike (h.cons _ _) _).bind fun _ _ h ↦ .ok ⟨h, _⟩
  · exact Stmt.run_alike h _

theorem runOuterAll_alike (h : a.Agree b) (stmts : List Stmt) :
    Alike SameText (runOuterAll stmts a) (runOuterAll stmts b) := by
  induction stmts generalizing a b with
  | nil => exact .ok ⟨h, _⟩
  | cons s rest ih =>
    rw [runOuterAll, runOuterAll]
    refine (s.runOuter_alike h).bind fun | _, _, .intro h' here => ?_
    exact (ih h').bind fun | _, _, .intro h'' there => .ok ⟨h'', here ++ there⟩

end Outermost

/-! ### Templates -/

/-- A name for which there is a value stands for the value, whatever the name is. -/
theorem Scope.find_ofBindings (bindings : List (String × Value)) (name : String) :
    (ofBindings bindings).find name =
      ((Table.get? bindings name).map Item.value).getD (find [] name) := by
  induction bindings with
  | nil => rfl
  | cons e rest ih =>
    have hcons : ofBindings (e :: rest) = (e.1, .value e.2) :: ofBindings rest := rfl
    rw [hcons, find_cons, ih, BEq.comm, Table.get?, Table.get?, List.find?_cons]
    cases e.1 == name <;> rfl

/-- What a template gives depends on nothing but which value each name has. -/
theorem Template.fill_congr (t : Template) {bindings others : List (String × Value)}
    (h : ∀ name, Table.get? bindings name = Table.get? others name) :
    t.fill bindings = t.fill others := by
  have hagree : (Scope.ofBindings bindings).Agree (.ofBindings others) := fun name ↦ by
    rw [Scope.find_ofBindings, Scope.find_ofBindings, h name]
  exact (runOuterAll_alike hagree t.stmts).bind_eq fun | _, _, .intro _ _ => rfl

/-- A template whose tokens make up statements, with helpers that are all known, can be read. -/
theorem Template.read_of_tokens {template : String} {tokens rest : List Token} {stmts : List Stmt}
    (htokens : Token.ofText template = .ok tokens)
    (hstmts : (statements (20 * tokens.length + 20) []).run tokens = .ok (stmts, rest))
    (hcheck : check ⟨stmts⟩ = .ok ()) : read template = .ok ⟨stmts⟩ := by
  have htext : ofText template = .ok ⟨stmts⟩ := by
    rw [ofText, htokens]
    exact congrArg (· >>= fun r ↦ pure (⟨r.1⟩ : Template)) hstmts
  rw [read, htext]
  exact congrArg (· >>= fun _ ↦ pure (⟨stmts⟩ : Template)) hcheck

/-- A template that prints a name gives the text of the value that the name has. -/
theorem Template.fill_printing_name {bindings : List (String × Value)} {name : String} {v : Value}
    (h : Table.get? bindings name = some v) :
    (⟨[.print (.name name)]⟩ : Template).fill bindings = (Item.value v).display := by
  have hfind : (Scope.ofBindings bindings).find name = .value v := by
    rw [Scope.find_ofBindings, h]
    rfl
  have hrun : (Stmt.print (.name name)).runOuter (.ofBindings bindings) = (do
      return (.ofBindings bindings, ← (Item.value v).display)) := by
    change (Stmt.print (.name name)).run (.ofBindings bindings) = _
    rw [Stmt.run, Expr.eval, hfind]
    rfl
  rw [fill, runOuterAll, hrun]
  cases (Item.value v).display with
  | error f => rfl
  | ok s => exact congrArg Except.ok String.append_empty

/-! ### Engines -/

/-- The text of a value that a template prints, if it can be made. -/
def printed (v : Value) : Except Foreign String :=
  if v.isWritable then .ok v.display
  else .error ⟨"ValueError", some .value, Decimal.tooManyDigits⟩

/-- Nothing matters to the engine but which value each name has, and it prints the value of a name
that a template prints. -/
class LawfulEngine [Engine] where
  printing : (name : String) → Option Engine.Template
  fill_congr (now : Nat) (t : Engine.Template) {bindings others : Variables}
    (h : ∀ name, Table.get? bindings name = Table.get? others name) :
    Engine.fill now t bindings = Engine.fill now t others
  fill_printing (now : Nat) {name : String} {t : Engine.Template} {bindings : Variables} {v : Value}
    (ht : printing name = some t) (hv : Table.get? bindings name = some v) :
    Engine.fill now t bindings = printed v

/-- The built-in engine is lawful. -/
instance lawful : LawfulEngine where
  printing := fun name ↦ some (⟨[.print (.name name)]⟩ : Template)
  fill_congr _ t _ _ h := congrArg (Except.mapError Fault.raised) (Template.fill_congr t h)
  fill_printing _ _ _ _ v ht hv := by
    obtain rfl := Option.some.inj ht
    refine (congrArg (Except.mapError Fault.raised) (Template.fill_printing_name hv)).trans ?_
    rw [Item.display, Item.checkedText, printed]
    split <;> rfl

end Provisioning.Script
