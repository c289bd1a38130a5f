import Provisioning.Error

/-!
The outcome of a call: a result or an error, together with the warnings that were given on the way.
A failure keeps the warnings that came before it.
-/

set_option autoImplicit false

namespace Provisioning

/-- Notes that an argument was given in a form that should no longer be used. -/
inductive Warning
  | keyAsPayload (name : String)
  | rawScript
  deriving DecidableEq, Repr

/-- The text of a warning. -/
def Warning.message : Warning → String
  | keyAsPayload name => "passing " ++ name ++ " as a Payload is deprecated, pass a string instead"
  | rawScript => "passing a raw byte buffer to run_script is deprecated, pass a Payload or str"

/-- A result or an error, and the warnings of the call in order. -/
structure Outcome (α : Type) where
  result : Except Error α
  warnings : List Warning

namespace Outcome

variable {α β : Type}

/-- A call that succeeds without a warning. -/
def ok (a : α) : Outcome α :=
  ⟨.ok a, []⟩

/-- A call that fails without a warning. -/
def fail (e : Error) : Outcome α :=
  ⟨.error e, []⟩

/-- One call after another; the second is made only if the first succeeds. -/
def andThen (o : Outcome α) (f : α → Outcome β) : Outcome β :=
  match o.result with
  | .ok a => ⟨(f a).result, o.warnings ++ (f a).warnings⟩
  | .error e => ⟨.error e, o.warnings⟩

instance : Monad Outcome where
  pure := ok
  bind := andThen

/-- A result or an error that comes without warnings. -/
def lift (r : Except Error α) : Outcome α :=
  ⟨r, []⟩

instance : MonadLift (Except Error) Outcome := ⟨lift⟩

/-- Gives a warning. -/
def warn (w : Warning) : Outcome Unit :=
  ⟨.ok (), [w]⟩

/-- A call whose errors of some families are results; errors of other families remain errors. -/
def catching (families : List Family) (o : Outcome α) : Outcome (Except Error α) :=
  match o.result with
  | .ok a => ⟨.ok (.ok a), o.warnings⟩
  | .error e =>
    ⟨if e.isAmong families then .ok (.error e) else .error e, o.warnings⟩

@[simp]
theorem pure_eq (a : α) : (pure a : Outcome α) = ok a := rfl

@[simp]
theorem bind_eq (o : Outcome α) (f : α → Outcome β) : o >>= f = o.andThen f := rfl

@[simp]
theorem ok_andThen (a : α) (f : α → Outcome β) : (ok a).andThen f = f a := by
  simp [ok, andThen]

@[simp]
theorem fail_andThen (e : Error) (f : α → Outcome β) : (fail e).andThen f = fail e := rfl

@[simp]
theorem result_ok (a : α) : (ok a).result = .ok a := rfl

@[simp]
theorem result_fail (e : Error) : (fail e : Outcome α).result = .error e := rfl

@[simp]
theorem result_warn (w : Warning) : (warn w).result = .ok () := rfl

@[simp]
theorem result_lift (r : Except Error α) : (lift r).result = r := rfl

@[simp]
theorem liftM_eq (r : Except Error α) : (liftM r : Outcome α) = lift r := rfl

theorem result_andThen (o : Outcome α) (f : α → Outcome β) :
    (o.andThen f).result = o.result >>= fun a ↦ (f a).result := by
  obtain ⟨⟨e⟩ | ⟨a⟩, warnings⟩ := o <;> rfl

theorem result_bind (o : Outcome α) (f : α → Outcome β) :
    (o >>= f).result = o.result >>= fun a ↦ (f a).result :=
  result_andThen o f

end Outcome

/-- What a chain of two results says when it succeeds. -/
theorem bind_eq_ok_iff {ε α β : Type} {r : Except ε α} {f : α → Except ε β} {b : β} :
    (r >>= f) = .ok b ↔ ∃ a, r = .ok a ∧ f a = .ok b := by
  cases r with
  | error e => exact ⟨fun h ↦ (nomatch h), fun ⟨a, h, _⟩ ↦ (nomatch h)⟩
  | ok a => exact ⟨fun h ↦ ⟨a, rfl, h⟩, fun ⟨_, h, hb⟩ ↦ by cases h; exact hb⟩

theorem mapError_eq_ok_iff {ε ε' α : Type} {f : ε → ε'} {r : Except ε α} {a : α} :
    r.mapError f = .ok a ↔ r = .ok a := by
  cases r with
  | error e => exact ⟨fun h ↦ (nomatch h), fun h ↦ (nomatch h)⟩
  | ok b => exact ⟨fun h ↦ by cases h; rfl, fun h ↦ by cases h; rfl⟩

namespace Outcome

variable {α β : Type} {b : β}

theorem result_bind_eq_ok_iff {o : Outcome α} {f : α → Outcome β} :
    (o >>= f).result = .ok b ↔ ∃ a, o.result = .ok a ∧ (f a).result = .ok b := by
  rw [result_bind, bind_eq_ok_iff]

variable {f : α → β}

/-- What is made of the result of a call that succeeds. -/
theorem exists_of_return {o : Outcome α} (h : (do return f (← o) : Outcome β).result = .ok b) :
    ∃ a, o.result = .ok a ∧ f a = b := by
  obtain ⟨a, ha, h⟩ := result_bind_eq_ok_iff.mp h
  exact ⟨a, ha, Except.ok.inj h⟩

theorem exists_of_return_lift {r : Except Error α}
    (h : (do return f (← r) : Outcome β).result = .ok b) : ∃ a, r = .ok a ∧ f a = b :=
  exists_of_return h

end Outcome

/-- Each of the results for the items of a list is the result for one of them. -/
theorem exists_of_mem_of_mapM_eq_ok {ε α β : Type} {f : α → Except ε β} {xs : List α}
    {ys : List β} (h : xs.mapM f = .ok ys) {y : β} (hy : y ∈ ys) : ∃ x ∈ xs, f x = .ok y := by
  induction xs generalizing ys with
  | nil =>
    cases h
    cases hy
  | cons x xs ih =>
    rw [List.mapM_cons] at h
    obtain ⟨z, hz, h⟩ := bind_eq_ok_iff.mp h
    obtain ⟨zs, hzs, h⟩ := bind_eq_ok_iff.mp h
    cases h
    rcases List.mem_cons.mp hy with rfl | hy
    · exact ⟨x, List.mem_cons_self, hz⟩
    · obtain ⟨x', hx', hfx'⟩ := ih hzs hy
      exact ⟨x', List.mem_cons_of_mem x hx', hfx'⟩

end Provisioning
