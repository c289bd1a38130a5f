import Provisioning.Outcome

/-!
Actions: steps on a state that may fail on the way. What an action has written by the time it fails
stays written, so an action that is to leave nothing half done has to check before it writes.
-/

set_option autoImplicit false

namespace Provisioning

/-- A step on a state of type `σ` that answers an `α` or fails. -/
def Action (σ α : Type) : Type :=
  σ → σ × Outcome α

namespace Action

variable {σ α β : Type}

/-- The state after an action and its outcome. -/
def run (x : Action σ α) (s : σ) : σ × Outcome α :=
  x s

/-- The state after an action, whether or not it fails. -/
def after (x : Action σ α) (s : σ) : σ :=
  (x.run s).1

/-- The result of an action or its error. -/
def result (x : Action σ α) (s : σ) : Except Error α :=
  (x.run s).2.result

/-- One action after another; the second is taken only if the first succeeds. -/
def andThen (x : Action σ α) (f : α → Action σ β) : Action σ β := fun s ↦
  match x s with
  | (s, ⟨.ok a, warnings⟩) =>
    let (s, outcome) := f a s
    (s, ⟨outcome.result, warnings ++ outcome.warnings⟩)
  | (s, ⟨.error e, warnings⟩) => (s, ⟨.error e, warnings⟩)

instance : Monad (Action σ) where
  pure a := fun s ↦ (s, .ok a)
  bind := andThen

/-- An action that has the outcome of a call and writes nothing. -/
def ofOutcome (r : Outcome α) : Action σ α := fun s ↦
  (s, r)

instance : MonadLift Outcome (Action σ) := ⟨ofOutcome⟩

/-- An action that fails. -/
def fail (e : Error) : Action σ α :=
  ofOutcome (.fail e)

/-- The state as it is. -/
def state : Action σ σ := fun s ↦
  (s, .ok s)

/-- Changes the state. -/
def write (f : σ → σ) : Action σ Unit := fun s ↦
  (f s, .ok ())

/-- An action whose errors of some families are results; errors of other families remain errors. -/
def catching (families : List Family) (x : Action σ α) : Action σ (Except Error α) := fun s ↦
  let (s, outcome) := x s
  (s, outcome.catching families)

/-- What is left of an action for a caller who has no use for the state after a failure. -/
def settle (x : Action σ α) (s : σ) : Outcome (σ × α) :=
  let (s, outcome) := x.run s
  outcome.andThen fun a ↦ .ok (s, a)

variable (s : σ)

@[simp]
theorem liftM_outcome (r : Outcome α) : (liftM r : Action σ α) = ofOutcome r := rfl

@[simp]
theorem liftM_except (r : Except Error α) :
    (liftM r : Action σ α) = ofOutcome (Outcome.lift r) := rfl

@[simp]
theorem after_pure (a : α) : (pure a : Action σ α).after s = s := rfl

@[simp]
theorem result_pure (a : α) : (pure a : Action σ α).result s = .ok a := rfl

@[simp]
theorem after_ofOutcome (r : Outcome α) : (ofOutcome r : Action σ α).after s = s := rfl

@[simp]
theorem result_ofOutcome (r : Outcome α) : (ofOutcome r : Action σ α).result s = r.result := rfl

@[simp]
theorem after_fail (e : Error) : (fail e : Action σ α).after s = s := rfl

@[simp]
theorem result_fail (e : Error) : (fail e : Action σ α).result s = .error e := rfl

@[simp]
theorem after_state : (state : Action σ σ).after s = s := rfl

@[simp]
theorem result_state : (state : Action σ σ).result s = .ok s := rfl

@[simp]
theorem after_write (f : σ → σ) : (write f).after s = f s := rfl

@[simp]
theorem result_write (f : σ → σ) : (write f).result s = .ok () := rfl

/-- What is after the first of two actions if it fails, and after the second otherwise. -/
theorem after_bind (x : Action σ α) (f : α → Action σ β) :
    (x >>= f).after s = match x.result s with
      | .ok a => (f a).after (x.after s)
      | .error _ => x.after s := by
  simp only [after, result, run, bind, andThen]
  rcases x s with ⟨s', ⟨⟨e⟩ | ⟨a⟩, warnings⟩⟩ <;> rfl

theorem result_bind (x : Action σ α) (f : α → Action σ β) :
    (x >>= f).result s = match x.result s with
      | .ok a => (f a).result (x.after s)
      | .error e => .error e := by
  simp only [after, result, run, bind, andThen]
  rcases x s with ⟨s', ⟨⟨e⟩ | ⟨a⟩, warnings⟩⟩ <;> rfl

theorem run_state_bind (f : σ → Action σ β) : (state >>= f).run s = (f s).run s := rfl

theorem after_bind_pure (x : Action σ α) (f : α → β) :
    (x >>= fun a ↦ pure (f a)).after s = x.after s := by
  rw [after_bind]
  split <;> rfl

theorem result_bind_pure (x : Action σ α) (f : α → β) :
    (x >>= fun a ↦ pure (f a)).result s = (x.result s).map f := by
  rw [result_bind]
  cases x.result s <;> rfl

theorem result_settle (x : Action σ α) :
    (x.settle s).result = x.result s >>= fun a ↦ .ok (x.after s, a) := by
  simp only [settle, after, result, run]
  rcases x s with ⟨s', ⟨⟨e⟩ | ⟨a⟩, warnings⟩⟩ <;> rfl

end Action
end Provisioning
