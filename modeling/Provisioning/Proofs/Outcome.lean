import Mathlib.Logic.Basic
import Provisioning.Outcome

/-!
What is known of results that may be errors. Where a condition decides whether there is a result, a
chain is decided by the conditions of its links (`Decides.bind`). Where all errors of each link have
a property, those of the chain have it (`Raises.bind`).
-/

set_option autoImplicit false

namespace Provisioning

variable {ε α β : Type}

/-- There is the result `a` if `p` holds, and an error otherwise. -/
structure Decides (r : Except ε α) (p : Prop) (a : α) : Prop where
  ok : p → r = .ok a
  error : ¬p → ∃ e, r = .error e

namespace Decides

variable {r : Except ε α} {p q : Prop} {a : α} {b : β}

theorem of_ok (h : r = .ok a) : Decides r True a :=
  ⟨fun _ ↦ h, fun hfalse ↦ absurd trivial hfalse⟩

theorem ite_ok [Decidable p] {e : ε} : Decides (if p then .ok a else .error e) p a :=
  ⟨fun h ↦ if_pos h, fun h ↦ ⟨e, if_neg h⟩⟩

theorem ite_error [Decidable p] {e : ε} : Decides (if p then .error e else .ok a) (¬p) a :=
  ⟨fun h ↦ if_neg h, fun h ↦ ⟨e, if_pos (not_not.mp h)⟩⟩

theorem congr (h : Decides r p a) (hiff : p ↔ q) : Decides r q a :=
  ⟨fun hq ↦ h.ok (hiff.mpr hq), fun hq ↦ h.error (mt hiff.mp hq)⟩

theorem bind {f : α → Except ε β} (hr : Decides r p a) (hf : p → Decides (f a) q b) :
    Decides (r >>= f) (p ∧ q) b := by
  refine ⟨fun ⟨hp, hq⟩ ↦ ?_, fun hnot ↦ ?_⟩
  · rw [hr.ok hp]
    exact (hf hp).ok hq
  · by_cases hp : p
    · obtain ⟨e, he⟩ := (hf hp).error fun hq ↦ hnot ⟨hp, hq⟩
      exact ⟨e, by rw [hr.ok hp]; exact he⟩
    · obtain ⟨e, he⟩ := hr.error hp
      exact ⟨e, by rw [he]; rfl⟩

/-- A result that is only passed on is decided by the same condition. -/
theorem map (f : α → β) (h : Decides r p a) : Decides (do return f (← r)) p (f a) := by
  have hpure : Decides (pure (f a) : Except ε β) True (f a) := of_ok rfl
  exact (h.bind (f := fun a ↦ pure (f a)) fun _ ↦ hpure).congr (and_iff_left trivial)

theorem outcome {o : Outcome α} {p : Prop} {a : α} (f : α → β) (h : Decides o.result p a) :
    Decides (do return f (← o) : Outcome β).result p (f a) := by
  rw [Outcome.result_bind]
  exact h.map f

theorem eq_ok_iff (h : Decides r p a) : r = .ok a ↔ p := by
  refine ⟨fun hr ↦ ?_, h.ok⟩
  by_cases hp : p
  · exact hp
  · obtain ⟨e, he⟩ := h.error hp
    rw [hr] at he
    cases he

/-- The items of a list are all accepted just if each of them is. -/
theorem mapM {f : β → Except ε α} {g : α → β} {p : α → Prop}
    (h : ∀ x, Decides (f (g x)) (p x) x) (xs : List α) :
    Decides ((xs.map g).mapM f) (∀ x ∈ xs, p x) xs := by
  induction xs with
  | nil => exact (of_ok rfl).congr (by simp)
  | cons x xs ih =>
    rw [List.map_cons, List.mapM_cons]
    exact ((h x).bind fun _ ↦ ih.map (x :: ·)).congr List.forall_mem_cons.symm

end Decides

/-- If there is no result, the error has the property `P`. -/
def Raises (r : Except ε α) (P : ε → Prop) : Prop :=
  ∀ e, r = .error e → P e

namespace Raises

variable {r : Except ε α} {P Q : ε → Prop}

theorem ok (a : α) : Raises (.ok a : Except ε α) P := nofun

theorem error {e : ε} (h : P e) : Raises (.error e : Except ε α) P := by
  intro e' he
  cases he
  exact h

theorem mono (hr : Raises r P) (h : ∀ e, P e → Q e) : Raises r Q :=
  fun e he ↦ h e (hr e he)

theorem bind {f : α → Except ε β} (hr : Raises r P) (hf : ∀ a, r = .ok a → Raises (f a) P) :
    Raises (r >>= f) P := by
  cases r with
  | ok a => exact hf a rfl
  | error e =>
    intro e' he
    cases he
    exact hr e rfl

theorem map (f : α → β) (hr : Raises r P) : Raises (do return f (← r)) P :=
  hr.bind fun a _ ↦ ok (f a)

theorem mapOk (f : α → β) (hr : Raises r P) : Raises (r.map f) P := by
  cases r with
  | ok a => exact ok (f a)
  | error e => exact error (hr e rfl)

theorem mapError {ε' : Type} {f : ε → ε'} {P : ε' → Prop} (h : ∀ e, P (f e)) (r : Except ε α) :
    Raises (r.mapError f) P := by
  cases r with
  | ok a => exact ok a
  | error e => exact error (h e)

theorem mapM {f : α → Except ε β} {xs : List α} (h : ∀ x, Raises (f x) P) :
    Raises (xs.mapM f) P := by
  induction xs with
  | nil => exact ok []
  | cons x xs ih =>
    rw [List.mapM_cons]
    exact (h x).bind fun y _ ↦ ih.map (y :: ·)

theorem ite {p : Prop} [Decidable p] {r' : Except ε α} (hr : Raises r P) (hr' : Raises r' P) :
    Raises (if p then r else r') P := by
  split
  · exact hr
  · exact hr'

/-- The errors of a chain of calls. -/
theorem andThen {o : Outcome α} {f : α → Outcome β} {P : Error → Prop} (ho : Raises o.result P)
    (hf : ∀ a, o.result = .ok a → Raises (f a).result P) : Raises (o.andThen f).result P := by
  rw [Outcome.result_andThen]
  exact ho.bind hf

theorem outcome {o : Outcome α} {P : Error → Prop} (f : α → β) (ho : Raises o.result P) :
    Raises (do return f (← o) : Outcome β).result P :=
  ho.andThen fun a _ ↦ ok (f a)

end Raises

namespace Outcome

theorem andThen_assoc {γ : Type} (o : Outcome α) (f : α → Outcome β) (g : β → Outcome γ) :
    (o.andThen f).andThen g = o.andThen fun a ↦ (f a).andThen g := by
  obtain ⟨⟨e⟩ | ⟨a⟩, warnings⟩ := o
  · rfl
  · simp only [andThen]
    rcases f a with ⟨⟨e⟩ | ⟨b⟩, more⟩ <;> simp [List.append_assoc]

theorem warnings_andThen (o : Outcome α) (f : α → Outcome β) :
    (o.andThen f).warnings = o.warnings ++ match o.result with
      | .ok a => (f a).warnings
      | .error _ => [] := by
  obtain ⟨⟨e⟩ | ⟨a⟩, warnings⟩ := o
  · exact (List.append_nil warnings).symm
  · rfl

theorem warnings_andThen_eq_nil {o : Outcome α} {f : α → Outcome β} (ho : o.warnings = [])
    (hf : ∀ a, (f a).warnings = []) : (o.andThen f).warnings = [] := by
  rw [warnings_andThen, ho, List.nil_append]
  split
  · exact hf _
  · rfl

/-- A call succeeds, or its error is caught, or it is not. -/
theorem catching_cases (families : List Family) (o : Outcome α) :
    (∃ a, o.result = .ok a ∧ (o.catching families).result = .ok (.ok a)) ∨
      ∃ e, o.result = .error e ∧
        (e.isAmong families = true ∧ (o.catching families).result = .ok (.error e) ∨
          e.isAmong families = false ∧ (o.catching families).result = .error e) := by
  rcases o with ⟨e | a, warnings⟩
  · refine .inr ⟨e, rfl, ?_⟩
    cases hamong : e.isAmong families <;> simp [catching, hamong]
  · exact .inl ⟨a, rfl, rfl⟩

end Outcome

end Provisioning
