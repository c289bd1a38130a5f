import Provisioning.Action
import Provisioning.Proofs.Outcome

/-!
What actions leave alone, and where they lead. An action that only reads may be followed by one that
leaves the state alone when it fails: this is how a call that checks before it writes comes to be
atomic, which `ReadsOnly.bind_atomic` states. Where the success of each action of a sequence hangs
on a condition, `Leads.bind` gives that of the sequence. A warning that is given first changes
nothing else (`run_warned`). Two actions may also be taken side by side, each on a state of its own:
`Matches.bind` carries a relation between the states along.
-/

set_option autoImplicit false

namespace Provisioning.Action

variable {σ α β γ : Type} {x : Action σ α} {f : α → Action σ β}

/-- An action keeps what `p` reads from the state, whether or not it fails. -/
def Keeps (x : Action σ α) (p : σ → γ) : Prop :=
  ∀ s, p (x.after s) = p s

/-- An action preserves a property of the state, whether or not it fails. -/
def Preserves (x : Action σ α) (P : σ → Prop) : Prop :=
  ∀ s, P s → P (x.after s)

/-- An action writes nothing. -/
def ReadsOnly (x : Action σ α) : Prop :=
  ∀ s, x.after s = s

/-- An action never fails. -/
def Total (x : Action σ α) : Prop :=
  ∀ s, ∃ a, x.result s = .ok a

/-- An action that fails leaves the state as it was. -/
def Atomic (x : Action σ α) : Prop :=
  ∀ s e, x.result s = .error e → x.after s = s

theorem readsOnly_state : (state : Action σ σ).ReadsOnly := fun _ ↦ rfl

theorem readsOnly_ofOutcome (r : Outcome α) : (ofOutcome r : Action σ α).ReadsOnly := fun _ ↦ rfl

theorem total_write (f : σ → σ) : (write f).Total := fun _ ↦ ⟨(), rfl⟩

theorem Total.bind (hx : x.Total) (hf : ∀ a, (f a).Total) : (x >>= f).Total := by
  intro s
  obtain ⟨a, ha⟩ := hx s
  rw [result_bind, ha]
  exact hf a _

theorem Keeps.bind {p : σ → γ} (hx : x.Keeps p) (hf : ∀ a, (f a).Keeps p) :
    (x >>= f).Keeps p := by
  intro s
  rw [after_bind]
  cases x.result s with
  | error e => exact hx s
  | ok a => exact (hf a _).trans (hx s)

/-- What only reads keeps everything. -/
theorem ReadsOnly.keeps (hx : x.ReadsOnly) (p : σ → γ) : x.Keeps p := by
  intro s
  rw [hx s]

theorem ReadsOnly.preserves (hx : x.ReadsOnly) (P : σ → Prop) : x.Preserves P := by
  intro s hs
  rwa [hx s]

theorem Preserves.bind {P : σ → Prop} (hx : x.Preserves P) (hf : ∀ a, (f a).Preserves P) :
    (x >>= f).Preserves P := by
  intro s hs
  rw [after_bind]
  split
  · exact hf _ _ (hx s hs)
  · exact hx s hs

/-- What follows a look at the state may use that the property holds of it. -/
theorem state_bind_preserves {P : σ → Prop} {f : σ → Action σ α}
    (hf : ∀ s, P s → (f s).Preserves P) : (state >>= f).Preserves P := by
  intro s hs
  rw [after, run_state_bind]
  exact hf s hs s hs

/-- What follows a call need only preserve a property if the call succeeds. -/
theorem ofOutcome_bind_preserves {P : σ → Prop} {r : Outcome α}
    (hf : ∀ a, r.result = .ok a → (f a).Preserves P) : (ofOutcome r >>= f).Preserves P := by
  intro s hs
  rw [after_bind, result_ofOutcome, after_ofOutcome]
  split
  · next a ha => exact hf a ha s hs
  · exact hs

theorem Total.atomic (hx : x.Total) : x.Atomic := by
  intro s e he
  obtain ⟨a, ha⟩ := hx s
  rw [ha] at he
  cases he

/-- A check before an atomic action leaves it atomic. -/
theorem ReadsOnly.bind_atomic (hx : x.ReadsOnly) (hf : ∀ a, (f a).Atomic) :
    (x >>= f).Atomic := by
  intro s e he
  rw [result_bind] at he
  rw [after_bind]
  cases hresult : x.result s with
  | error e => exact hx s
  | ok a =>
    simp only [hresult, hx s] at he ⊢
    exact hf a s e he

/-! ### Where an action leads -/

theorem pure_bind (a : α) (f : α → Action σ β) : (pure a : Action σ α) >>= f = f a := by
  funext s
  simp [bind, andThen, pure, Outcome.ok]

theorem liftM_ok_bind (a : α) (f : α → Action σ β) :
    (liftM (.ok a : Except Error α) : Action σ α) >>= f = f a :=
  pure_bind a f

theorem bind_assoc (x : Action σ α) (f : α → Action σ β) (g : β → Action σ γ) :
    x >>= f >>= g = x >>= fun a ↦ f a >>= g := by
  funext s
  simp only [bind, andThen]
  rcases x s with ⟨t, ⟨⟨e⟩ | ⟨a⟩, warnings⟩⟩
  · rfl
  · simp only
    rcases f a t with ⟨u, ⟨⟨e⟩ | ⟨b⟩, more⟩⟩
    · rfl
    · simp [List.append_assoc]

theorem ofOutcome_return_bind (r : Outcome γ) (g : γ → α) (f : α → Action σ β) :
    (ofOutcome (do return g (← r)) >>= f : Action σ β) = ofOutcome r >>= fun c ↦ f (g c) := by
  obtain ⟨⟨e⟩ | ⟨c⟩, warnings⟩ := r
  · rfl
  · funext s
    simp [bind, andThen, ofOutcome, Outcome.andThen, Outcome.ok]

/-- An action succeeds, or its error is caught, or it is not. The state after it is the same. -/
theorem catching_cases (families : List Family) (x : Action σ α) (s : σ) :
    (x.catching families).after s = x.after s ∧
      ((∃ a, x.result s = .ok a ∧ (x.catching families).result s = .ok (.ok a)) ∨
        ∃ e, x.result s = .error e ∧
          (e.isAmong families = true ∧ (x.catching families).result s = .ok (.error e) ∨
            e.isAmong families = false ∧ (x.catching families).result s = .error e)) :=
  ⟨rfl, Outcome.catching_cases families (x.run s).2⟩

/-- From the state `s` an action gets to `t` if `p` holds, and fails otherwise. -/
structure Leads (x : Action σ Unit) (s : σ) (p : Prop) (t : σ) : Prop where
  decides : Decides (x.result s) p ()
  after : p → x.after s = t

namespace Leads

variable {x y : Action σ Unit} {s t u : σ} {p q : Prop}

theorem congr (h : x.Leads s p t) (hiff : p ↔ q) : x.Leads s q t :=
  ⟨h.decides.congr hiff, fun hq ↦ h.after (hiff.mpr hq)⟩

theorem pure (s : σ) : (Pure.pure () : Action σ Unit).Leads s True s :=
  ⟨.of_ok rfl, fun _ ↦ rfl⟩

theorem bind (hx : x.Leads s p t) (hy : p → y.Leads t q u) :
    (x >>= fun _ ↦ y).Leads s (p ∧ q) u := by
  have hresult (hp : p) : (x >>= fun _ ↦ y).result s = y.result t := by
    rw [result_bind, hx.decides.ok hp, hx.after hp]
  refine ⟨⟨fun ⟨hp, hq⟩ ↦ ?_, fun hnot ↦ ?_⟩, fun ⟨hp, hq⟩ ↦ ?_⟩
  · rw [hresult hp]
    exact (hy hp).decides.ok hq
  · by_cases hp : p
    · rw [hresult hp]
      exact (hy hp).decides.error fun hq ↦ hnot ⟨hp, hq⟩
    · obtain ⟨e, he⟩ := hx.decides.error hp
      exact ⟨e, by rw [result_bind, he]⟩
  · rw [after_bind, hx.decides.ok hp, hx.after hp]
    exact (hy hp).after hq

end Leads

/-! ### Warnings -/

theorem outcome_bind (x : Action σ α) (f : α → Action σ β) (s : σ) :
    ((x >>= f).run s).2 = (x.run s).2.andThen fun a ↦ ((f a).run (x.after s)).2 := by
  simp only [after, run, Bind.bind, andThen]
  rcases x s with ⟨t, ⟨⟨e⟩ | ⟨a⟩, warnings⟩⟩ <;> rfl

/-- An action that gives a warning first. -/
def warned (w : Warning) (x : Action σ α) : Action σ α :=
  ofOutcome (Outcome.warn w) >>= fun _ ↦ x

theorem run_warned (w : Warning) (x : Action σ α) (s : σ) :
    (warned w x).run s = (x.after s, ⟨x.result s, w :: (x.run s).2.warnings⟩) := rfl

theorem warned_bind (w : Warning) (x : Action σ α) (f : α → Action σ β) :
    warned w x >>= f = warned w (x >>= f) :=
  bind_assoc _ _ _

/-- A warning of a call is one of the action that makes the call. -/
theorem ofOutcome_warn_andThen (w : Warning) (r : Outcome α) :
    (ofOutcome ((Outcome.warn w).andThen fun _ ↦ r) : Action σ α) = warned w (ofOutcome r) := rfl

theorem run_bind_congr {x y : Action σ α} {s : σ} (h : x.run s = y.run s) (f : α → Action σ β) :
    (x >>= f).run s = (y >>= f).run s := by
  simp only [run, bind, andThen] at h ⊢
  rw [h]

/-- An action gives no warnings. -/
def Quiet (x : Action σ α) : Prop :=
  ∀ s, (x.run s).2.warnings = []

theorem Quiet.bind (hx : x.Quiet) (hf : ∀ a, (f a).Quiet) : (x >>= f).Quiet := by
  intro s
  rw [outcome_bind]
  exact Outcome.warnings_andThen_eq_nil (hx s) fun a ↦ hf a _

theorem quiet_ofOutcome {r : Outcome α} (h : r.warnings = []) : (ofOutcome r : Action σ α).Quiet :=
  fun _ ↦ h

theorem quiet_write (f : σ → σ) : (write f).Quiet :=
  fun _ ↦ rfl

theorem quiet_state_bind {f : σ → Action σ α} (h : ∀ s, (f s).Quiet) : (state >>= f).Quiet := by
  intro s
  rw [run_state_bind]
  exact h s s

/-! ### Actions side by side -/

/-- On states that `R` relates, two actions have the same outcome and lead to states that `R`
relates. -/
def Matches {τ : Type} (R : σ → τ → Prop) (x : Action σ α) (y : Action τ α) : Prop :=
  ∀ s t, R s t → (x.run s).2 = (y.run t).2 ∧ R (x.after s) (y.after t)

namespace Matches

variable {τ : Type} {R : σ → τ → Prop} {x : Action σ α} {y : Action τ α}

theorem ofOutcome (r : Outcome α) : Matches R (ofOutcome r) (ofOutcome r) :=
  fun _ _ h ↦ ⟨rfl, h⟩

theorem pure (a : α) : Matches R (Pure.pure a) (Pure.pure a) :=
  ofOutcome (.ok a)

theorem write {f : σ → σ} {g : τ → τ} (h : ∀ s t, R s t → R (f s) (g t)) :
    Matches R (write f) (write g) :=
  fun s t hst ↦ ⟨rfl, h s t hst⟩

theorem bind {f : α → Action σ β} {g : α → Action τ β} (hx : Matches R x y)
    (hf : ∀ a, Matches R (f a) (g a)) : Matches R (x >>= f) (y >>= g) := by
  intro s t hst
  obtain ⟨houtcome, hrel⟩ := hx s t hst
  have hresult : x.result s = y.result t := congrArg Outcome.result houtcome
  constructor
  · rw [outcome_bind, outcome_bind, houtcome]
    exact congrArg _ (funext fun a ↦ (hf a _ _ hrel).1)
  · rw [after_bind, after_bind, hresult]
    split
    · exact (hf _ _ _ hrel).2
    · exact hrel

/-- What follows a call need only match if the call succeeds. -/
theorem ofOutcome_bind {r : Outcome γ} {f : γ → Action σ α} {g : γ → Action τ α}
    (h : ∀ c, r.result = .ok c → Matches R (f c) (g c)) :
    Matches R (Action.ofOutcome r >>= f) (Action.ofOutcome r >>= g) := by
  intro s t hst
  rw [outcome_bind, outcome_bind, after_bind, after_bind]
  obtain ⟨⟨e⟩ | ⟨c⟩, warnings⟩ := r
  · exact ⟨rfl, hst⟩
  · obtain ⟨houtcome, hrel⟩ := h c rfl s t hst
    exact ⟨congrArg (fun o ↦ (⟨.ok c, warnings⟩ : Outcome γ).andThen fun _ ↦ o) houtcome, hrel⟩

/-- Actions that look at their states first. -/
theorem state_bind {f : σ → Action σ α} {g : τ → Action τ α}
    (h : ∀ s t, R s t → Matches R (f s) (g t)) : Matches R (state >>= f) (state >>= g) := by
  intro s t hst
  rw [run_state_bind, run_state_bind, Action.after, Action.after, run_state_bind, run_state_bind]
  exact h s t hst s t hst

end Matches

/-- On states that `R` relates, two actions end in one error or both succeed, whatever they answer,
and lead to states that `R` relates. -/
def Follows {τ : Type} (R : σ → τ → Prop) (x : Action σ α) (y : Action τ α) : Prop :=
  ∀ s t, R s t →
    (x.result s).map (fun _ ↦ ()) = (y.result t).map (fun _ ↦ ()) ∧ R (x.after s) (y.after t)

theorem Matches.follows {τ : Type} {R : σ → τ → Prop} {x : Action σ α} {y : Action τ α}
    (h : Matches R x y) : Follows R x y :=
  fun s t hst ↦ ⟨congrArg (fun o ↦ o.result.map fun _ ↦ ()) (h s t hst).1, (h s t hst).2⟩

end Provisioning.Action
