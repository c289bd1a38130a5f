import Mathlib.Data.List.Permutation
import Provisioning.Proofs.Provider.Registry
import Provisioning.Provider.Shelf

/-!
Registries along the steps of a program. Seen from one registry, the steps of a program are a run of
its own (`Shelf.registryAt_run`), whatever is done with the other registries in between. Along a run
a registry offers the first of the names that it knows, in the order in which they were first
registered, and never fewer than before. After a start that succeeds it offers all of them, each
with a new module of the blueprint that was last registered under the name. The registry that all
parts of a program share stays the same one (`Shelf.providers_of_run`).
-/

set_option autoImplicit false

namespace Provisioning.Provider

/-- The built-in modules are made without settings and take over those they are given. -/
theorem Blueprint.isPlain_of_mem_builtIn [Domain.SuffixList] {b : Blueprint} (h : b ∈ builtIn) :
    b.IsPlain := by
  simp only [builtIn, List.mem_cons, List.not_mem_nil, or_false] at h
  rcases h with rfl | rfl | rfl | rfl <;>
    exact ⟨fun _ _ h ↦ (Except.ok.inj h).symm, fun _ _ _ _ ↦ rfl⟩

namespace Registry

/-! ### One registry -/

/-- The blueprint that a step registers. -/
def Step.registered? : Step → Option Blueprint
  | register b => some b
  | start _ _ => none

/-- The blueprints that a new registry has been given after some steps, the built-in ones first. -/
def blueprints [Domain.SuffixList] (steps : List Step) : List Blueprint :=
  Blueprint.builtIn ++ steps.filterMap Step.registered?

/-- The names of these blueprints, in the order in which they were first registered. -/
def names [Domain.SuffixList] (steps : List Step) : List String :=
  distinct ((blueprints steps).map Blueprint.name)

/-- The blueprint that was last registered under a name. -/
def latest? [Domain.SuffixList] (steps : List Step) (name : String) : Option Blueprint :=
  (blueprints steps).reverse.find? fun b ↦ b.name == name

theorem run_append (r : Registry) (xs ys : List Step) : r.run (xs ++ ys) = (r.run xs).run ys :=
  List.foldl_append

theorem providers_equipped (r : Registry) (module : Blueprint → Module)
    (es : Table String Blueprint) : r.providers <+: (r.equipped module es).providers :=
  Table.keys_prefix_putAll _ _

namespace Sound

variable {r : Registry}

theorem known_start (hr : r.Sound) (settings : Option Settings) (now : Nat) :
    (r.start settings now).1.known = r.known := by
  rcases hr.start_cases settings now with
    ⟨_, _, _, _, -, -, h⟩ | ⟨_, _, _, _, -, -, -, h⟩ | ⟨-, h⟩ <;> rw [h] <;> rfl

theorem known_run (hr : r.Sound) (steps : List Step) :
    (r.run steps).known =
      r.known.putAll ((steps.filterMap Step.registered?).map fun b ↦ (b.name, b)) := by
  induction steps generalizing r with
  | nil => rfl
  | cons s rest ih =>
    refine (ih (hr.perform s)).trans ?_
    cases s with
    | register b => rfl
    | start settings now =>
      change (r.start settings now).1.known.putAll _ = _
      rw [hr.known_start]
      rfl

/-- A step does not take back any module. -/
theorem providers_perform (hr : r.Sound) (s : Step) : r.providers <+: (s.perform r).providers := by
  cases s with
  | register b => exact List.prefix_rfl
  | start settings now =>
    rw [Step.perform]
    rcases hr.start_cases settings now with
      ⟨before, _, _, _, -, -, h⟩ | ⟨before, b, _, _, -, -, -, h⟩ | ⟨-, h⟩ <;> rw [h]
    · exact providers_equipped r _ before
    · exact (providers_equipped r _ r.known).trans (providers_equipped _ _ _)
    · exact (providers_equipped r _ r.known).trans (providers_equipped _ _ _)

theorem providers_run (hr : r.Sound) (steps : List Step) :
    r.providers <+: (r.run steps).providers := by
  induction steps generalizing r with
  | nil => exact List.prefix_rfl
  | cons s rest ih => exact (hr.providers_perform s).trans (ih (hr.perform s))

/-- After a start that succeeds, nothing is left of the modules that there were before. -/
theorem modules_start (hr : r.Sound) {settings : Option Settings} {now : Nat} {r' : Registry}
    (h : r.start settings now = (r', .ok ())) :
    r'.modules = modulesOf (·.equippedAt now (settings.getD {})) r'.known ∧
      ∀ x ∈ r'.known, ((x.2.moduleAt now).setUp now (settings.getD {})).2 = .ok () := by
  rcases hr.start_cases settings now with
    ⟨_, _, _, _, -, -, hstart⟩ | ⟨_, _, _, _, -, -, -, hstart⟩ | ⟨hall, hstart⟩
  · cases h.symm.trans hstart
  · cases h.symm.trans hstart
  · cases h.symm.trans hstart
    exact ⟨(hr.equipped _ List.prefix_rfl).modules_equipped _, hall⟩

/-- What a start leaves are modules that there were before, and modules that are made in it. -/
theorem mem_modules_start (hr : r.Sound) {settings : Option Settings} {now : Nat}
    {x : String × Module} (hx : x ∈ (r.start settings now).1.modules) :
    x ∈ r.modules ∨ x.2.madeAt = now := by
  have hequipped {r : Registry} {module : Blueprint → Module} {es : Table String Blueprint}
      (hmodule : ∀ b, (module b).madeAt = now) (hx : x ∈ (r.equipped module es).modules) :
      x ∈ r.modules ∨ x.2.madeAt = now := by
    refine (Table.mem_putAll hx).imp_right fun hnew ↦ ?_
    obtain ⟨e, -, rfl⟩ := List.mem_map.mp hnew
    exact hmodule e.2
  have hmade : ∀ b : Blueprint, (b.moduleAt now).madeAt = now := fun _ ↦ rfl
  have hset : ∀ b : Blueprint, (b.equippedAt now (settings.getD {})).madeAt = now := fun _ ↦ rfl
  rcases hr.start_cases settings now with
    ⟨_, _, _, _, -, -, h⟩ | ⟨_, _, _, _, -, -, -, h⟩ | ⟨-, h⟩ <;> rw [h] at hx
  · exact hequipped hmade hx
  · exact (hequipped hset hx).elim (hequipped hmade) .inr
  · exact (hequipped hset hx).elim (hequipped hmade) .inr

end Sound

theorem get?_modulesOf (module : Blueprint → Module) (es : Table String Blueprint) (name : String) :
    (modulesOf module es).get? name = (es.get? name).map module := by
  simp [modulesOf, Table.get?, List.find?_map, Function.comp_def]

section Runs

variable [Domain.SuffixList] (steps : List Step)

/-- A new registry knows after some steps just what has been registered. -/
theorem known_run_new :
    (new.run steps).known = Table.ofList ((blueprints steps).map fun b ↦ (b.name, b)) := by
  rw [Sound.new.known_run, blueprints, List.map_append, Table.ofList_append]
  rfl

theorem keys_known_run_new : (new.run steps).known.keys = names steps := by
  rw [known_run_new, Table.keys_ofList, List.map_map]
  rfl

theorem get?_known_run_new (name : String) :
    (new.run steps).known.get? name = latest? steps name := by
  rw [known_run_new, Table.get?_ofList, ← List.map_reverse, Table.get?, List.find?_map,
    Option.map_map, latest?]
  exact Option.map_id'

/-- The built-in names come first. -/
theorem builtIn_prefix_names :
    ["generic", "softlayer", "ec2", "aws-ec2"] <+: names steps := by
  rw [← keys_known_run_new, Sound.new.known_run]
  exact Table.keys_prefix_putAll new.known _

theorem providers_prefix_names : (new.run steps).providers <+: names steps := by
  rw [← keys_known_run_new]
  exact (Sound.new.run steps).made

/-- After a start that succeeds, there is a module for each name that has been registered, which is
made in this start. If the blueprints that have been registered are plain, it is one of the latest
blueprint, with the settings of the start and with nothing else. -/
theorem start_run_new {settings : Option Settings} {now : Nat} {r : Registry}
    (h : (new.run steps).start settings now = (r, .ok ())) :
    r.providers = names steps ∧ (∀ x ∈ r.modules, x.2.madeAt = now) ∧
      ((∀ b ∈ steps.filterMap Step.registered?, b.IsPlain) →
        r.modules = modulesOf (⟨·, some (settings.getD {}), now⟩) r.known ∧
          ∀ name, r.module? name =
            (latest? steps name).map fun b ↦ ⟨b, some (settings.getD {}), now⟩) := by
  have hsound := Sound.new.run steps
  obtain ⟨hmodules, hset⟩ := hsound.modules_start h
  have hknown : r.known = (new.run steps).known := by
    rw [← hsound.known_start settings now, h]
  refine ⟨?_, fun x hx ↦ ?_, fun hregistered ↦ ?_⟩
  · rw [providers, hmodules, keys_modulesOf, hknown, keys_known_run_new]
  · rw [hmodules] at hx
    obtain ⟨e, -, rfl⟩ := List.mem_map.mp hx
    rfl
  · have hall : r.modules = modulesOf (⟨·, some (settings.getD {}), now⟩) r.known := by
      refine hmodules.trans (List.map_congr_left fun x hx ↦ ?_)
      have hx' : x ∈ Table.ofList ((blueprints steps).map fun b ↦ (b.name, b)) :=
        known_run_new steps ▸ hknown ▸ hx
      obtain ⟨b, hb, rfl⟩ :=
        List.mem_map.mp ((Table.mem_putAll hx').resolve_left List.not_mem_nil)
      have hplain : b.IsPlain :=
        (List.mem_append.mp hb).elim Blueprint.isPlain_of_mem_builtIn (hregistered b)
      exact congrArg (Prod.mk b.name) (hplain.equippedAt_eq (hset _ hx))
    refine ⟨hall, fun name ↦ ?_⟩
    rw [module?, hall, get?_modulesOf, hknown, get?_known_run_new]

end Runs

end Registry

/-! ### All registries of a program -/

namespace Shelf

variable {p : Shelf} {place here : Nat} {r : Registry}

theorem registries_tick (p : Shelf) : p.tick.registries = p.registries := rfl

theorem lt_length_of_some (h : p.registries[place]? = some r) : place < p.registries.length :=
  (List.getElem?_eq_some_iff.mp h).1

theorem useAt_of_some (h : p.registries[place]? = some r)
    (use : Registry → Registry × Except Error Unit) :
    p.useAt place use =
      ({ p with registries := p.registries.set place (use r).1 },
        (use r).2.map fun _ ↦ place) := by
  rw [useAt, h]

theorem shared_useAt (p : Shelf) (here : Nat) (use : Registry → Registry × Except Error Unit) :
    (p.useAt here use).1.shared = p.shared := by
  rw [useAt]
  split <;> rfl

theorem length_useAt (p : Shelf) (here : Nat) (use : Registry → Registry × Except Error Unit) :
    (p.useAt here use).1.registries.length = p.registries.length := by
  rw [useAt]
  split
  · rfl
  · exact List.length_set

/-- The use of one registry leaves the others alone. -/
theorem getElem?_useAt (h : p.registries[place]? = some r) (here : Nat)
    (use : Registry → Registry × Except Error Unit) :
    (p.useAt here use).1.registries[place]? = some (if here = place then (use r).1 else r) := by
  by_cases hhere : here = place
  · subst hhere
    rw [useAt_of_some h, if_pos rfl]
    exact List.getElem?_set_self (lt_length_of_some h)
  · rw [useAt, if_neg hhere]
    split
    · exact h
    · exact (List.getElem?_set_ne hhere).trans h

/-- The answer is the place if nothing fails. -/
theorem answer_eq_ok_iff {result : Except Error Unit} :
    (result.map fun _ ↦ place) = .ok here ↔ result = .ok () ∧ here = place := by
  cases result <;> simp [Except.map, eq_comm]

theorem exists_of_useAt {use : Registry → Registry × Except Error Unit}
    (h : (p.useAt place use).2 = .ok here) :
    ∃ r, p.registries[place]? = some r ∧ (use r).2 = .ok () ∧ here = place := by
  cases hplace : p.registries[place]? with
  | none =>
    rw [useAt, hplace] at h
    cases h
  | some r =>
    rw [useAt_of_some hplace] at h
    exact ⟨r, rfl, answer_eq_ok_iff.mp h⟩

/-! ### The age of modules -/

/-- Every module of every registry was made in some step before. -/
def Dated (p : Shelf) : Prop :=
  ∀ r ∈ p.registries, r.Sound ∧ ∀ x ∈ r.modules, x.2.madeAt < p.clock

theorem Dated.useAt (hp : p.Dated) (here : Nat) {use : Registry → Registry × Except Error Unit}
    (huse : ∀ r, r.Sound → (use r).1.Sound ∧
      ∀ x ∈ (use r).1.modules, x ∈ r.modules ∨ x.2.madeAt = p.clock) :
    (p.useAt here use).1.tick.Dated := by
  have htick : p.tick.Dated := fun r hr ↦
    ⟨(hp r hr).1, fun x hx ↦ Nat.lt_succ_of_lt ((hp r hr).2 x hx)⟩
  cases hhere : p.registries[here]? with
  | none =>
    rw [Shelf.useAt, hhere]
    exact htick
  | some r =>
    rw [useAt_of_some hhere]
    intro q hq
    rcases List.mem_or_eq_of_mem_set hq with hq | rfl
    · exact htick q hq
    · obtain ⟨hsound, hold⟩ := hp r (List.mem_of_getElem? hhere)
      obtain ⟨hsound', hnew⟩ := huse r hsound
      exact ⟨hsound', fun x hx ↦ (hnew x hx).elim (fun h ↦ Nat.lt_succ_of_lt (hold x h))
        fun h ↦ h ▸ Nat.lt_succ_self _⟩

theorem start_dates {r : Registry} (hr : r.Sound) (settings : Option Settings) (now : Nat) :
    (r.start settings now).1.Sound ∧
      ∀ x ∈ (r.start settings now).1.modules, x ∈ r.modules ∨ x.2.madeAt = now :=
  ⟨hr.start settings now, fun _ hx ↦ hr.mem_modules_start hx⟩

section Runs

variable [Domain.SuffixList]

/-- The registry at a place, which is a new one if there is none yet. -/
def registryAt (p : Shelf) (place : Nat) : Registry :=
  p.registries[place]?.getD Registry.new

/-- The step that is taken with the registry at a place. The shared registry is also started when it
is made, and later when it is asked for with settings. -/
def Step.stepAt? (p : Shelf) (place : Nat) : Step → Option Registry.Step
  | create => none
  | register here b => if here = place then some (.register b) else none
  | start here settings => if here = place then some (.start settings p.clock) else none
  | fetch settings =>
    match p.shared with
    | none => if p.registries.length = place then some (.start settings p.clock) else none
    | some here => if here = place then settings.map fun s ↦ .start (some s) p.clock else none

/-- The steps that are taken with the registry at a place, from when it is made. -/
def stepsAt (place : Nat) : Shelf → List Step → List Registry.Step
  | _, [] => []
  | p, s :: rest =>
    let next := (s.perform p).1
    (if place < next.registries.length then (s.stepAt? p place).toList else []) ++
      stepsAt place next rest

theorem run_append (p : Shelf) (xs ys : List Step) : p.run (xs ++ ys) = (p.run xs).run ys :=
  List.foldl_append

theorem registryAt_of_some (h : p.registries[place]? = some r) : p.registryAt place = r := by
  rw [registryAt, h]
  rfl

theorem registryAt_of_le (h : p.registries.length ≤ place) :
    p.registryAt place = Registry.new := by
  rw [registryAt, List.getElem?_eq_none h]
  rfl

/-- The shared registry is made and started when it is first asked for. -/
theorem fetch_first (h : p.shared = none) (settings : Option Settings) :
    (Step.fetch settings).perform p =
      (⟨p.registries ++ [(Registry.new.start settings p.clock).1], some p.registries.length,
          p.clock + 1⟩,
        (Registry.new.start settings p.clock).2.map fun _ ↦ p.registries.length) := by
  rw [Step.perform, Step.act, h]
  rfl

theorem fetch_again (h : p.shared = some here) (settings : Option Settings) :
    (Step.fetch settings).perform p =
      ((p.useAt here fun r ↦ Registry.shared (some r) settings p.clock).1.tick,
        (p.useAt here fun r ↦ Registry.shared (some r) settings p.clock).2) := by
  rw [Step.perform, Step.act, h]

theorem shared_some (r : Registry) (settings : Option Settings) (now : Nat) :
    (Registry.shared (some r) settings now).1 =
      r.run (settings.map fun s ↦ Registry.Step.start (some s) now).toList := by
  cases settings <;> rfl

/-- A registry that is there takes the step that is meant for it, or none. -/
theorem getElem?_perform (h : p.registries[place]? = some r) (s : Step) :
    (s.perform p).1.registries[place]? = some (r.run (s.stepAt? p place).toList) := by
  have hlt := lt_length_of_some h
  cases s with
  | create => exact (List.getElem?_append_left hlt).trans h
  | register here b =>
    rw [Step.perform, Step.act, registries_tick, getElem?_useAt h, Step.stepAt?]
    split <;> rfl
  | start here settings =>
    rw [Step.perform, Step.act, registries_tick, getElem?_useAt h, Step.stepAt?]
    split <;> rfl
  | fetch settings =>
    rw [Step.stepAt?]
    cases hshared : p.shared with
    | none =>
      rw [fetch_first hshared]
      simp only
      rw [if_neg (Nat.ne_of_gt hlt)]
      exact (List.getElem?_append_left hlt).trans h
    | some here =>
      rw [fetch_again hshared, registries_tick, getElem?_useAt h, shared_some]
      simp only
      split <;> rfl

/-- A step leaves as many registries as there were, or it makes one more. -/
theorem perform_cases (p : Shelf) (s : Step) :
    (s.perform p).1.registries.length = p.registries.length ∨
      (s.perform p).1.registries =
        p.registries ++ [Registry.new.run (s.stepAt? p p.registries.length).toList] := by
  cases s with
  | create => exact .inr rfl
  | register here b => exact .inl (length_useAt p here _)
  | start here settings => exact .inl (length_useAt p here _)
  | fetch settings =>
    rw [Step.stepAt?]
    cases hshared : p.shared with
    | none =>
      rw [fetch_first hshared]
      exact .inr (by simp [Registry.run, Registry.Step.perform])
    | some here =>
      rw [fetch_again hshared]
      exact .inl (length_useAt p here _)

theorem length_perform (p : Shelf) (s : Step) :
    p.registries.length ≤ (s.perform p).1.registries.length := by
  rcases perform_cases p s with h | h
  · exact Nat.le_of_eq h.symm
  · rw [h, List.length_append]
    exact Nat.le_add_right _ _

/-- Seen from one place, a step with all registries is the step that is meant for the place. -/
theorem registryAt_perform (p : Shelf) (place : Nat) (s : Step) :
    (s.perform p).1.registryAt place = (p.registryAt place).run
      (if place < (s.perform p).1.registries.length then (s.stepAt? p place).toList else []) := by
  by_cases hplace : place < p.registries.length
  · have hsome := List.getElem?_eq_getElem hplace
    have hnext := getElem?_perform hsome s
    rw [if_pos (lt_length_of_some hnext), registryAt_of_some hnext, registryAt_of_some hsome]
  · rw [registryAt_of_le (Nat.le_of_not_lt hplace)]
    by_cases hnext : place < (s.perform p).1.registries.length
    · rw [if_pos hnext]
      rcases perform_cases p s with h | h
      · exact absurd (h ▸ hnext) hplace
      · -- The place is that of the registry that is made in this step.
        rw [h, List.length_append, List.length_singleton] at hnext
        obtain rfl : place = p.registries.length := by omega
        exact registryAt_of_some (by rw [h, List.getElem?_concat_length])
    · rw [if_neg hnext, registryAt_of_le (Nat.le_of_not_lt hnext)]
      rfl

/-- Seen from one place, a run with all registries is the run of the steps for the place. -/
theorem registryAt_run (p : Shelf) (place : Nat) (steps : List Step) :
    (p.run steps).registryAt place = (p.registryAt place).run (stepsAt place p steps) := by
  induction steps generalizing p with
  | nil => rfl
  | cons s rest ih =>
    calc (p.run (s :: rest)).registryAt place
        = ((s.perform p).1.run rest).registryAt place := rfl
      _ = (p.registryAt place).run (stepsAt place p (s :: rest)) := by
        rw [ih, registryAt_perform, stepsAt, Registry.run_append]

theorem registryAt_run_start (steps : List Step) (place : Nat) :
    (run {} steps).registryAt place = Registry.new.run (stepsAt place {} steps) :=
  registryAt_run {} place steps

/-- What a registry is depends on its own steps only. -/
theorem eq_run_of_some {steps : List Step} (h : (run {} steps).registries[place]? = some r) :
    r = Registry.new.run (stepsAt place {} steps) := by
  rw [← registryAt_run_start, registryAt_of_some h]

/-- A registry that is there stays there and goes on. -/
theorem exists_run (h : p.registries[place]? = some r) (steps : List Step) :
    ∃ more, (p.run steps).registries[place]? = some (r.run more) := by
  induction steps generalizing p r with
  | nil => exact ⟨[], h⟩
  | cons s rest ih =>
    obtain ⟨more, hmore⟩ := ih (getElem?_perform h s)
    exact ⟨_ ++ more, by rw [Registry.run_append]; exact hmore⟩

/-- Where a step that is to start the registry at a place does not fail, the start did not fail
either, and the registry is there. -/
theorem start_of_stepAt? {s : Step} {settings : Option Settings} {now place' : Nat}
    (hstep : s.stepAt? p place = some (.start settings now))
    (hok : (s.perform p).2 = .ok place') :
    now = p.clock ∧ place' = place ∧ place < (s.perform p).1.registries.length ∧
      ((p.registryAt place).start settings now).2 = .ok () := by
  cases s with
  | create => cases hstep
  | register here b =>
    rw [Step.stepAt?] at hstep
    split at hstep <;> cases hstep
  | start here settings' =>
    rw [Step.stepAt?] at hstep
    split at hstep
    · next heq =>
      cases hstep
      subst heq
      obtain ⟨r, hr, hstart, rfl⟩ := exists_of_useAt hok
      rw [registryAt_of_some hr]
      exact ⟨rfl, rfl, lt_length_of_some (getElem?_perform hr _), hstart⟩
    · cases hstep
  | fetch given =>
    rw [Step.stepAt?] at hstep
    cases hshared : p.shared with
    | none =>
      simp only [hshared] at hstep
      split at hstep
      · next heq =>
        cases hstep
        subst heq
        simp only [fetch_first hshared, answer_eq_ok_iff] at hok ⊢
        rw [registryAt_of_le (Nat.le_refl _)]
        exact ⟨trivial, hok.2, by simp, hok.1⟩
      · cases hstep
    | some here =>
      simp only [hshared] at hstep
      split at hstep
      · next heq =>
        obtain ⟨settings', rfl, hsettings⟩ := Option.map_eq_some_iff.mp hstep
        cases hsettings
        subst heq
        rw [fetch_again hshared] at hok
        obtain ⟨r, hr, hstart, rfl⟩ := exists_of_useAt hok
        rw [registryAt_of_some hr]
        exact ⟨rfl, rfl, lt_length_of_some (getElem?_perform hr _), hstart⟩
      · cases hstep

/-- After a step that starts the registry at a place, the registry is what the start made of it. -/
theorem exists_started {steps : List Step} {s : Step} {settings : Option Settings}
    {now place' : Nat} (hstep : s.stepAt? (run {} steps) place = some (.start settings now))
    (hok : (s.perform (run {} steps)).2 = .ok place') :
    now = (run {} steps).clock ∧ place' = place ∧
      ∃ r, (run {} (steps ++ [s])).registries[place]? = some r ∧
        (Registry.new.run (stepsAt place {} steps)).start settings now = (r, .ok ()) := by
  obtain ⟨hnow, hplace, hthere, hstart⟩ := start_of_stepAt? hstep hok
  have hsome := List.getElem?_eq_getElem hthere
  have hafter := registryAt_perform (run {} steps) place s
  rw [if_pos hthere, hstep, registryAt_run_start, registryAt_of_some hsome] at hafter
  rw [registryAt_run_start] at hstart
  rw [run_append]
  exact ⟨hnow, hplace, _, hsome, Prod.ext hafter.symm hstart⟩

/-- What is registered with the registry at a place is registered in some step. -/
theorem exists_register_of_mem_stepsAt {p : Shelf} {steps : List Step} {b : Blueprint}
    (h : b ∈ (stepsAt place p steps).filterMap Registry.Step.registered?) :
    ∃ here, Step.register here b ∈ steps := by
  induction steps generalizing p with
  | nil => cases h
  | cons s rest ih =>
    rw [stepsAt, List.filterMap_append, List.mem_append] at h
    rcases h with h | h
    · obtain ⟨step, hstep, hb⟩ := List.mem_filterMap.mp h
      split at hstep
      · have hsome := Option.mem_toList.mp hstep
        cases s with
        | create => cases hsome
        | register here b' =>
          rw [Step.stepAt?] at hsome
          split at hsome <;> cases hsome
          cases hb
          exact ⟨here, List.mem_cons_self⟩
        | start here settings =>
          rw [Step.stepAt?] at hsome
          split at hsome <;> cases hsome
          cases hb
        | fetch settings =>
          rw [Step.stepAt?] at hsome
          split at hsome <;> split at hsome
          · cases hsome
            cases hb
          · cases hsome
          · obtain ⟨_, _, rfl⟩ := Option.map_eq_some_iff.mp hsome
            cases hb
          · cases hsome
      · cases hstep
    · obtain ⟨here, hmem⟩ := ih h
      exact ⟨here, List.mem_cons_of_mem s hmem⟩

theorem Dated.perform (hp : p.Dated) (s : Step) : (s.perform p).1.Dated := by
  have hlater : ∀ q ∈ p.registries, q.Sound ∧ ∀ x ∈ q.modules, x.2.madeAt < p.clock + 1 :=
    fun q hq ↦ ⟨(hp q hq).1, fun x hx ↦ Nat.lt_succ_of_lt ((hp q hq).2 x hx)⟩
  cases s with
  | create =>
    exact List.forall_mem_append.mpr ⟨hlater,
      List.forall_mem_singleton.mpr ⟨.new, List.forall_mem_nil _⟩⟩
  | register here b =>
    exact hp.useAt here fun r hr ↦ ⟨hr.register b, fun x hx ↦ .inl hx⟩
  | start here settings => exact hp.useAt here fun r hr ↦ start_dates hr settings p.clock
  | fetch settings =>
    cases hshared : p.shared with
    | none =>
      rw [fetch_first hshared]
      obtain ⟨hsound, hnew⟩ := start_dates .new settings p.clock
      refine List.forall_mem_append.mpr ⟨hlater, List.forall_mem_singleton.mpr ⟨hsound, ?_⟩⟩
      exact fun x hx ↦ (hnew x hx).elim nofun fun h ↦ h ▸ Nat.lt_succ_self _
    | some here =>
      rw [fetch_again hshared]
      refine hp.useAt here fun r hr ↦ ?_
      cases settings with
      | none => exact ⟨hr, fun x hx ↦ .inl hx⟩
      | some given => exact start_dates hr (some given) p.clock

theorem Dated.run (hp : p.Dated) (steps : List Step) : (p.run steps).Dated := by
  induction steps generalizing p with
  | nil => exact hp
  | cons s rest ih => exact ih (hp.perform s)

/-! ### The shared registry -/

/-- The shared registry has a place among the others, and there it stays. -/
structure Shares (p : Shelf) (place : Nat) : Prop where
  shared_eq : p.shared = some place
  lt_length : place < p.registries.length

theorem Shares.perform (h : p.Shares place) (s : Step) : (s.perform p).1.Shares place := by
  refine ⟨?_, Nat.lt_of_lt_of_le h.lt_length (length_perform p s)⟩
  cases s with
  | create => exact h.shared_eq
  | register here b => exact (shared_useAt p here _).trans h.shared_eq
  | start here settings => exact (shared_useAt p here _).trans h.shared_eq
  | fetch settings =>
    rw [fetch_again h.shared_eq]
    exact (shared_useAt p place _).trans h.shared_eq

theorem Shares.run (h : p.Shares place) (steps : List Step) : (p.run steps).Shares place := by
  induction steps generalizing p with
  | nil => exact h
  | cons s rest ih => exact ih (h.perform s)

/-- The registry that is made when it is first asked for is shared from then on, even if its start
fails. -/
theorem Shares.first (h : p.shared = none) (settings : Option Settings) :
    ((Step.fetch settings).perform p).1.Shares p.registries.length := by
  rw [fetch_first h]
  exact ⟨rfl, by simp⟩

/-- Whoever asks for the shared registry is answered its place, and nothing else happens unless there
are settings. -/
theorem Shares.fetch_none (h : p.Shares place) :
    (Step.fetch none).perform p = (p.tick, .ok place) := by
  have hsome := List.getElem?_eq_getElem h.lt_length
  rw [fetch_again h.shared_eq, useAt_of_some hsome]
  simp [Registry.shared, Except.map]

theorem Shares.answer (h : p.Shares place) {settings : Option Settings} {place' : Nat}
    (hok : ((Step.fetch settings).perform p).2 = .ok place') : place' = place := by
  rw [fetch_again h.shared_eq] at hok
  obtain ⟨-, -, -, heq⟩ := exists_of_useAt hok
  exact heq

/-- As long as nobody has asked for it, there is no shared registry. -/
theorem shared_run (steps : List Step) :
    (run {} steps).shared = none ∨ ∃ place, (run {} steps).Shares place := by
  suffices h : ∀ p : Shelf, (p.shared = none ∨ ∃ place, p.Shares place) →
      (p.run steps).shared = none ∨ ∃ place, (p.run steps).Shares place from h {} (.inl rfl)
  induction steps with
  | nil => exact fun p hp ↦ hp
  | cons s rest ih =>
    refine fun p hp ↦ ih (s.perform p).1 ?_
    rcases hp with hnone | ⟨place, h⟩
    · cases s with
      | create => exact .inl hnone
      | register here b => exact .inl ((shared_useAt p here _).trans hnone)
      | start here settings => exact .inl ((shared_useAt p here _).trans hnone)
      | fetch settings => exact .inr ⟨_, .first hnone settings⟩
    · exact .inr ⟨place, h.perform s⟩

theorem shares_run (steps : List Step) (h : (run {} steps).shared = some place) :
    (run {} steps).Shares place := by
  rcases shared_run steps with hnone | ⟨place', hshares⟩
  · cases hnone.symm.trans h
  · obtain rfl : place' = place := Option.some.inj (hshares.shared_eq.symm.trans h)
    exact hshares

/-! ### What holds along every run -/

/-- After any steps, each registry offers the first of the names that have been registered with it,
and it keeps what it offers. After a step that starts it without a failure, it offers all of them,
and if all blueprints that were registered are plain, each with a module of the latest blueprint that
has the settings of this start and is made in this step, which no module was that there had been in
any registry. Who asks for the shared registry is answered the same one from the first time on, and
changes nothing if this is not the first time and no settings are given. -/
theorem providers_of_run (steps : List Step) :
    (∀ place r, (run {} steps).registries[place]? = some r →
      ["generic", "softlayer", "ec2", "aws-ec2"] <+: Registry.names (stepsAt place {} steps) ∧
        r.providers <+: Registry.names (stepsAt place {} steps) ∧
        ∀ more, ∃ r', (run {} (steps ++ more)).registries[place]? = some r' ∧
          r.providers <+: r'.providers) ∧
      (∀ (s : Step) place settings now place',
        s.stepAt? (run {} steps) place = some (.start settings now) →
          (s.perform (run {} steps)).2 = .ok place' →
            place' = place ∧ ∃ r, (run {} (steps ++ [s])).registries[place]? = some r ∧
              r.providers = Registry.names (stepsAt place {} steps) ∧
              (∀ x ∈ r.modules, x.2.madeAt = now) ∧
              (∀ old ∈ (run {} steps).registries, ∀ x ∈ old.modules, x.2.madeAt < now) ∧
              ((∀ here b, Step.register here b ∈ steps → b.IsPlain) →
                r.modules = Registry.modulesOf (⟨·, some (settings.getD {}), now⟩) r.known ∧
                  ∀ name, r.module? name =
                    (Registry.latest? (stepsAt place {} steps) name).map fun b ↦
                      ⟨b, some (settings.getD {}), now⟩)) ∧
      (∀ settings, ∃ place, (run {} (steps ++ [.fetch settings])).Shares place ∧
        ∀ place', ((Step.fetch settings).perform (run {} steps)).2 = .ok place' →
          place' = place) ∧
      ∀ place, (run {} steps).shared = some place →
        (Step.fetch none).perform (run {} steps) = ((run {} steps).tick, .ok place) ∧
          ∀ more settings place',
            ((Step.fetch settings).perform (run {} (steps ++ more))).2 = .ok place' →
              place' = place := by
  refine ⟨fun place r hr ↦ ?_, fun s place settings now place' hstep hok ↦ ?_, fun settings ↦ ?_,
    fun place hplace ↦ ?_⟩
  · obtain rfl := eq_run_of_some hr
    refine ⟨Registry.builtIn_prefix_names _, Registry.providers_prefix_names _, fun more ↦ ?_⟩
    obtain ⟨later, hlater⟩ := exists_run hr more
    rw [run_append]
    exact ⟨_, hlater, (Registry.Sound.new.run _).providers_run later⟩
  · obtain ⟨rfl, hplace, r, hr, hstart⟩ := exists_started hstep hok
    obtain ⟨hproviders, hmade, hplainly⟩ := Registry.start_run_new _ hstart
    have hdated : (run {} steps).Dated := Dated.run (p := {}) (List.forall_mem_nil _) steps
    refine ⟨hplace, r, hr, hproviders, hmade, fun old hold ↦ (hdated old hold).2,
      fun hplain ↦ hplainly fun b hb ↦ ?_⟩
    obtain ⟨here, hmem⟩ := exists_register_of_mem_stepsAt hb
    exact hplain here b hmem
  · rw [run_append]
    rcases shared_run steps with hnone | ⟨place, hshares⟩
    · refine ⟨_, .first hnone settings, fun place' hok ↦ ?_⟩
      simp only [fetch_first hnone, answer_eq_ok_iff] at hok
      exact hok.2
    · exact ⟨place, hshares.perform (.fetch settings), fun place' hok ↦ hshares.answer hok⟩
  · have hshares := shares_run steps hplace
    refine ⟨hshares.fetch_none, fun more settings place' hok ↦ ?_⟩
    rw [run_append] at hok
    exact (hshares.run more).answer hok

end Runs

/-- A blueprint that is to stand in place of a built-in one. -/
def otherEc2 : Blueprint :=
  { name := "ec2", kind := .base }

/-- A blueprint whose modules take no settings without monitoring. -/
def watchful : Blueprint :=
  { name := "watchful", kind := .base
    setUp := fun _ given held ↦
      if given.awsEc2.enableMonitoring then (some given, .ok ())
      else (held, .error (.startup .setup "watchful")) }

/-- Settings with monitoring. -/
def monitored : Settings :=
  { awsEc2 := { enableMonitoring := true } }

/-- Steps with the shared registry, the last of which fails, and with another registry. -/
def mixedSteps : List Step :=
  [.fetch none, .create, .register 0 watchful, .register 0 otherEc2, .start 1 none, .fetch (some {})]

theorem isPlain_of_register_mixedSteps {here : Nat} {b : Blueprint}
    (h : Step.register here b ∈ mixedSteps) : b.IsPlain := by
  simp only [mixedSteps, List.mem_cons, List.not_mem_nil, or_false, reduceCtorEq, false_or,
    Step.register.injEq] at h
  rcases h with ⟨-, rfl⟩ | ⟨-, rfl⟩
  · refine ⟨fun _ _ h ↦ (Except.ok.inj h).symm, fun now given held h ↦ ?_⟩
    simp only [watchful] at h ⊢
    split at h
    · next hmonitoring => rw [if_pos hmonitoring]
    · cases h
  · exact ⟨fun _ _ h ↦ (Except.ok.inj h).symm, fun _ _ _ _ ↦ rfl⟩

/-- After a start that fails, the next one with other settings makes up for it, with new modules. -/
theorem providers_of_run_mixedSteps :
    ((Step.fetch (some {})).perform (run {} mixedSteps)).2 = .error (.startup .setup "watchful") ∧
      ((Step.fetch (some monitored)).perform (run {} mixedSteps)).2 = .ok 0 ∧
      ∃ r, (run {} (mixedSteps ++ [.fetch (some monitored)])).registries[0]? = some r ∧
        r.providers = ["generic", "softlayer", "ec2", "aws-ec2", "watchful"] ∧
        r.module? "ec2" = some ⟨otherEc2, some monitored, 6⟩ ∧
        ∀ old ∈ (run {} mixedSteps).registries, ∀ x ∈ old.modules, x.2.madeAt < 6 := by
  have hfailed : ((Step.fetch (some {})).perform (run {} mixedSteps)).2 =
      .error (.startup .setup "watchful") := by
    cbv
  have hok : ((Step.fetch (some monitored)).perform (run {} mixedSteps)).2 = .ok 0 := by
    cbv
  have hstep : (Step.fetch (some monitored)).stepAt? (run {} mixedSteps) 0 =
      some (.start (some monitored) 6) := by
    cbv
  have hnames : Registry.names (stepsAt 0 {} mixedSteps) =
      ["generic", "softlayer", "ec2", "aws-ec2", "watchful"] := by
    cbv
  have hlatest : Registry.latest? (stepsAt 0 {} mixedSteps) "ec2" = some otherEc2 := by
    cbv
  obtain ⟨-, hstarted, -, -⟩ := providers_of_run mixedSteps
  obtain ⟨-, r, hr, hproviders, -, hnew, hplainly⟩ := hstarted _ 0 _ _ 0 hstep hok
  obtain ⟨-, hmodules⟩ := hplainly fun _ _ ↦ isPlain_of_register_mixedSteps
  exact ⟨hfailed, hok, r, hr, hproviders.trans hnames,
    (hmodules "ec2").trans (by rw [hlatest]; rfl), hnew⟩

end Shelf
end Provisioning.Provider
