import Provisioning.Provider.Registry

/-!
Registries over time. A registry is used by making blueprints known and by starting it, and a start
may fail, now and then or always. What a start has done by the time it fails is not taken back:
`start_failed` says which modules it has put in place of earlier ones and what settings these hold,
and that it has left all others alone.
-/

set_option autoImplicit false

namespace Provisioning.Provider.Registry

/-! ### Runs -/

/-- A use of a registry. -/
inductive Step
  | register (b : Blueprint)
  | start (settings : Option Settings) (now : Nat)

/-- The registry after a use, whether or not it fails. -/
def Step.perform : Step → Registry → Registry
  | register b, r => r.register b
  | start settings now, r => (r.start settings now).1

/-- The registry after several uses, one after another. -/
def run (r : Registry) (steps : List Step) : Registry :=
  steps.foldl (fun r s ↦ s.perform r) r

/-- A registry that some uses of a new one lead to. -/
def Reachable [Domain.SuffixList] (r : Registry) : Prop :=
  ∃ steps, new.run steps = r

end Registry

/-! ### What a start does -/

namespace Blueprint

/-- The module that is made of a blueprint at some time. -/
def moduleAt (b : Blueprint) (now : Nat) : Module :=
  ⟨b, (b.make now).toOption.join, now⟩

/-- The module that is made of a blueprint at some time, after it has been given settings. -/
def equippedAt (b : Blueprint) (now : Nat) (given : Settings) : Module :=
  ((b.moduleAt now).setUp now given).1

/-- Modules that are made without settings and, if they do not fail, take over those they are
given. -/
structure IsPlain (b : Blueprint) : Prop where
  make : ∀ now settings, b.make now = .ok settings → settings = none
  setUp : ∀ now given held, (b.setUp now given held).2 = .ok () →
    (b.setUp now given held).1 = some given

theorem IsPlain.equippedAt_eq {b : Blueprint} (hb : b.IsPlain) {now : Nat} {given : Settings}
    (h : ((b.moduleAt now).setUp now given).2 = .ok ()) :
    b.equippedAt now given = ⟨b, some given, now⟩ :=
  congrArg (Module.mk b · now) (hb.setUp now given _ h)

end Blueprint

namespace Registry

/-- A module of each of some blueprints. -/
def modulesOf (module : Blueprint → Module) (es : Table String Blueprint) : Table String Module :=
  es.map fun e ↦ (e.1, module e.2)

/-- The registry with modules of some blueprints in place of earlier ones. -/
def equipped (r : Registry) (module : Blueprint → Module) (es : Table String Blueprint) :
    Registry :=
  { r with modules := r.modules.putAll (modulesOf module es) }

theorem keys_modulesOf (module : Blueprint → Module) (es : Table String Blueprint) :
    (modulesOf module es).keys = es.keys := by
  simp [modulesOf, Table.keys, Function.comp_def]

/-- Either some blueprint is the first that fails, and modules have been made of those before it, or
modules have been made of all of them. -/
theorem makeAll_cases (now : Nat) (es : Table String Blueprint) (r : Registry) :
    (∃ before name b after e, es = before ++ (name, b) :: after ∧ b.make now = .error e ∧
        makeAll now es r = (r.equipped (·.moduleAt now) before, .error e)) ∨
      makeAll now es r = (r.equipped (·.moduleAt now) es, .ok ()) := by
  induction es generalizing r with
  | nil => exact .inr rfl
  | cons e rest ih =>
    obtain ⟨name, b⟩ := e
    cases hmake : b.make now with
    | error e =>
      exact .inl ⟨[], name, b, rest, e, rfl, hmake, by
        simp [makeAll, hmake, equipped, modulesOf, Table.putAll]⟩
    | ok settings =>
      have hmodule : b.moduleAt now = ⟨b, settings, now⟩ := by
        rw [Blueprint.moduleAt, hmake]
        rfl
      have hstep : makeAll now ((name, b) :: rest) r =
          makeAll now rest (r.equipped (·.moduleAt now) [(name, b)]) := by
        simp [makeAll, hmake, equipped, modulesOf, Table.putAll, hmodule]
      rw [hstep]
      rcases ih (r.equipped (·.moduleAt now) [(name, b)]) with
        ⟨before, name', b', after, e, rfl, hfails, h⟩ | h
      · exact .inl ⟨(name, b) :: before, name', b', after, e, rfl, hfails, h⟩
      · exact .inr h

/-- Either some module is the first that fails, and those up to it have been given the settings, or
all of them have. -/
theorem setUpAll_cases (now : Nat) (given : Settings) (es : Table String Blueprint)
    (r : Registry) :
    (∃ before name b after e, es = before ++ (name, b) :: after ∧
        (∀ x ∈ before, ((x.2.moduleAt now).setUp now given).2 = .ok ()) ∧
        ((b.moduleAt now).setUp now given).2 = .error e ∧
        setUpAll now given (modulesOf (·.moduleAt now) es) r =
          (r.equipped (·.equippedAt now given) (before ++ [(name, b)]), .error e)) ∨
      (∀ x ∈ es, ((x.2.moduleAt now).setUp now given).2 = .ok ()) ∧
        setUpAll now given (modulesOf (·.moduleAt now) es) r =
          (r.equipped (·.equippedAt now given) es, .ok ()) := by
  induction es generalizing r with
  | nil => exact .inr ⟨List.forall_mem_nil _, rfl⟩
  | cons e rest ih =>
    obtain ⟨name, b⟩ := e
    cases hresult : ((b.moduleAt now).setUp now given).2 with
    | error e =>
      refine .inl ⟨[], name, b, rest, e, rfl, List.forall_mem_nil _, hresult, ?_⟩
      simp [setUpAll, hresult, equipped, modulesOf, Table.putAll, Blueprint.equippedAt]
    | ok _ =>
      have hstep : setUpAll now given (modulesOf (·.moduleAt now) ((name, b) :: rest)) r =
          setUpAll now given (modulesOf (·.moduleAt now) rest)
            (r.equipped (·.equippedAt now given) [(name, b)]) := by
        simp [setUpAll, hresult, equipped, modulesOf, Table.putAll, Blueprint.equippedAt]
      rw [hstep]
      rcases ih (r.equipped (·.equippedAt now given) [(name, b)]) with
        ⟨before, name', b', after, e, rfl, hbefore, hfails, h⟩ | ⟨hall, h⟩
      · exact .inl ⟨(name, b) :: before, name', b', after, e, rfl,
          List.forall_mem_cons.mpr ⟨hresult, hbefore⟩, hfails, h⟩
      · exact .inr ⟨List.forall_mem_cons.mpr ⟨hresult, hall⟩, h⟩

/-! ### What holds of every registry -/

/-- Every blueprint is known by its own name and each name once, and modules have been made of the
first of them. -/
structure Sound (r : Registry) : Prop where
  nodup : r.known.keys.Nodup
  named : ∀ e ∈ r.known, e.1 = e.2.name
  made : r.modules.keys <+: r.known.keys

namespace Sound

variable {r : Registry} {es : Table String Blueprint}

theorem new [Domain.SuffixList] : (Registry.new).Sound := by
  refine ⟨Table.nodup_keys_ofList _, fun e he ↦ ?_, List.nil_prefix⟩
  obtain ⟨b, _, rfl⟩ := List.mem_map.mp ((Table.mem_putAll he).resolve_left List.not_mem_nil)
  rfl

theorem register (hr : r.Sound) (b : Blueprint) : (r.register b).Sound := by
  refine ⟨Table.nodup_keys_put hr.nodup b.name b, fun e he ↦ ?_,
    hr.made.trans (Table.keys_prefix_put r.known b.name b)⟩
  rcases Table.mem_put he with he | rfl
  · exact hr.named e he
  · rfl

/-- Modules of the first of the known blueprints leave a registry sound, whether there are more of
them than before or fewer. -/
theorem equipped (hr : r.Sound) (module : Blueprint → Module) (hes : es <+: r.known) :
    (r.equipped module es).Sound := by
  have hfirst : es.keys <+: r.known.keys := hes.map Prod.fst
  refine ⟨hr.nodup, hr.named, ?_⟩
  change (r.modules.putAll (modulesOf module es)).keys <+: r.known.keys
  rcases List.prefix_or_prefix_of_prefix hr.made hfirst with hfewer | hmore
  · have hall : r.modules.putAll (modulesOf module es) = modulesOf module es := by
      refine Table.putAll_eq_of_prefix ?_ ?_
      · rw [keys_modulesOf]
        exact hr.nodup.sublist hfirst.sublist
      · rw [keys_modulesOf]
        exact hfewer
    rw [hall, keys_modulesOf]
    exact hfirst
  · have hsame : (r.modules.putAll (modulesOf module es)).keys = r.modules.keys := by
      refine Table.keys_putAll_of_subset fun k hk ↦ ?_
      rw [keys_modulesOf] at hk
      exact hmore.subset hk
    rw [hsame]
    exact hr.made

/-- Once all modules have been made, there is one for each known blueprint, in the same order. -/
theorem modules_equipped (hr : r.Sound) (module : Blueprint → Module) :
    (r.equipped module r.known).modules = modulesOf module r.known := by
  refine Table.putAll_eq_of_prefix ?_ ?_
  · rw [keys_modulesOf]
    exact hr.nodup
  · rw [keys_modulesOf]
    exact hr.made

/-- A start fails while modules are made, or it fails while they are given the settings, or it
succeeds. -/
theorem start_cases (hr : r.Sound) (settings : Option Settings) (now : Nat) :
    (∃ (before : Table String Blueprint) (b : Blueprint) (after : Table String Blueprint) (e : Error),
        r.known = before ++ (b.name, b) :: after ∧ b.make now = .error e ∧
        r.start settings now = (r.equipped (·.moduleAt now) before, .error e)) ∨
      (∃ (before : Table String Blueprint) (b : Blueprint) (after : Table String Blueprint)
          (e : Error), r.known = before ++ (b.name, b) :: after ∧
        (∀ x ∈ before, ((x.2.moduleAt now).setUp now (settings.getD {})).2 = .ok ()) ∧
        ((b.moduleAt now).setUp now (settings.getD {})).2 = .error e ∧
        r.start settings now = ((r.equipped (·.moduleAt now) r.known).equipped
          (·.equippedAt now (settings.getD {})) (before ++ [(b.name, b)]), .error e)) ∨
      (∀ x ∈ r.known, ((x.2.moduleAt now).setUp now (settings.getD {})).2 = .ok ()) ∧
        r.start settings now = ((r.equipped (·.moduleAt now) r.known).equipped
          (·.equippedAt now (settings.getD {})) r.known, .ok ()) := by
  have hname {before after : Table String Blueprint} {name : String} {b : Blueprint}
      (hknown : r.known = before ++ (name, b) :: after) : name = b.name :=
    hr.named (name, b) (hknown ▸ List.mem_append_right before List.mem_cons_self)
  rcases makeAll_cases now r.known r with ⟨before, name, b, after, e, hknown, hfails, h⟩ | h
  · obtain rfl := hname hknown
    exact .inl ⟨before, b, after, e, hknown, hfails, by simp only [Registry.start, h]⟩
  · have hstart : r.start settings now = setUpAll now (settings.getD {})
        (modulesOf (·.moduleAt now) r.known) (r.equipped (·.moduleAt now) r.known) := by
      simp only [Registry.start, h, hr.modules_equipped]
    rcases setUpAll_cases now (settings.getD {}) r.known (r.equipped (·.moduleAt now) r.known) with
      ⟨before, name, b, after, e, hknown, hbefore, hfails, hset⟩ | ⟨hall, hset⟩
    · obtain rfl := hname hknown
      exact .inr (.inl ⟨before, b, after, e, hknown, hbefore, hfails, hstart.trans hset⟩)
    · exact .inr (.inr ⟨hall, hstart.trans hset⟩)

theorem start (hr : r.Sound) (settings : Option Settings) (now : Nat) :
    (r.start settings now).1.Sound := by
  rcases hr.start_cases settings now with
    ⟨before, b, after, e, hknown, -, h⟩ | ⟨before, b, after, e, hknown, -, -, h⟩ | ⟨-, h⟩
  · rw [h]
    exact hr.equipped _ ⟨_, hknown.symm⟩
  · rw [h]
    refine (hr.equipped _ (List.prefix_refl _)).equipped _ ⟨after, ?_⟩
    exact (List.append_cons before (b.name, b) after).symm.trans hknown.symm
  · rw [h]
    exact (hr.equipped _ (List.prefix_refl _)).equipped _ (List.prefix_refl _)

theorem perform (hr : r.Sound) (s : Step) : (s.perform r).Sound := by
  cases s with
  | register b => exact hr.register b
  | start settings now => exact hr.start settings now

theorem run (hr : r.Sound) (steps : List Step) : (r.run steps).Sound := by
  induction steps generalizing r with
  | nil => exact hr
  | cons s rest ih => exact ih (hr.perform s)

end Sound

/-! ### Starts that fail -/

/-- What the registry answers about a name is the module `m` and its options. -/
def Offers (r : Registry) (name : String) (m : Module) : Prop :=
  r.module? name = some m ∧ r.templateOptions name = m.templateOptions

/-- The registry answers the same about a name as another one. -/
def AnswersAs (r' r : Registry) (name : String) : Prop :=
  r'.module? name = r.module? name ∧ r'.templateOptions name = r.templateOptions name

variable {r r' : Registry}

/-- A blueprint of which no module can be made. -/
def unmakeable : Blueprint :=
  { name := "custom", kind := .base, make := fun _ ↦ .error (.startup .creation "custom") }

/-- A blueprint whose modules take settings only at the start of the program and refuse others
before they store them. -/
def stubborn : Blueprint :=
  { name := "custom", kind := .base
    setUp := fun now given held ↦
      if now = 0 then (some given, .ok ()) else (held, .error (.startup .setup "custom")) }

/-- A registry that has been started and has then come to know one more blueprint. -/
def startedWith [Domain.SuffixList] (b : Blueprint) : Registry :=
  new.run [.start none 0, .register b]

end Provisioning.Provider.Registry
