import Provisioning.Provider.Registry

/-!
The registries of a program side by side: those that parts of it make for themselves, and the one
that all its parts share. They are made known blueprints and started one step after another. A step
that fails leaves behind what it has done, and the next one is taken. A clock counts the steps, so
that the modules of one start are told from those of another.
-/

set_option autoImplicit false

namespace Provisioning.Provider

/-- Registries in the order in which they were made, the place of the shared one, once it has been
asked for, and the number of steps so far. -/
structure Shelf where
  registries : List Registry := []
  shared : Option Nat := none
  clock : Nat := 0

namespace Shelf

/-- Uses the registry at a place, which is the answer. -/
def useAt (p : Shelf) (place : Nat) (use : Registry → Registry × Except Error Unit) :
    Shelf × Except Error Nat :=
  match p.registries[place]? with
  | none => (p, .error .noSuchMember)
  | some r =>
    let (r, result) := use r
    ({ p with registries := p.registries.set place r }, result.map fun _ ↦ place)

/-- A step with registries, which are named by their places. -/
inductive Step
  | create
  | register (place : Nat) (b : Blueprint)
  | start (place : Nat) (settings : Option Settings)
  | fetch (settings : Option Settings)

variable [Domain.SuffixList]

/-- What a step does. The answer is the place of the registry that it is about. -/
def Step.act : Step → Shelf → Shelf × Except Error Nat
  | create, p => ({ p with registries := p.registries ++ [Registry.new] }, .ok p.registries.length)
  | register place b, p => p.useAt place fun r ↦ (r.register b, .ok ())
  | start place settings, p => p.useAt place fun r ↦ r.start settings p.clock
  | fetch settings, p =>
    match p.shared with
    | some place => p.useAt place fun r ↦ Registry.shared (some r) settings p.clock
    | none =>
      let (r, result) := Registry.shared none settings p.clock
      let place := p.registries.length
      ({ p with registries := p.registries ++ [r], shared := some place }, result.map fun _ ↦ place)

/-- The registries one step later. -/
def tick (p : Shelf) : Shelf :=
  { p with clock := p.clock + 1 }

/-- Takes a step. -/
def Step.perform (s : Step) (p : Shelf) : Shelf × Except Error Nat :=
  ((s.act p).1.tick, (s.act p).2)

/-- The registries after several steps, each of which is taken whether or not those before it
failed. -/
def run (p : Shelf) (steps : List Step) : Shelf :=
  steps.foldl (fun p step ↦ (step.perform p).1) p

end Shelf
end Provisioning.Provider
