import Provisioning.Options.Member

/-!
Several sets of options side by side, which are called, frozen, cloned and copied onto each other one
step after another. A step that fails leaves behind what it has written, and the next one is taken.
-/

set_option autoImplicit false

namespace Provisioning.Options

/-- Sets of options in the order in which they were made, and how many steps were taken so far. -/
structure Pool where
  objects : List Options
  clock : Nat

namespace Pool

/-- A step on the objects of a pool, which are named by their places. -/
inductive Step
  | call (target : Nat) (setter : Setter) (arguments : Arguments Value)
  | freeze (target : Nat)
  | clone (source : Nat)
  | copy (source target : Nat)

/-- New options of several kinds. -/
def start (kinds : List Kind) : Pool :=
  ⟨kinds.map fresh, 0⟩

/-- Takes an action on the object at a place. -/
def act (place : Nat) (x : Action Options Answer) : Action Pool Answer := fun p ↦
  match p.objects[place]? with
  | none => (p, .fail .noSuchMember)
  | some o => ({ p with objects := p.objects.set place (x.run o).1 }, (x.run o).2)

/-- Puts a new object behind the others. -/
def add (o : Options) : Action Pool Unit :=
  .write fun p ↦ { p with objects := p.objects ++ [o] }

/-- The pool one step later. -/
def tick (p : Pool) : Pool :=
  { p with clock := p.clock + 1 }

variable [Domain.SuffixList]

/-- Takes a step. What is set by a call is marked with the time of the call. -/
def Step.perform : Step → Action Pool Answer
  | call target setter arguments => do
    act target (invoke setter.label arguments (← Action.state).clock)
  | freeze target => act target (Member.read .freeze)
  | clone source => do
    match (← Action.state).objects[source]? with
    | none => Action.fail .noSuchMember
    | some o =>
      let copy ← o.clone
      add copy
      return .options copy
  | copy source target => do
    match (← Action.state).objects[source]? with
    | none => Action.fail .noSuchMember
    | some o =>
      act target do
        o.copy
        return .value .null

/-- The pool after several steps, each of which is taken whether or not those before it failed. -/
def run (p : Pool) (steps : List Step) : Pool :=
  steps.foldl (fun p step ↦ (step.perform.after p).tick) p

/-- A pool that some steps lead to from new options of some kinds. -/
def Reachable (p : Pool) : Prop :=
  ∃ (kinds : List Kind) (steps : List Step), (start kinds).run steps = p

end Pool
end Provisioning.Options
