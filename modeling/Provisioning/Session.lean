import Provisioning.Options.Pool
import Provisioning.Options.Shortcut
import Provisioning.Provider.Module
import Provisioning.Template.Application

/-!
What a program does with options over time. It starts with the options that stand for "nothing set",
one for each kind; then it makes new ones, calls shortcuts, asks modules for options, applies
specifications, and takes the steps of a pool. An operation that fails leaves behind what it has
written, and the next one is taken.
-/

set_option autoImplicit false

namespace Provisioning.Session

open Options (Answer Kind Pool Setter Shortcut)

/-- An operation on the options of a program, which are named by their places. -/
inductive Operation
  | step (s : Pool.Step)
  | create (kind : Kind)
  | shortcut (kind : Kind) (setter : Setter) (arguments : Arguments Value)
  | provide (provider : String) (settings : Option Settings)
  | apply (place : Nat) (spec : Template.Spec)

/-- The place of the options of a kind that stand for "nothing set". -/
def nothingAt : Kind → Nat
  | .base => 0
  | .softLayer => 1
  | .ec2 => 2
  | .awsEc2 => 3

/-- The options that a program starts with. -/
def start : Pool :=
  ⟨[.base, .softLayer, .ec2, .awsEc2].map Options.nothing, 0⟩

/-- Puts new options behind the others and answers them. -/
def hand (o : Options) : Action Pool Answer := do
  Pool.add o
  return .options o

variable [Domain.SuffixList] [Script.Engine]

/-- Performs an operation. What is set by a call is marked with the time of the call. -/
def Operation.perform : Operation → Action Pool Answer
  | step s => s.perform
  | create kind => hand (.fresh kind)
  | shortcut kind setter arguments => do
    let mark := (← Action.state).clock
    let s ← Shortcut.make kind setter.label
    match ← s.call arguments mark with
    | .options o => hand o
    | answer => return answer
  | provide provider settings => do
    match Provider.Blueprint.builtIn.find? fun b ↦ b.name == provider with
    | none => Action.fail (.unknownProvider provider)
    | some b => hand (← Provider.Module.templateOptions { blueprint := b, settings })
  | apply place spec => do
    let now := (← Action.state).clock
    Pool.act place do
      Template.Step.performAll (spec.steps now)
      return .itself

/-- The options of a program after several operations, each of which is performed whether or not those
before it failed. -/
def run (p : Pool) (operations : List Operation) : Pool :=
  operations.foldl (fun p operation ↦ (operation.perform.after p).tick) p

end Provisioning.Session
