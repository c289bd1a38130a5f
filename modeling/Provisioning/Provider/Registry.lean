import Provisioning.Provider.Module

/-!
The registry of provider modules. It knows the blueprints of modules by name; a start first makes
a module from each blueprint and then gives every module the settings. A start that fails half way
leaves what it has done so far.
-/

set_option autoImplicit false

namespace Provisioning.Provider

/-- The known blueprints, and the modules that have been made. -/
structure Registry where
  known : Table String Blueprint
  modules : Table String Module

namespace Registry

variable [Domain.SuffixList]

/-- A registry that knows the built-in modules and has made none of them. -/
def new : Registry :=
  ⟨Table.ofList (Blueprint.builtIn.map fun b ↦ (b.name, b)), []⟩

/-- Makes a blueprint known. It is used from the next start on. -/
def register (r : Registry) (b : Blueprint) : Registry :=
  { r with known := r.known.put b.name b }

/-- Makes a module from each of several blueprints, up to the first that fails. -/
def makeAll (now : Nat) : List (String × Blueprint) → Registry → Registry × Except Error Unit
  | [], r => (r, .ok ())
  | (name, b) :: rest, r =>
    match b.make now with
    | .error e => (r, .error e)
    | .ok settings => makeAll now rest { r with modules := r.modules.put name ⟨b, settings, now⟩ }

/-- Gives settings to each of several modules, up to the first that fails. -/
def setUpAll (now : Nat) (given : Settings) :
    List (String × Module) → Registry → Registry × Except Error Unit
  | [], r => (r, .ok ())
  | (name, m) :: rest, r =>
    let (m, result) := m.setUp now given
    let next : Registry := { r with modules := r.modules.put name m }
    match result with
    | .error e => (next, .error e)
    | .ok () => setUpAll now given rest next

/-- Starts the registry: makes all modules anew and gives them the settings, or default ones. -/
def start (r : Registry) (settings : Option Settings) (now : Nat := 0) :
    Registry × Except Error Unit :=
  match makeAll now r.known r with
  | (made, .ok ()) => setUpAll now (settings.getD {}) made.modules made
  | failed => failed

/-- The module of that name. -/
def module? (r : Registry) (name : String) : Option Module :=
  r.modules.get? name

/-- The names of the modules, in the order in which they were first made. -/
def providers (r : Registry) : List String :=
  r.modules.keys

/-- New options with the defaults of the module of that name. -/
def templateOptions (r : Registry) (name : String) : Outcome Options :=
  match r.module? name with
  | some m => m.templateOptions
  | none => .fail (.unknownProvider name)

/-- The registry that all parts of a program share. It is made and started on first use; later it
is only started again if settings are given. -/
def shared (current : Option Registry) (settings : Option Settings) (now : Nat := 0) :
    Registry × Except Error Unit :=
  match current, settings with
  | none, settings => new.start settings now
  | some r, some s => r.start (some s) now
  | some r, none => (r, .ok ())

end Registry
end Provisioning.Provider
