import Provisioning.Store.Lineage

/-!
What remains of making options. The script of a template works on the variables that the definitions
of the store hold, and may change them in place. How far such a change reaches is for an aftermath to
say.
-/

set_option autoImplicit false

namespace Provisioning.Store

/-- An aftermath: it gives the templates of a store once the options of one of them have been made
with a registry at some time. -/
class Aftermath where
  templates : Store → (name : Value) → Provider.Registry → (now : Nat) → Table Value Definition

/-- The store once the options of a template have been made, whether or not they could be. -/
def afterBuild [Aftermath] (s : Store) (name : Value) (r : Provider.Registry) (now : Nat) : Store :=
  { s with templates := Aftermath.templates s name r now }

end Provisioning.Store
