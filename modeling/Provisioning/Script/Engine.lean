import Provisioning.Family
import Provisioning.Value.Basic

/-!
Engines for script templates. What a template is and what text it gives is for an engine to say. The
text may be another one each time that a template is filled in, even with the same variables, and the
variables may hold other values afterwards.
-/

set_option autoImplicit false

namespace Provisioning

/-- Variables by name. -/
abbrev Variables := List (String × Value)

namespace Script

/-- An engine: it reads templates, fills them in at some time, and says what their variables hold
afterwards. -/
class Engine where
  Template : Type
  read : String → Except Foreign Template
  fill : (now : Nat) → Template → Variables → Except Foreign String
  leave : (now : Nat) → Template → Variables → Variables

end Script
end Provisioning
