import Provisioning.Family
import Provisioning.Value.Basic

/-!
Decoders of documents. What value a document has, or why it cannot be read, is for a decoder to say.
-/

set_option autoImplicit false

namespace Provisioning.Markup

/-- A decoder: it gives the value of the document that a text holds. -/
class Decoder where
  decode : (text : String) → Except Foreign Value

end Provisioning.Markup
