/-!
The tokens of a document. The ones named for a start or an end of a block stand for changes of
indentation; all others stand for characters of the text.
-/

set_option autoImplicit false

namespace Provisioning.Markup

/-- The smallest parts of a document. -/
inductive Token
  | documentStart
  | documentEnd
  | blockList
  | blockDict
  | blockEnd
  | openList
  | closeList
  | openDict
  | closeDict
  | comma
  | item
  | key
  | value
  | alias (name : String)
  | anchor (name : String)
  | tag (name : String)
  | scalar (text : String) (isPlain : Bool)
  deriving DecidableEq, Repr

/-- What the names of the standard tags start with. -/
def standardTag : String := "tag:yaml.org,2002:"

/-- The tag that leaves the kind of a node open. -/
def openTag : String := "!"

end Provisioning.Markup
