/-!
Command lines. What the words of a command line ask for is for a reader to say: it knows the commands
and their options, and it ends the run if it is asked for help or does not understand the words.
-/

set_option autoImplicit false

namespace Provisioning.CommandLine

/-- A command as it is asked for. A folder may be left out. -/
inductive Request
  | providers
  | template (name : String) (folder : Option String)
  | validate (folder : Option String)
  deriving DecidableEq, Repr

/-- What a command line asks for: an end with some code, or a log of some level, which may be left
out, and after that a command or an end. -/
inductive Reading
  | ends (code : Nat)
  | starts (level : Option String) (request : Except Nat Request)

/-- A reader of command lines. -/
class Reader where
  read : (words : List String) → Reading

end Provisioning.CommandLine
