/-!
The families of errors by which callers decide what to catch, and the errors that other libraries
raise.
-/

set_option autoImplicit false

namespace Provisioning

/-- The families of errors. An error may belong to several of them. -/
inductive Family
  | general
  | argument
  | domain
  | mismatch
  | readOnly
  | provider
  | template
  | value
  | type
  | key
  | validation
  | script
  | missingFile
  deriving DecidableEq, Repr

namespace Family

/-- A family and all wider ones. -/
def widening : Family → List Family
  | argument => [argument, general, value]
  | domain => [domain, argument, general, value]
  | mismatch => [mismatch, general, type]
  | readOnly => [readOnly, general]
  | provider => [provider, general, key]
  | template => [template, general, key]
  | validation => [validation, value]
  | f => [f]

end Family

/-- An error that another library raises: the name of its kind, the narrowest family that it belongs
to, if there is one, and its text. -/
structure Foreign where
  label : String
  family? : Option Family
  text : String
  deriving DecidableEq, Repr

end Provisioning
