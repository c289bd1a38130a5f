import Provisioning.Family
import Provisioning.Options.Kind
import Provisioning.Validation.Report

/-!
Everything that can go wrong, each case named for its cause, with its text and the families it
belongs to.
-/

set_option autoImplicit false

namespace Provisioning

open Options (Kind)

/-- What is wrong with an argument of a setter. -/
inductive ArgumentFault
  | absent (name : String)
  | notInteger (name : String) (value : Value)
  | notPort (name : String) (port : Int)
  | negative (name : String) (n : Int)
  | notText (name : String) (value : Value)
  | notPem (name : String)
  | notScript (kindName : String)
  | emptyScript
  | valueBesideMapping
  | notMetadata (value : Value)
  | notDomain (value : Value)
  | noGroups (what : String)
  | keyPairConflict
  | notUserData (kindName : String)
  | largeUserData (limit : Nat)
  | notPrice (value : Value)
  | priceNotPositive (value : Value)

/-- The largest port number. -/
def maxPort : Nat := 65535

/-- What every PEM encoded key starts with. -/
def pemStart : String := "-----BEGIN "

/-- The text of an argument fault. -/
def ArgumentFault.message : ArgumentFault → String
  | absent name => name ++ " was None"
  | notInteger name value => name ++ " must be an integer, got " ++ value.written
  | notPort name port =>
    name ++ " must be between 0 and " ++ toString maxPort ++ ", got " ++ toString port
  | negative name n => name ++ " must be non-negative, got " ++ toString n
  | notText name value => name ++ " must be a non-empty string, got " ++ value.written
  | notPem name =>
    name ++ " should be PEM encoded and start with " ++ Text.quote pemStart
  | notScript kindName => "script must be a Payload, str or bytes, got " ++ kindName
  | emptyScript => "script must not be empty"
  | valueBesideMapping => "value must not be given with a metadata mapping"
  | notMetadata value => "metadata value must be a string, got " ++ value.written
  | notDomain value => "domain_name must be a string, got " ++ value.written
  | noGroups what => "you must specify at least one " ++ what
  | keyPairConflict => "you cannot specify both key_pair and no_key_pair"
  | notUserData kindName => "user_data must be bytes or str, got " ++ kindName
  | largeUserData limit => "user_data cannot be larger than " ++ toString limit ++ " bytes"
  | notPrice value => "spot_price must be a number, got " ++ value.written
  | priceNotPositive value => "spot_price must be positive, got " ++ value.display

/-- The value that the text of a fault shows, or nothing. -/
def ArgumentFault.shown : ArgumentFault → Value
  | notInteger _ value | notText _ value | notMetadata value | notDomain value | notPrice value
  | priceNotPositive value => value
  | notPort _ n | negative _ n => .int n
  | _ => .null

/-- Whether the text of a fault can be made. -/
def ArgumentFault.isWritable (fault : ArgumentFault) : Bool :=
  fault.shown.isWritable

/-- The step of a registry start at which a provider module fails. -/
inductive Phase
  | creation
  | setup
  deriving DecidableEq, Repr

/-- The verb for a phase. -/
def Phase.verb : Phase → String
  | .creation => "instantiate"
  | .setup => "initialize"

/-- Everything that can go wrong. -/
inductive Error
  | argument (fault : ArgumentFault)
  | noPublicSuffix (domain : String)
  | readOnly (kind : Kind)
  | mismatch (kind wanted : Kind)
  | unknownProvider (name : String)
  | templateNotFound (name : Value)
  | inheritanceCycle (chain : List String)
  | chainNotText
  | undecodable (fault : Text.Undecodable)
  | unknownEncoding (name : String)
  | notPayloadData (kindName : String)
  | unhashable (kindName : String)
  | priceTooLarge
  | callShape
  | noSuchMember
  | noSuchMutator (kind : Kind) (name : String)
  | script (fault : Foreign)
  | invalid (report : Validation.Report)
  | markup (fault : Foreign)
  | unprintable (fault : Foreign)
  | notMapping
  | noFile
  | noMainConfig (path : String)
  | directory (path : String)
  | longPath (path : String)
  | startup (phase : Phase) (name : String)
  | unknownLevel (text : String)
  | notLevel (shown : String)
  | notConfigured
  | numberTooLong

/-- The error by which an argument is refused. Its text is made first, and that can fail. -/
def ArgumentFault.error (fault : ArgumentFault) : Error :=
  if fault.isWritable then .argument fault else .numberTooLong

namespace Error

/-- The text of an error. -/
def message : Error → String
  | argument fault => fault.message
  | noPublicSuffix domain => "domain_name " ++ Text.quote domain ++ " has no public suffix"
  | readOnly kind => kind.label ++ ".NONE is read-only, clone() it before customizing"
  | mismatch kind wanted =>
    kind.label ++ " does not support " ++ wanted.label ++ " options"
  | unknownProvider name => "Unknown provider: " ++ name
  | templateNotFound name => "Template not found: " ++ name.display
  | inheritanceCycle chain => "Template inheritance cycle: " ++ " -> ".intercalate chain
  | chainNotText => "a name on the inheritance chain is not a text"
  | undecodable fault => fault.message
  | unknownEncoding name => "unknown encoding: " ++ name
  | notPayloadData kindName => "Payload data must be bytes or str, not " ++ kindName
  | unhashable kindName => "unhashable type: " ++ Text.quote kindName
  | priceTooLarge => "int too large to convert to float"
  | callShape => "the arguments do not fit the parameters"
  | noSuchMember => "there is no such member"
  | noSuchMutator kind name => kind.label ++ " has no mutator " ++ Text.quote name
  | script fault | markup fault | unprintable fault => fault.text
  | invalid report => report.text
  | notMapping => "a mapping with text keys is needed"
  | noFile => "there is no such file"
  | noMainConfig path => "Main config not found: " ++ path
  | directory path => "[Errno 21] Is a directory: " ++ Text.quote path
  | longPath path => "[Errno 36] File name too long: " ++ Text.quote path
  | startup phase name => "cannot " ++ phase.verb ++ " " ++ name
  | unknownLevel text => "Unknown level: " ++ Text.quote text
  | notLevel shown => "Level not an integer or a valid string: " ++ shown
  | notConfigured => "no configuration is loaded"
  | numberTooLong => Decimal.tooManyDigits

/-- The narrowest family of an error, if it has one. -/
def family? : Error → Option Family
  | argument _ => some .argument
  | noPublicSuffix _ => some .domain
  | readOnly _ => some .readOnly
  | mismatch _ _ => some .mismatch
  | unknownProvider _ => some .provider
  | templateNotFound _ | inheritanceCycle _ => some .template
  | undecodable _ | unknownLevel _ | numberTooLong => some .value
  | invalid _ => some .validation
  | noFile | noMainConfig _ => some .missingFile
  | script fault | markup fault | unprintable fault => fault.family?
  | chainNotText | notPayloadData _ | unhashable _ | callShape | notMapping | notLevel _ =>
    some .type
  | _ => none

/-- Whether an error belongs to one of the given families. -/
def isAmong (e : Error) (families : List Family) : Bool :=
  match e.family? with
  | none => false
  | some f => f.widening.any fun wider ↦ families.contains wider

end Error

/-- The text of a value that shows its kind, if it can be made. -/
def Value.write (v : Value) : Except Error String :=
  if v.isWritable then .ok v.written else .error .numberTooLong

/-- The text of a value as it is inserted into other text, if it can be made. -/
def Value.print (v : Value) : Except Error String :=
  if v.isWritable then .ok v.display else .error .numberTooLong

/-- The text of an error that was made from bare arguments. The errors about names take the first
argument as their text; for the others several arguments are written as a tuple. -/
def Family.text (f : Family) (arguments : List Value) : Except Error String :=
  match f, arguments with
  | _, [] => .ok ""
  | _, [only] => only.print
  | .provider, first :: _ => first.print
  | .template, first :: _ => first.print
  | _, several => (Value.tuple several).write

end Provisioning
