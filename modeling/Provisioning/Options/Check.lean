import Provisioning.Outcome
import Provisioning.Payload
import Provisioning.Text.Blank

/-!
Checks of single arguments. Each takes a value of any kind and either gives back what it stands for
or says what is wrong with it.
-/

set_option autoImplicit false

namespace Provisioning.Options

/-- Refuses an argument. -/
def refuse {α : Type} (fault : ArgumentFault) : Except Error α :=
  .error fault.error

/-- A port number; truth values do not count as numbers. -/
def checkPort (name : String) (port : Value) : Except Error Nat :=
  match port with
  | .int n => if 0 ≤ n ∧ n ≤ maxPort then .ok n.toNat else refuse (.notPort name n)
  | v => refuse (.notInteger name v)

/-- A number of seconds. -/
def checkSeconds (seconds : Value) : Except Error Nat :=
  match seconds with
  | .int n => if n < 0 then refuse (.negative "seconds" n) else .ok n.toNat
  | v => refuse (.notInteger "seconds" v)

/-- A text that is not empty. -/
def checkText (name : String) (value : Value) : Except Error String :=
  match value with
  | .null => refuse (.absent name)
  | .text s => if s.isEmpty then refuse (.notText name value) else .ok s
  | v => refuse (.notText name v)

/-- A key, given as a text or as a payload that holds one. -/
def checkKey (name : String) (key : Value) : Outcome String :=
  match key with
  | .payload data contentType => do
    Outcome.warn (.keyAsPayload name)
    let text ← (⟨data, contentType⟩ : Payload).text
    checkText name (.text text)
  | v => checkText name v

/-- Whether a text is PEM encoded, as far as its start shows. -/
def isPem (key : String) : Bool :=
  (Text.trimStart Text.isSpacing key).startsWith pemStart

/-- A PEM encoded key, given as a text or as a payload that holds one. -/
def checkPrivateKey (name : String) (key : Value) : Outcome String := do
  let text ← checkKey name key
  if isPem text then return text
  else Outcome.fail (.argument (.notPem name))

/-- A script: a payload, a text, or bytes, which should no longer be given. -/
def checkScript (script : Value) : Outcome Payload := do
  let payload ← (match script with
    | .null => Outcome.lift (refuse (.absent "script"))
    | .bytes data | .buffer data => do
      Outcome.warn .rawScript
      return ⟨data, Payload.octetStream⟩
    | .text s => return Payload.ofText s Payload.shellScript
    | .payload data contentType => return ⟨data, contentType⟩
    | v => Outcome.lift (refuse (.notScript v.kindName)))
  if payload.size = 0 then Outcome.fail (.argument .emptyScript)
  else return payload

/-- The value of a metadata entry; it may be empty. -/
def checkMetadata (value : Value) : Except Error String :=
  match value with
  | .null => refuse (.absent "metadata value")
  | .text s => .ok s
  | v => refuse (.notMetadata v)

/-- One metadata entry; its key is looked at first. -/
def checkEntry (key value : Value) : Except Error (String × String) := do
  let k ← checkText "metadata key" key
  let v ← checkMetadata value
  return (k, v)

/-- The most bytes of user data. -/
def maxUserData : Nat := 16 * 1024

/-- User data: bytes, or a text in UTF-8. -/
def checkUserData (data : Value) : Except Error Bytes := do
  let bytes ← (match data with
    | .null => refuse (.absent "user_data")
    | .text s => .ok (Text.Utf8.encode s)
    | .bytes b | .buffer b => .ok b
    | v => refuse (.notUserData v.kindName))
  if maxUserData < bytes.length then refuse (.largeUserData maxUserData)
  else return bytes

/-- A price as it was offered. -/
inductive Offer
  | whole (n : Int)
  | double (x : Float)

/-- A price above zero. An amount that is not a number is not below or equal to zero. -/
def checkPrice (price : Value) : Except Error Offer :=
  match price with
  | .int n => if n ≤ 0 then refuse (.priceNotPositive price) else .ok (.whole n)
  | .float x => if x ≤ 0 then refuse (.priceNotPositive price) else .ok (.double x)
  | v => refuse (.notPrice v)

/-- The double nearest to an offer. -/
def Offer.amount : Offer → Except Error Float
  | whole n =>
    match Decimal.ofInt? n with
    | some x => .ok x
    | none => .error .priceTooLarge
  | double x => .ok x

end Provisioning.Options
