import Provisioning.Error

/-!
Payloads: byte contents of scripts and credentials, with a note of what kind of content they are.
-/

set_option autoImplicit false

namespace Provisioning

/-- Byte content and its content type. -/
structure Payload where
  data : Bytes
  contentType : Value

namespace Payload

/-- The content type of plain bytes. -/
def octetStream : Value := .text "application/octet-stream"

/-- The content type of text. -/
def plainText : Value := .text "text/plain"

/-- The content type of shell scripts. -/
def shellScript : Value := .text "text/x-shellscript"

/-- The payload that holds a text in UTF-8. -/
def ofText (text : String) (contentType : Value := plainText) : Payload :=
  ⟨Text.Utf8.encode text, contentType⟩

/-- The payload that holds a byte string of any kind or a text in UTF-8. -/
def ofValue (data : Value) (contentType : Value := octetStream) : Except Error Payload :=
  match data with
  | .text s => .ok (ofText s contentType)
  | v =>
    match v.octets? with
    | some bytes => .ok ⟨bytes, contentType⟩
    | none => .error (.notPayloadData v.kindName)

/-- The payload that holds the contents of a file, if there is such a file. -/
def ofFile (contents : Option Bytes) (contentType : Value := octetStream) : Except Error Payload :=
  match contents with
  | some bytes => .ok ⟨bytes, contentType⟩
  | none => .error .noFile

/-- The payload that a value is. -/
def ofValue? : Value → Option Payload
  | .payload data contentType => some ⟨data, contentType⟩
  | _ => none

/-- A payload as a value. -/
def toValue (p : Payload) : Value :=
  .payload p.data p.contentType

/-- The text that the content stands for in a named encoding. -/
def text (p : Payload) (encoding : String := "utf-8") : Except Error String :=
  match Text.Encoding.ofName? encoding with
  | none => .error (.unknownEncoding encoding)
  | some e => (e.decode p.data).mapError .undecodable

/-- The number of bytes. -/
def size (p : Payload) : Nat :=
  p.data.length

/-- What can be shown of a payload: its size and its content type. -/
def description (p : Payload) : Except Error String :=
  p.toValue.write

instance : BEq Payload := ⟨fun p q ↦ p.toValue.equals q.toValue⟩

/-- Whether a payload can serve as a key, which takes a content type that can. -/
def hashable (p : Payload) : Except Error Unit :=
  match p.toValue.unhashable? with
  | some kindName => .error (.unhashable kindName)
  | none => .ok ()

end Payload
end Provisioning
