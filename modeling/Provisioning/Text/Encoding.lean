import Provisioning.Text.Case
import Provisioning.Text.Utf8

/-!
Named character encodings: the names by which an encoding may be asked for and the texts that byte
strings stand for in it.
-/

set_option autoImplicit false

namespace Provisioning.Text

/-- The encodings a byte string can be read in. -/
inductive Encoding
  | utf8
  | ascii
  | latin1
  deriving DecidableEq, Repr

namespace Encoding

/-- Names are compared without case, and every mark in them counts as an underscore. -/
def aliases : List (String × Encoding) :=
  [("utf_8", utf8), ("utf8", utf8), ("u8", utf8), ("utf", utf8), ("cp65001", utf8),
    ("ascii", ascii), ("us_ascii", ascii), ("us", ascii), ("646", ascii), ("cp367", ascii),
    ("iso646_us", ascii),
    ("latin_1", latin1), ("latin1", latin1), ("latin", latin1), ("l1", latin1), ("8859", latin1),
    ("iso8859", latin1), ("iso8859_1", latin1), ("iso_8859_1", latin1), ("cp819", latin1)]

/-- The encoding of that name. -/
def ofName? (name : String) : Option Encoding :=
  let plain := (toLower name).toList.map fun c ↦ if c.isAlphanum then c else '_'
  aliases.lookup (String.ofList plain)

end Encoding

/-- A byte string that is not text in the encoding it was read in. -/
inductive Undecodable
  | utf8 (fault : Utf8.Fault)
  | ascii (position : Nat) (byte : UInt8)
  deriving DecidableEq, Repr

/-- Two hexadecimal digits. -/
def hexByte (b : UInt8) : String :=
  String.ofList [(b.toNat / 16).digitChar, (b.toNat % 16).digitChar]

/-- What is wrong with the bytes, and where. -/
def Undecodable.message : Undecodable → String
  | .ascii position byte =>
    "'ascii' codec can't decode byte 0x" ++ hexByte byte ++ " in position " ++ toString position ++
      ": ordinal not in range(128)"
  | .utf8 ⟨start, bytes, reason⟩ =>
    let cause := match reason with
      | .startByte => "invalid start byte"
      | .continuationByte => "invalid continuation byte"
      | .endOfData => "unexpected end of data"
    match bytes with
    | [b] =>
      "'utf-8' codec can't decode byte 0x" ++ hexByte b ++ " in position " ++ toString start ++
        ": " ++ cause
    | bs =>
      "'utf-8' codec can't decode bytes in position " ++ toString start ++ "-" ++
        toString (start + bs.length - 1) ++ ": " ++ cause

/-- The text that a byte string stands for. -/
def Encoding.decode (e : Encoding) (bs : Bytes) : Except Undecodable String :=
  match e with
  | .utf8 => (Utf8.decode bs).mapError .utf8
  | .latin1 => .ok (String.ofList (bs.map fun b ↦ Char.ofNat b.toNat))
  | .ascii =>
    match bs.findIdx? (fun b ↦ 0x80 ≤ b.toNat) with
    | some i => .error (.ascii i (bs.getD i 0))
    | none => .ok (String.ofList (bs.map fun b ↦ Char.ofNat b.toNat))

end Provisioning.Text
