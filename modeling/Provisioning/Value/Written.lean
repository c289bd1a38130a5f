import Provisioning.Decimal.Numeral
import Provisioning.Decimal.Shortest
import Provisioning.Text.Quoted
import Provisioning.Value.Basic

/-!
The text of a value. `written` shows its kind (texts in quotes, a comma after the only item of a
tuple); `display` is the same except that a text stands for itself and a date loses its wrapping.
Neither is made of a value that holds a whole number with too many digits (`isWritable`).
-/

set_option autoImplicit false

namespace Provisioning.Value

/-- Texts joined by commas. -/
def commaJoined (parts : List String) : String :=
  ", ".intercalate parts

mutual

/-- The text of a value, from which its kind can be told. -/
def written : Value → String
  | null => "None"
  | bool b => if b then "True" else "False"
  | int n => toString n
  | float x => Decimal.write x
  | text s => Text.quote s
  | bytes b => Text.quoteBytes b
  | buffer b => "bytearray(" ++ Text.quoteBytes b true ++ ")"
  | view _ => "<memory>"
  | list xs => "[" ++ commaJoined (writtenItems xs) ++ "]"
  | tuple xs =>
    match writtenItems xs with
    | [x] => "(" ++ x ++ ",)"
    | parts => "(" ++ commaJoined parts ++ ")"
  | dict es => "\x7b" ++ commaJoined (writtenEntries es) ++ "\x7d"
  | payload b c => "Payload(" ++ toString b.length ++ " bytes, content_type=" ++ written c ++ ")"
  | date d =>
    "datetime.date(" ++ commaJoined [toString d.year, toString d.month, toString d.day] ++ ")"

/-- The texts of several values. -/
def writtenItems : List Value → List String
  | [] => []
  | x :: xs => written x :: writtenItems xs

/-- The texts of the entries of a dictionary. -/
def writtenEntries : List (Value × Value) → List String
  | [] => []
  | (k, v) :: es => (written k ++ ": " ++ written v) :: writtenEntries es

end

/-- The text of a value as it is inserted into other text. -/
def display : Value → String
  | text s => s
  | date d => d.display
  | v => written v

mutual

/-- Whether a text can be made of a value: no whole number in it has too many digits. -/
def isWritable : Value → Bool
  | int n => Decimal.fits Decimal.maxDigits n.natAbs
  | list xs | tuple xs => areWritable xs
  | dict es => areWritableEntries es
  | payload _ c => isWritable c
  | _ => true

/-- Whether a text can be made of each of several values. -/
def areWritable : List Value → Bool
  | [] => true
  | x :: xs => isWritable x && areWritable xs

/-- Whether a text can be made of both parts of each of several entries. -/
def areWritableEntries : List (Value × Value) → Bool
  | [] => true
  | (k, v) :: es => isWritable k && isWritable v && areWritableEntries es

end

end Provisioning.Value
