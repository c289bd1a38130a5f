import Provisioning.Text.Encoding
import Provisioning.Text.Printable

/-!
Quoted texts and byte strings, as values are written in messages: single quotes, or double quotes
around a text that holds a single quote and no double quote.
-/

set_option autoImplicit false

namespace Provisioning.Text

/-- `n` in hexadecimal, filled up with zeros to `width` digits. -/
def hex (width n : Nat) : String :=
  let digits := Nat.toDigits 16 n
  String.ofList (List.replicate (width - digits.length) '0' ++ digits)

/-- The mark that a quoted text stands between. -/
def quoteMark (hasSingle hasDouble : Bool) : Char :=
  if hasSingle && !hasDouble then '"' else '\''

/-- One character inside quotes: marks and backslashes are escaped, and so is whatever has no
visible form. -/
def quoteChar (mark c : Char) : String :=
  if c == mark || c == '\\' then String.ofList ['\\', c]
  else if c == '\t' then "\\t"
  else if c == '\n' then "\\n"
  else if c == '\r' then "\\r"
  else if isPrintable c then c.toString
  else if c.toNat < 0x100 then "\\x" ++ hex 2 c.toNat
  else if c.toNat < 0x10000 then "\\u" ++ hex 4 c.toNat
  else "\\U" ++ hex 8 c.toNat

/-- A text in quotes. -/
def quote (s : String) : String :=
  let cs := s.toList
  let mark := quoteMark (cs.contains '\'') (cs.contains '"')
  mark.toString ++ String.join (cs.map (quoteChar mark)) ++ mark.toString

/-- One byte inside quotes: only printable ASCII stands for itself. -/
def quoteByte (escaped : Char) (b : UInt8) : String :=
  let c := Char.ofNat b.toNat
  if 0x20 ≤ b.toNat && b.toNat < 0x7F || c == '\t' || c == '\n' || c == '\r' then
    quoteChar escaped c
  else "\\x" ++ hexByte b

/-- A byte string in quotes. The mark around it is escaped inside it; for a string that may change,
single quotes are escaped whatever the mark. -/
def quoteBytes (bs : Bytes) (mayChange : Bool := false) : String :=
  let mark := quoteMark (bs.contains 39) (bs.contains 34)
  let escaped := if mayChange then '\'' else mark
  "b" ++ mark.toString ++ String.join (bs.map (quoteByte escaped)) ++ mark.toString

end Provisioning.Text
