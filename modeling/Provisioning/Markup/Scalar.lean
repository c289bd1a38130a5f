import Provisioning.Decimal.Numeral
import Provisioning.Markup.Fault
import Provisioning.Markup.Token
import Provisioning.Text.Blank
import Provisioning.Value.Basic

/-!
The kinds of scalars. The text of a plain scalar decides its kind; a tag can fix another. The
value is then read from the text by the rules of the kind.
-/

set_option autoImplicit false

namespace Provisioning.Markup

/-- The kinds of nodes. A plain `<<` is a `merge` and a plain `=` a `default`, which mean something
as keys only. -/
inductive Kind
  | null
  | flag
  | whole
  | fraction
  | text
  | date
  | list
  | dict
  | merge
  | default
  | unknown
  deriving DecidableEq, Repr

namespace Kind

/-- The names of the kinds that a tag can fix. -/
def names : List (String × Kind) :=
  [("null", null), ("bool", flag), ("int", whole), ("float", fraction), ("str", text),
    ("timestamp", date), ("seq", list), ("map", dict), ("merge", merge), ("value", default)]

/-- The kind that a tag fixes. -/
def ofTag (tag : String) : Kind :=
  ((names.find? fun e ↦ standardTag ++ e.1 == tag).map Prod.snd).getD unknown

/-- Whether digits of a base and underscores, at least one of them, make up a text. -/
def areDigits (base : Nat) (cs : List Char) : Bool :=
  !cs.isEmpty && cs.all fun c ↦ c == '_' || (Decimal.digit? c).any (· < base)

/-- Whether a text is a whole number, apart from its sign. -/
def isWhole : List Char → Bool
  | '0' :: 'b' :: cs => areDigits 2 cs
  | '0' :: 'o' :: cs => areDigits 8 cs
  | '0' :: 'x' :: cs => areDigits 16 cs
  | cs => areDigits 10 cs

/-- Whether a text is the power of ten of a number, whose sign may be left out if `signless`. -/
def isPower (signless : Bool) : List Char → Bool
  | [] => false
  | c :: cs =>
    let digits := if c == '+' || c == '-' then cs else c :: cs
    (signless || digits == cs) && !digits.isEmpty && digits.all Char.isDigit

/-- Whether a text is a number with a point or a power of ten, apart from its sign. -/
def isFraction (cs : List Char) : Bool :=
  let isMark (c : Char) : Bool := c == 'e' || c == 'E'
  let mantissa := cs.takeWhile fun c ↦ !isMark c
  let power := (cs.dropWhile fun c ↦ !isMark c).drop 1
  let hasPower := cs.any isMark
  let whole := mantissa.takeWhile (· != '.')
  let places := (mantissa.dropWhile (· != '.')).drop 1
  let hasPoint := mantissa.contains '.'
  if whole.isEmpty then hasPoint && areDigits 10 places && (!hasPower || isPower false power)
  else
    whole.head?.any Char.isDigit && areDigits 10 whole && (places.isEmpty || areDigits 10 places) &&
      (hasPoint || hasPower) && (!hasPower || isPower true power)

/-- Whether a text is a date: four, two and two digits with hyphens between them. -/
def isDate (cs : List Char) : Bool :=
  match cs with
  | [a, b, c, d, '-', e, f, '-', g, h] => [a, b, c, d, e, f, g, h].all Char.isDigit
  | _ => false

/-- The kind of a plain scalar. -/
def ofPlain (s : String) : Kind :=
  let cs := s.toList
  let isNumeric := cs.head?.any fun c ↦ c.isDigit || c == '-' || c == '+' || c == '.'
  let (_, body) := Decimal.splitSign cs
  if ["", "~", "null", "Null", "NULL"].contains s then null
  else if ["true", "True", "TRUE", "false", "False", "FALSE"].contains s then flag
  else if [".nan", ".NaN", ".NAN"].contains s then fraction
  else if [".inf", ".Inf", ".INF"].contains (String.ofList body) then fraction
  else if isNumeric && isFraction body then fraction
  else if isNumeric && isWhole body then whole
  else if isDate cs then date
  else if s == "<<" then merge
  else if s == "=" then default
  else text

end Kind

namespace Scalar

/-- A whole number. The digits may start with the sign of a base. -/
def whole (s : String) : Except Fault Int :=
  match s.toList.filter (· != '_') with
  | [] => .error .noDigits
  | cs =>
    let (negative, body) := Decimal.splitSign cs
    let (base, digits) : Nat × List Char := match body with
      | '0' :: 'b' :: cs => (2, cs)
      | '0' :: 'o' :: cs => (8, cs)
      | '0' :: 'x' :: cs => (16, cs)
      | cs => (10, cs)
    let text := String.ofList digits
    match Decimal.integer? base (Text.trim Text.isSpacing text).toList with
    | some n => .ok (if negative then -n else n)
    | none => .error (.whole base text)

/-- A number with a point or a power of ten, infinity, or not a number. -/
def fraction (s : String) : Except Fault Float :=
  match (s.toList.filter (· != '_')).map Char.toLower with
  | [] => .error .noDigits
  | cs =>
    let (negative, body) := Decimal.splitSign cs
    let text := String.ofList body
    if text == ".nan" then .ok (0.0 / 0.0)
    else
      match Decimal.double? (if text == ".inf" then "inf" else Text.trim Text.isSpacing text) with
      | some x => .ok (if negative then -x else x)
      | none => .error (.fraction text)

/-- The words for yes and no. -/
def flagWords : List (String × Bool) :=
  [("yes", true), ("no", false), ("y", true), ("n", false), ("true", true), ("false", false),
    ("on", true), ("off", false)]

/-- A truth value, in any case. -/
def flag (s : String) : Except Fault Bool :=
  let word := String.ofList (s.toList.map Char.toLower)
  match flagWords.lookup word with
  | some b => .ok b
  | none => .error (.flag word)

/-- A date. -/
def date (s : String) : Except Fault Date :=
  if Kind.isDate s.toList then
    let part (start width : Nat) : Nat :=
      (Decimal.natural? 10 ((s.toList.drop start).take width)).getD 0
    (Date.make (part 0 4) (part 5 2) (part 8 2)).mapError .date
  else .error .grammar

/-- The value of a scalar of some kind. -/
def value (kind : Kind) (s : String) : Except Fault Value :=
  match kind with
  | .null => .ok .null
  | .flag => (flag s).map .bool
  | .whole => (whole s).map .int
  | .fraction => (fraction s).map .float
  | .text => .ok (.text s)
  | .date => (date s).map .date
  | _ => .error .grammar

end Scalar
end Provisioning.Markup
