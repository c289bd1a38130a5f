import Provisioning.Decimal.Numeral
import Provisioning.Text.Blank
import Provisioning.Validation.Check

/-!
The built-in reader of values. It accepts the value itself and what clearly stands for it, such as a
number in a text. In a report each issue has two lines: the place of the value, and the rule it
breaks with the value itself, of which a long text loses its middle.
-/

set_option autoImplicit false

namespace Provisioning.Validation

/-! ### Texts -/

/-- The text that a value is, or the rule it breaks. -/
def textOf (v : Value) : Except Rule String :=
  match v with
  | .text s => .ok s
  | .bytes b | .buffer b => (Text.Utf8.decode b).mapError fun _ ↦ .textBytes
  | _ => .error .text

/-- The text in which a number may be written. -/
def numberText? (v : Value) : Option (Except Unit String) :=
  match v with
  | .text s => some (.ok s)
  | .bytes b => some ((Text.Utf8.decode b).mapError fun _ ↦ ())
  | _ => none

/-! ### Whole numbers -/

/-- The most digits that a whole number may have in a text. -/
def maxDigits : Nat := 4300

/-- Digits without the zeros, and underscores among them, that they start with. The last zero before
a point or the end stays. -/
def withoutZeros : List Char → Option (List Char)
  | '0' :: cs =>
    let rest := cs.dropWhile fun c ↦ c == '0' || c == '_'
    let last := (('0' :: cs.takeWhile fun c ↦ c == '0' || c == '_').getLast?).getD '0'
    match rest with
    | [] => some [last]
    | '.' :: _ => some (last :: rest)
    | c :: _ => if c.isDigit then some rest else none
  | c :: cs => if c.isDigit then some (c :: cs) else none
  | [] => none

/-- Digits without a point and the zeros, of which there is one at least, at their end. -/
def withoutFraction (cs : List Char) : List Char :=
  match cs.dropWhile (· != '.') with
  | '.' :: '0' :: zeros => if zeros.all (· == '0') then cs.takeWhile (· != '.') else cs
  | _ => cs

/-- Whether two underscores stand next to each other. -/
def hasDoubleMark : List Char → Bool
  | '_' :: '_' :: _ => true
  | _ :: cs => hasDoubleMark cs
  | [] => false

/-- Digits without the underscores between them. -/
def withoutMarks? (cs : List Char) : Option (List Char) :=
  if cs.head? == some '_' || cs.getLast? == some '_' || hasDoubleMark cs then none
  else some (cs.filter (· != '_'))

/-- The whole number that a text stands for, or the rule it breaks. -/
def wholeOfText (s : String) : Except Rule Int :=
  let cs := (Text.trim Text.isBlank s).toList
  let (negative, digits) := match cs with
    | '-' :: cs => (true, cs)
    | '+' :: cs => (false, cs)
    | cs => (false, cs)
  match (withoutZeros digits).bind fun ds ↦ withoutMarks? (withoutFraction ds) with
  | none => .error .wholeText
  | some ds =>
    if !ds.all Char.isDigit then .error .wholeText
    else if maxDigits < ds.length then .error .wholeSize
    else
      match Decimal.natural? 10 ds with
      | some n => .ok (if negative then -(n : Int) else n)
      | none => .error .wholeText

/-- The whole number that a double is, or the rule it breaks. -/
def wholeOfDouble (x : Float) : Except Rule Int :=
  match Decimal.Binary.ofFloat? x with
  | none => .error .finite
  | some b =>
    match b.toInt? with
    | none => .error .wholeFraction
    | some n => if n.natAbs < Nat.pow 2 63 then .ok n else .error .wholeSize

/-- The whole number that a value stands for, or the rule it breaks. -/
def wholeOf (v : Value) : Except Rule Int :=
  match v with
  | .int n => .ok n
  | .bool b => .ok (if b then 1 else 0)
  | .float x => wholeOfDouble x
  | v =>
    match numberText? v with
    | some (.ok s) => wholeOfText s
    | some (.error _) => .error .wholeText
    | none => .error .whole

/-! ### Numbers -/

/-- The double that a value stands for, or the rule it breaks. -/
def doubleOf (v : Value) : Except Rule Float :=
  match v with
  | .float x => .ok x
  | .int n =>
    match Decimal.ofInt? n with
    | some x => .ok x
    | none => .error .number
  | .bool b => .ok (if b then 1 else 0)
  | v =>
    match numberText? v with
    | some (.ok s) =>
      let unmarked := (withoutMarks? s.toList).bind fun cs ↦ Decimal.double? (String.ofList cs)
      match (Decimal.double? (Text.trim Text.isBlank s)).or unmarked with
      | some x => .ok x
      | none => .error .numberText
    | some (.error _) => .error .numberText
    | none => .error .number

/-! ### Truth values -/

/-- The words for yes and no, in any case. -/
def flagWords : List (String × Bool) :=
  [("0", false), ("off", false), ("f", false), ("false", false), ("n", false), ("no", false),
    ("1", true), ("on", true), ("t", true), ("true", true), ("y", true), ("yes", true)]

/-- Whether a whole number fits into 64 bits with a sign. -/
def isWord (n : Int) : Bool :=
  -(Nat.pow 2 63 : Int) ≤ n && n < (Nat.pow 2 63 : Int)

/-- The truth value that a number stands for, or the rule it breaks. -/
def flagOfWhole (n : Int) : Except Rule Bool :=
  if n = 0 then .ok false
  else if n = 1 then .ok true
  else if isWord n then .error .flagText
  else .error .flag

/-- The truth value that a value stands for, or the rule it breaks. -/
def flagOf (v : Value) : Except Rule Bool :=
  match v with
  | .bool b => .ok b
  | .int n => flagOfWhole n
  | .float x =>
    match wholeOfDouble x with
    | .ok n => flagOfWhole n
    | .error _ => .error .flag
  | v =>
    match numberText? v with
    | some (.ok s) =>
      match flagWords.lookup (String.ofList (s.toList.map Char.toLower)) with
      | some b => .ok b
      | none => .error .flagText
    | some (.error _) => .error .flagText
    | none => .error .flag

/-! ### Lists and dictionaries -/

/-- The items of a list or a tuple. -/
def itemsOf : Value → Except Rule (List Value)
  | .list vs | .tuple vs => .ok vs
  | _ => .error .list

/-- The entries of a dictionary. -/
def entriesOf : Value → Except Rule (List (Value × Value))
  | .dict es => .ok es
  | _ => .error .dict

/-- A key as a step of a path. -/
def keyStep (key : Value) : Step :=
  match key with
  | .text s => .name s
  | k =>
    match k.whole? with
    | some n => if isWord n then .index n else .name k.written
    | none => .name k.written

/-! ### Reports -/

namespace Rule

/-- The short name of a rule. -/
def code : Rule → String
  | text => "string_type"
  | textBytes => "string_unicode"
  | whole => "int_type"
  | wholeText => "int_parsing"
  | wholeFraction => "int_from_float"
  | wholeSize => "int_parsing_size"
  | finite => "finite_number"
  | atLeast _ => "greater_than_equal"
  | atMost _ => "less_than_equal"
  | above _ => "greater_than"
  | number => "float_type"
  | numberText => "float_parsing"
  | flag => "bool_type"
  | flagText => "bool_parsing"
  | list => "list_type"
  | dict => "dict_type"
  | keyText => "invalid_key"
  | record _ => "model_type"
  | choice _ => "literal_error"
  | required => "missing"
  | unknown => "extra_forbidden"
  | custom _ => "value_error"

/-- Alternatives in quotes, the last two joined by "or". -/
def alternatives (options : List String) : String :=
  match (options.map Text.quote).reverse with
  | [] => ""
  | [only] => only
  | last :: others => ", ".intercalate others.reverse ++ " or " ++ last

/-- What a rule demands. -/
def message : Rule → String
  | text => "Input should be a valid string"
  | textBytes => "Input should be a valid string, unable to parse raw data as a unicode string"
  | whole => "Input should be a valid integer"
  | wholeText => "Input should be a valid integer, unable to parse string as an integer"
  | wholeFraction => "Input should be a valid integer, got a number with a fractional part"
  | wholeSize => "Unable to parse input string as an integer, exceeded maximum size"
  | finite => "Input should be a finite number"
  | atLeast bound => "Input should be greater than or equal to " ++ toString bound
  | atMost bound => "Input should be less than or equal to " ++ toString bound
  | above bound => "Input should be greater than " ++ toString bound
  | number => "Input should be a valid number"
  | numberText => "Input should be a valid number, unable to parse string as a number"
  | flag => "Input should be a valid boolean"
  | flagText => "Input should be a valid boolean, unable to interpret input"
  | list => "Input should be a valid list"
  | dict => "Input should be a valid dictionary"
  | keyText => "Keys should be strings"
  | record title => "Input should be a valid dictionary or instance of " ++ title
  | choice options => "Input should be " ++ alternatives options
  | required => "Field required"
  | unknown => "Extra inputs are not permitted"
  | custom reason => "Value error, " ++ reason

end Rule

/-- A step as it is printed; a name with a point in it stands in marks. -/
def Step.display : Step → String
  | .name s => if s.contains '.' then "`" ++ s ++ "`" else s
  | .index n => toString n

/-- As many characters as fit into `limit` bytes. -/
def fitting (limit : Nat) : List Char → List Char
  | [] => []
  | c :: cs => if c.utf8Size ≤ limit then c :: fitting (limit - c.utf8Size) cs else []

/-- A text of more than 50 bytes loses its middle: at most 25 bytes of its start and 24 of its end
stay, with three dots between them. -/
def shortened (s : String) : String :=
  if s.utf8ByteSize ≤ 50 then s
  else
    String.ofList (fitting 25 s.toList) ++ "..." ++
      String.ofList (fitting 24 s.toList.reverse).reverse

/-- The text of a value in a report. -/
def shown (v : Value) : String :=
  if v.isWritable then v.written else "<unprintable " ++ v.kindName ++ " object>"

/-- Two lines: the place of the value, then the rule it breaks and the value. -/
def Issue.display (i : Issue) : String :=
  ".".intercalate (i.path.map Step.display) ++ "\n  " ++ i.rule.message ++ " [type=" ++
    i.rule.code ++ ", input_value=" ++ shortened (shown i.input) ++ ", input_type=" ++
    i.input.kindName ++ "]"

/-- A heading with the number of issues, then every issue. -/
def reportOf (title : String) (issues : List Issue) : String :=
  let count := issues.length
  "\n".intercalate
    ((toString count ++ (if count = 1 then " validation error for " else " validation errors for ")
      ++ title) :: issues.map Issue.display)

/-- The built-in reader. -/
instance builtIn : Reader where
  text := textOf
  whole := wholeOf
  number := doubleOf
  flag := flagOf
  items := itemsOf
  entries := entriesOf
  step := keyStep
  report := reportOf

end Provisioning.Validation
