import Provisioning.Decimal.Numeral
import Provisioning.Script.Fault
import Provisioning.Text.Blank
import Provisioning.Text.Lines
import Provisioning.Text.Word

/-!
The tokens of a script template. Text outside tags is data. A tag prints an expression, gives a
statement or holds a comment; a minus sign inside its marks removes the blank characters on that
side. Between the marks of a raw block everything is data.
-/

set_option autoImplicit false

namespace Provisioning.Script

/-- The smallest parts of a template. -/
inductive Lexeme
  | data (s : String)
  | openPrint
  | closePrint
  | openBlock
  | closeBlock
  | name (s : String)
  | text (s : String)
  | whole (n : Nat)
  | fraction (x : Float)
  | sign (s : String)

/-- A lexeme and the line it starts on. -/
structure Token where
  lexeme : Lexeme
  line : Nat

namespace Lexeme

/-- Whether a lexeme is this name. -/
def isName (s : String) : Lexeme → Bool
  | name t => t == s
  | _ => false

/-- Whether a lexeme is this sign. -/
def isSign (s : String) : Lexeme → Bool
  | sign t => t == s
  | _ => false

end Lexeme

namespace Token

/-- What follows the characters `lead`. -/
def after? : (lead cs : List Char) → Option (List Char)
  | [], cs => some cs
  | _ :: _, [] => none
  | l :: ls, c :: cs => if l == c then after? ls cs else none

/-- Digits, of which any two may have an underscore between them, and what follows. -/
def moreDigits (isDigit : Char → Bool) : List Char → List Char × List Char
  | '_' :: c :: cs =>
    if isDigit c then
      let (ds, rest) := moreDigits isDigit cs
      (c :: ds, rest)
    else ([], '_' :: c :: cs)
  | c :: cs =>
    if isDigit c then
      let (ds, rest) := moreDigits isDigit cs
      (c :: ds, rest)
    else ([], c :: cs)
  | [] => ([], [])

/-- A run of decimal digits that starts with one. -/
def decimals? : List Char → Option (List Char × List Char)
  | [] => none
  | c :: cs =>
    if c.isDigit then
      let (ds, rest) := moreDigits Char.isDigit cs
      some (c :: ds, rest)
    else none

/-- An exponent and what follows it. -/
def exponent? : List Char → Option (Int × List Char)
  | c :: cs =>
    if c == 'e' || c == 'E' then do
      let (negative, cs) := Decimal.splitSign cs
      let (ds, rest) ← decimals? cs
      let n ← Decimal.natural? 10 ds
      return (if negative then -(n : Int) else n, rest)
    else none
  | [] => none

/-- A number with a fraction or an exponent. -/
def fraction? (cs : List Char) : Option (Float × List Char) := do
  let (whole, rest) ← decimals? cs
  let (places, rest, isFraction) := match rest with
    | '.' :: more =>
      match decimals? more with
      | some (ds, rest) => (ds, rest, true)
      | none => ([], rest, false)
    | _ => ([], rest, false)
  let digits ← Decimal.natural? 10 (whole ++ places)
  match exponent? rest with
  | some (e, rest) => return ((⟨false, digits, e - places.length⟩ : Decimal.Numeral).toFloat, rest)
  | none =>
    guard isFraction
    return ((⟨false, digits, -(places.length : Int)⟩ : Decimal.Numeral).toFloat, rest)

/-- A whole number in a base other than ten, behind its mark. -/
def based? (mark : Char) (base : Nat) (cs : List Char) : Option (Nat × List Char) :=
  match cs with
  | '0' :: c :: cs =>
    if c == mark || c == mark.toUpper then do
      let (ds, rest) := moreDigits (fun d ↦ (Decimal.digit? d).any (· < base)) cs
      let n ← Decimal.natural? base ds
      return (n, rest)
    else none
  | _ => none

/-- A whole number. A decimal one starts with zero only if it has no other digits. -/
def whole? (cs : List Char) : Option (Nat × List Char) :=
  let plain : Option (Nat × List Char) := match cs with
    | '0' :: cs => some (0, (moreDigits (· == '0') cs).2)
    | cs => do
      let (ds, rest) ← decimals? cs
      let n ← Decimal.natural? 10 ds
      return (n, rest)
  ((based? 'b' 2 cs).or ((based? 'o' 8 cs).or (based? 'x' 16 cs))).or plain

/-- The characters up to a closing mark, with escapes left as they are. -/
def untilMark (mark : Char) : List Char → Option (List Char × List Char)
  | '\\' :: c :: cs => do
    let (s, rest) ← untilMark mark cs
    return ('\\' :: c :: s, rest)
  | c :: cs =>
    if c == mark then some ([], cs)
    else do
      let (s, rest) ← untilMark mark cs
      return (c :: s, rest)
  | [] => none

/-- The character with a hexadecimal code. -/
def codePoint? (digits : List Char) : Option Char := do
  let n ← Decimal.natural? 16 digits
  guard (n.isValidChar)
  return Char.ofNat n

/-- Escapes of a single character. -/
def simpleEscape? (c : Char) : Option Char :=
  [('\\', '\\'), ('\'', '\''), ('"', '"'), ('n', '\n'), ('r', '\r'), ('t', '\t'),
    ('a', Char.ofNat 7), ('b', Char.ofNat 8), ('v', Char.ofNat 11), ('f', Char.ofNat 12)].lookup c

/-- Whether a character is an octal digit. -/
def isOctal (c : Char) : Bool :=
  '0' ≤ c && c ≤ '7'

/-- The text that a quoted text stands for. An escape that has no meaning stays as it is. -/
def unescape : (fuel : Nat) → List Char → Option (List Char)
  | 0, _ => some []
  | _ + 1, [] => some []
  | fuel + 1, '\\' :: c :: cs =>
    let coded (count : Nat) : Option (List Char) :=
      if cs.length < count then none
      else do
        let d ← codePoint? (cs.take count)
        let rest ← unescape fuel (cs.drop count)
        return d :: rest
    match simpleEscape? c with
    | some d => (unescape fuel cs).map (d :: ·)
    | none =>
      if c == '\n' then unescape fuel cs
      else if c == 'x' then coded 2
      else if c == 'u' then coded 4
      else if c == 'U' then coded 8
      else if c == 'N' then none
      else if isOctal c then
        let ds := c :: (cs.take 2).takeWhile isOctal
        do
          let n ← Decimal.natural? 8 ds
          let rest ← unescape fuel (cs.drop (ds.length - 1))
          return Char.ofNat n :: rest
      else if c.toNat < 0x80 then (unescape fuel cs).map ('\\' :: c :: ·)
      else
        let n := c.toNat
        let code := if n < 0x100 then "x" ++ Text.hex 2 n
          else if n < 0x10000 then "u" ++ Text.hex 4 n
          else "U" ++ Text.hex 8 n
        (unescape fuel cs).map ('\\' :: code.toList ++ ·)
  | fuel + 1, c :: cs => (unescape fuel cs).map (c :: ·)

/-- The signs, longer ones before their beginnings. -/
def signs : List String :=
  ["//", "**", "==", "!=", ">=", "<=", "+", "-", "/", "*", "%", "~", "[", "]", "(", ")", "\x7b",
    "\x7d", ">", "<", "=", ".", ":", "|", ",", ";"]

/-- The sign that a text starts with. -/
def sign? (cs : List Char) : Option (String × List Char) :=
  signs.findSome? fun s ↦ (after? s.toList cs).map fun rest ↦ (s, rest)

/-- Removes blank characters from the start. -/
def dropBlank (cs : List Char) : List Char :=
  cs.dropWhile Text.isSpacing

/-- Removes blank characters from the end. -/
def dropBlankEnd (cs : List Char) : List Char :=
  (cs.reverse.dropWhile Text.isSpacing).reverse

/-- The minus or plus sign behind an opening mark. -/
def control : List Char → Option Char × List Char
  | '-' :: cs => (some '-', cs)
  | '+' :: cs => (some '+', cs)
  | cs => (none, cs)

/-- What follows a closing mark. A minus sign before the mark removes blank characters after it; a
plus sign is allowed where `plus` says so. -/
def afterClose? (mark : List Char) (plus : Bool) (cs : List Char) : Option (List Char) :=
  match cs with
  | '-' :: more => (after? mark more).map dropBlank
  | '+' :: more => if plus then after? mark more else none
  | cs => after? mark cs

/-- The data before the first tag, the character that tells the kind of the tag, and the rest. -/
def splitTag : List Char → List Char × Option (Char × List Char)
  | '{' :: c :: cs =>
    if c == '{' || c == '%' || c == '#' then ([], some (c, cs))
    else
      let (data, tag) := splitTag (c :: cs)
      ('{' :: data, tag)
  | c :: cs =>
    let (data, tag) := splitTag cs
    (c :: data, tag)
  | [] => ([], none)

/-- What follows the end of a comment. -/
def afterComment? : List Char → Option (List Char)
  | [] => none
  | c :: cs => (afterClose? ['#', '}'] true (c :: cs)).or (afterComment? cs)

/-- What follows the opening of a raw block, whose mark has been read. -/
def afterRaw? (cs : List Char) : Option (List Char) := do
  let cs ← after? "raw".toList (dropBlank cs)
  afterClose? ['%', '}'] false (dropBlank cs)

/-- What follows the closing tag of a raw block, and the sign behind its opening mark. -/
def afterEndRaw? (cs : List Char) : Option (Option Char × List Char) := do
  let cs ← after? ['{', '%'] cs
  let (sign, cs) := control cs
  let cs ← after? "endraw".toList (dropBlank cs)
  let rest ← afterClose? ['%', '}'] true (dropBlank cs)
  return (sign, rest)

/-- The data of a raw block and what follows the block. -/
def splitRaw : List Char → Option (List Char × Option Char × List Char)
  | [] => none
  | c :: cs =>
    match afterEndRaw? (c :: cs) with
    | some (sign, rest) => some ([], sign, rest)
    | none => (splitRaw cs).map fun (data, sign, rest) ↦ (c :: data, sign, rest)

/-- Data before a tag, without the blank characters at its end if the tag asks for that. -/
def trimmed (sign : Option Char) (data : List Char) : List Char :=
  if sign == some '-' then dropBlankEnd data else data

/-- The token of a piece of data, if there is any. -/
def ofData (line : Nat) (data : List Char) : List Token :=
  if data.isEmpty then [] else [⟨.data (String.ofList data), line⟩]

/-- The line reached when `rest` is what is left of `cs`. -/
def lineAt (line : Nat) (cs rest : List Char) : Nat :=
  line + (cs.take (cs.length - rest.length)).count '\n'

/-- Where in a template the reader is: in data, or in a tag of which kind, with the closing
brackets that are still to come. -/
inductive Place
  | data
  | tag (isBlock : Bool) (brackets : List Char)

/-- The lexeme at the start of a text inside a tag. A number behind a point has no fraction. -/
def lexeme? (previous : Option Char) (cs : List Char) : Except Fault (Lexeme × List Char) :=
  let fraction := if previous == some '.' then none else fraction? cs
  match fraction, whole? cs with
  | some (x, rest), _ => .ok (.fraction x, rest)
  | none, some (n, rest) => .ok (.whole n, rest)
  | none, none =>
    match cs with
    | [] => .error (.malformed "unexpected end of template")
    | c :: more =>
      if Text.isWord c then
        .ok (.name (String.ofList (cs.takeWhile Text.isWord)), cs.dropWhile Text.isWord)
      else
        let quoted := if c == '\'' || c == '"' then untilMark c more else none
        match quoted, sign? cs with
        | some (raw, rest), _ =>
          match unescape raw.length raw with
          | some s => .ok (.text (String.ofList s), rest)
          | none => .error (.malformed "malformed escape in a text")
        | none, some (s, rest) => .ok (.sign s, rest)
        | none, none => .error (.malformed ("unexpected char " ++ Text.quote c.toString))

/-- The brackets that are still to be closed after a sign. -/
def bracketsAfter (brackets : List Char) (l : Lexeme) : Except Fault (List Char) :=
  match l with
  | .sign "(" => .ok (')' :: brackets)
  | .sign "[" => .ok (']' :: brackets)
  | .sign "\x7b" => .ok ('}' :: brackets)
  | .sign s =>
    if s == ")" || s == "]" || s == "\x7d" then
      match brackets with
      | [] => .error (.malformed ("unexpected '" ++ s ++ "'"))
      | b :: outer =>
        if b.toString == s then .ok outer
        else .error (.malformed ("unexpected '" ++ s ++ "', expected '" ++ b.toString ++ "'"))
    else .ok brackets
  | _ => .ok brackets

/-- Reads tokens from a place in the template on. Every step takes at least one character. -/
def scan : (fuel : Nat) → Place → (previous : Option Char) → (line : Nat) → List Char →
    Except Fault (List Token)
  | 0, _, _, _, _ => .ok []
  | fuel + 1, .data, _, line, cs =>
    match splitTag cs with
    | (data, none) => .ok (ofData line data)
    | (data, some (kind, rest)) => do
      let (sign, inner) := control rest
      let before := ofData line (trimmed sign data)
      let here := lineAt line cs rest
      if kind == '#' then
        match afterComment? inner with
        | some rest => return before ++ (← scan fuel .data none (lineAt line cs rest) rest)
        | none => .error (.malformed "Missing end of comment tag")
      else
        match if kind == '%' then afterRaw? inner else none with
        | some body =>
          match splitRaw body with
          | some (raw, sign, rest) =>
            let data := ofData (lineAt line cs body) (trimmed sign raw)
            return before ++ data ++ (← scan fuel .data none (lineAt line cs rest) rest)
          | none => .error (.malformed "Missing end of raw directive")
        | none =>
          let isBlock := kind == '%'
          let mark : Token := ⟨if isBlock then .openBlock else .openPrint, here⟩
          return before ++ mark :: (← scan fuel (.tag isBlock []) none here inner)
  | fuel + 1, .tag isBlock brackets, previous, line, cs =>
    let close := if !brackets.isEmpty then none
      else if isBlock then afterClose? ['%', '}'] true cs
      else afterClose? ['}', '}'] false cs
    match close, cs with
    | some rest, _ => do
      let mark : Token := ⟨if isBlock then .closeBlock else .closePrint, line⟩
      return mark :: (← scan fuel .data none (lineAt line cs rest) rest)
    | none, [] => .ok []
    | none, c :: more =>
      if Text.isSpacing c then
        scan fuel (.tag isBlock brackets) (some c) (if c == '\n' then line + 1 else line) more
      else do
        let (l, rest) ← lexeme? previous cs
        let open' ← bracketsAfter brackets l
        let last := (cs.take (cs.length - rest.length)).getLast?
        return ⟨l, line⟩ :: (← scan fuel (.tag isBlock open') last (lineAt line cs rest) rest)

/-- The tokens of a template. -/
def ofText (template : String) : Except Fault (List Token) :=
  let cs := Text.normalLines template.toList
  scan (cs.length + 1) .data none 1 cs

end Token
end Provisioning.Script
