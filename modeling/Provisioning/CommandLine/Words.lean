import Provisioning.CommandLine.Reading

/-!
The built-in reader of command lines. Options have a long name and perhaps a letter; some take a
value, which stands in the same word or is the next one. Two hyphens alone end the options.
-/

set_option autoImplicit false

namespace Provisioning.CommandLine

/-- An option that takes a value. -/
structure Setting where
  name : String
  letter : Char
  deriving DecidableEq, Repr

/-- What a command understands: one option with a value, if it has one, besides the one that asks
for help; and whether options may follow other words. -/
structure Form where
  setting : Option Setting
  mixed : Bool
  deriving DecidableEq, Repr

/-- The option that asks for help. -/
def helpName : String := "--help"

/-- The words of a command: the last value of its option, whether help is asked for, and the words
that are no options. -/
structure Words where
  value : Option String := none
  asksHelp : Bool := false
  rest : List String := []
  deriving DecidableEq, Repr

/-- What a word with a hyphen in front means. -/
inductive Mark
  | help
  | value (v : String)
  | valueNext
  | unknown
  deriving DecidableEq, Repr

namespace Form

/-- Whether a word is written like an option. -/
def isMark (word : String) : Bool :=
  word.startsWith "-" && word != "-"

/-- The meaning of a word in which the option is given by its letter. -/
def markOfLetter (s : Setting) (word : String) : Mark :=
  match word.toList with
  | _ :: letter :: v =>
    if letter != s.letter then .unknown
    else if v.isEmpty then .valueNext
    else .value (String.ofList v)
  | _ => .unknown

/-- The meaning of a word that is written like an option. -/
def mark (f : Form) (word : String) : Mark :=
  if word == helpName then .help
  else
    match f.setting with
    | none => .unknown
    | some s =>
      if word == s.name then .valueNext
      else if word.startsWith (s.name ++ "=") then .value ((word.drop (s.name.length + 1)).toString)
      else if word.startsWith "--" then .unknown
      else markOfLetter s word

/-- The words of a command, unless one of its options is unknown or lacks its value. -/
def read (f : Form) : List String → Words → Option Words
  | [], w => some w
  | word :: rest, w =>
    if word == "--" then some { w with rest := w.rest ++ rest }
    else if isMark word then
      match f.mark word, rest with
      | .help, rest => f.read rest { w with asksHelp := true }
      | .value v, rest => f.read rest { w with value := some v }
      | .valueNext, v :: rest => f.read rest { w with value := some v }
      | .valueNext, [] => none
      | .unknown, _ => none
    else if f.mixed then f.read rest { w with rest := w.rest ++ [word] }
    else some { w with rest := w.rest ++ word :: rest }

/-- The request that the words after the name of a command make, or the code of the end. -/
def request (form : Form) (make : Words → Option Request) (words : List String) :
    Except Nat Request :=
  match form.read words {} with
  | none => .error 2
  | some w => if w.asksHelp then .error 0 else (make w).elim (.error 2) .ok

end Form

/-- The form of the words before the name of a command. -/
def mainForm : Form :=
  ⟨some ⟨"--log-level", 'l'⟩, false⟩

/-- The form of a command that works on a folder. -/
def folderForm : Form :=
  ⟨some ⟨"--config-dir", 'c'⟩, true⟩

/-- The form of a command's words, and the request that they make. -/
def requestForm? : String → Option (Form × (Words → Option Request))
  | "providers" => some (⟨none, true⟩, fun w ↦
      match w.rest with
      | [] => some .providers
      | _ => none)
  | "show" => some (folderForm, fun w ↦
      match w.rest with
      | [name] => some (.template name w.value)
      | _ => none)
  | "validate" => some (folderForm, fun w ↦
      match w.rest with
      | [] => some (.validate w.value)
      | _ => none)
  | _ => none

/-- The code of a run whose command is not known. Words written like options may still ask for
help. -/
def codeWithoutCommand (words : List String) : Nat :=
  let isWritten := words.head?.any fun word ↦ word.toList.head?.any fun c ↦ !c.isAlphanum
  if isWritten && (mainForm.read words {}).any Words.asksHelp then 0 else 2

/-- What the words of a command line ask for. -/
def readingOf (words : List String) : Reading :=
  match mainForm.read words {} with
  | none => .ends 2
  | some w =>
    if w.asksHelp then .ends 0
    else
      match w.rest with
      | [] => .ends 2
      | name :: rest =>
        match requestForm? name with
        | none => .ends (codeWithoutCommand w.rest)
        | some (form, make) => .starts w.value (form.request make rest)

/-- The built-in reader. -/
instance builtIn : Reader where
  read := readingOf

end Provisioning.CommandLine
