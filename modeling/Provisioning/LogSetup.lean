import Provisioning.Error
import Provisioning.Text.Case

/-!
Setting up the log. The first set-up attaches a handler and sets the level; later ones find the
handler in place and leave the level alone. Every set-up that succeeds quiets three libraries.
-/

set_option autoImplicit false

namespace Provisioning.LogSetup

/-- How a handler writes: its kind, the layout of a line and that of a date. -/
structure Handler where
  label : String := "StreamHandler"
  line : String := "%(asctime)s - %(name)s - %(levelname)s - %(message)s"
  date : String := "%Y-%m-%d %H:%M:%S"
  deriving DecidableEq, Repr

/-- The state of the log: the level of the root, its handlers, and the level of the libraries. -/
structure Log where
  level : Nat := 30
  handlers : List Handler := []
  libraries : Nat := 0
  deriving DecidableEq, Repr

/-- The libraries that are quieted. -/
def quietLibraries : List String :=
  ["tldextract", "filelock", "urllib3"]

/-- The levels by name. -/
def levels : List (String × Nat) :=
  [("CRITICAL", 50), ("FATAL", 50), ("ERROR", 40), ("WARNING", 30), ("WARN", 30), ("INFO", 20),
    ("DEBUG", 10), ("NOTSET", 0)]

/-- The level of warnings. -/
def warningLevel : Nat := 30

/-- The level of information, which stands for every unknown name. -/
def infoLevel : Nat := 20

/-- A name that stands for a layout of lines instead of a level. -/
def layoutName : String := "BASIC_FORMAT"

/-- The layout that the name stands for. -/
def layout : String := "%(levelname)s:%(name)s:%(message)s"

/-- A name that stands for the known styles of layouts instead of a level. -/
def stylesName : String := "_STYLES"

/-- The known styles of layouts as they are shown. -/
def styles : String :=
  "\x7b'%': (<class 'logging.PercentStyle'>, '" ++ layout ++
    "'), '\x7b': (<class 'logging.StrFormatStyle'>, '\x7blevelname\x7d:\x7bname\x7d:" ++
    "\x7bmessage\x7d'), '$': (<class 'logging.StringTemplateStyle'>, '$\x7blevelname\x7d:" ++
    "$\x7bname\x7d:$\x7bmessage\x7d')\x7d"

/-- The level that a name in any case stands for. -/
def levelOf (name : String) : Except Error Nat :=
  let upper := Text.toUpper name
  if upper == layoutName then .error (.unknownLevel layout)
  else if upper == stylesName then .error (.notLevel styles)
  else .ok ((levels.lookup upper).getD infoLevel)

/-- The log after a set-up with the level of that name. -/
def Log.setUp (l : Log) (name : String) : Log × Except Error Unit :=
  if l.handlers.isEmpty then
    let attached := { l with handlers := [{}] }
    match levelOf name with
    | .ok level => ({ attached with level := level, libraries := warningLevel }, .ok ())
    | .error e => (attached, .error e)
  else ({ l with libraries := warningLevel }, .ok ())

end Provisioning.LogSetup
