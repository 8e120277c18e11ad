import ApiPage.Datum.Basic
import ApiPage.Log.Basic

/-!
# Set-up of logging

Which handlers the log of the library has, from which level on it is written, and in which form. The
environment gives the level and the form where a program does not; a form that is not given either
depends on whether the log goes to a terminal.

## Main definitions

* `Setup`: the state of logging.
* `Setup.configure`: logging as a program asks for it.
* `Setup.addDefault`: logging for a program that does not ask.
-/

namespace ApiPage.Log

/-- **Form** in which a handler writes records. -/
inductive Formatter
  | json
  | human (colours : Bool)
  deriving DecidableEq, Inhabited

/-- **Handler** of records: one that writes them, or one that drops them. -/
inductive Handler
  | stream (formatter : Formatter)
  | null
  deriving DecidableEq, Inhabited

/-- **Environment** variables that logging depends on. -/
structure Environment where
  level : Option Text
  format : Option Text
  deriving DecidableEq, Inhabited

/-- **Setup**: the environment, whether the log goes to a terminal, the handlers and the level. -/
structure Setup where
  env : Environment
  isTerminal : Bool
  handlers : List Handler
  level : Level
  deriving DecidableEq, Inhabited

/-- Why logging is not set up. -/
inductive SetupError
  | notText (typeName : Text)
  | nullCharacter
  | notLevel (value : Datum)

/-- The wording of an error. -/
def SetupError.message : SetupError → Text
  | notText typeName => Text.of "str expected, not " ++ typeName
  | nullCharacter => Text.of "embedded null byte"
  | notLevel value => Text.of "Level not an integer or a valid string: " ++ value.literal

namespace Setup

/-- The state before anything is set up by a program. -/
def initial (isTerminal : Bool) : Setup :=
  ⟨⟨none, none⟩, isTerminal, [.stream .json], Level.warning⟩

/-- **The level of the environment**; warnings and above if it names none. -/
def envLevel (s : Setup) : Level := (s.env.level.bind Level.ofText?).getD Level.warning

/-- **The name of the form** that holds: that of the environment in lower case, or the one for the
terminal or for other programs. -/
def formatName (s : Setup) : Text :=
  match s.env.format with
  | some (c :: r) => Text.lower (c :: r)
  | _ => Text.of (if s.isTerminal then "human" else "json")

/-- The handler for the form that holds. Every other name stands for the form for people. -/
def newHandler (s : Setup) : Handler :=
  .stream (if s.formatName = Text.of "json" then .json else .human s.isTerminal)

/-- Removes all handlers. -/
def clear (s : Setup) : Setup := { s with handlers := [] }

/-- Adds a handler. -/
def add (h : Handler) (s : Setup) : Setup := { s with handlers := s.handlers ++ [h] }

/-- **Logging for a program that does not ask**: as the environment says, unless there is a handler.
-/
def addDefault (s : Setup) : Setup :=
  if s.handlers.isEmpty then { s.add s.newHandler with level := s.envLevel } else s

/-- The text that an environment variable may be set to. -/
def envText : Datum → Except SetupError Text
  | .text t => if t.contains '\x00' then .error .nullCharacter else .ok t
  | d => .error (.notText d.typeName)

/-- The level that a program asks for; a name that is not known means information. -/
def askedLevel : Datum → Except SetupError Level
  | .text t => .ok ((Level.ofText? t).getD Level.info)
  | .int i => .ok i
  | .bool b => .ok (if b then 1 else 0)
  | d => .error (.notLevel d)

/-- Sets the form for good, if one is asked for. -/
def setFormat (format : Datum) (s : Setup) : Except SetupError Setup :=
  if format.truthy then do
    let t ← envText format
    return { s with env := { s.env with format := some t } }
  else .ok s

/-- **Logging as a program asks for it**, and what went wrong. The handlers are removed first, then
the form is set and its handler added, and the level comes last; what is done before an error stays.
-/
def configure (level format : Datum) (s : Setup) : Setup × Option SetupError :=
  match s.clear.setFormat format with
  | .error e => (s.clear, some e)
  | .ok s =>
    let s := s.add s.newHandler
    match askedLevel level with
    | .error e => (s, some e)
    | .ok l => ({ s with level := l }, none)

end Setup
end ApiPage.Log
