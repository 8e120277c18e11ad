import ApiPage.Datum.Basic
import ApiPage.Text.Case

/-!
# Log levels and events

What rendering reports beside its result. An event has a level, the scope it comes from, a message
and further attributes.

## Main definitions

* `Level`: how grave an event is.
* `Level.ofText?`: the level that a setting names.
* `Event`: what is reported.
-/

namespace ApiPage.Log

/-- **Level**: the higher, the graver. -/
abbrev Level := Int

namespace Level

/-- The level of events that help to find a fault. -/
def debug : Level := 10

/-- The level of events in the normal course. -/
def info : Level := 20

/-- The level of events that call for attention. -/
def warning : Level := 30

/-- The level of failures. -/
def error : Level := 40

/-- The level of failures that end the work. -/
def critical : Level := 50

/-- The level above all events. -/
def off : Level := 60

/-- The name of a level. -/
def name (l : Level) : Text :=
  if l = debug then Text.of "DEBUG"
  else if l = info then Text.of "INFO"
  else if l = warning then Text.of "WARNING"
  else if l = error then Text.of "ERROR"
  else if l = critical then Text.of "CRITICAL"
  else Text.of "Level " ++ Text.ofInt l

/-- The words that name levels in settings. -/
def words : List (Text × Level) :=
  [("trace", debug), ("debug", debug), ("info", info), ("warn", warning), ("warning", warning),
    ("error", error), ("err", error), ("fatal", critical), ("critical", critical), ("off", off),
    ("none", off)].map fun (w, l) => (Text.of w, l)

/-- **The level that a setting names**, in letters of either case. -/
def ofText? (t : Text) : Option Level := words.lookup (Text.lower t)

/-- **Severity** of a level as it is written. A level without a word of its own counts as
information. -/
def severity (l : Level) : Text :=
  if l = debug then Text.of "DEBUG"
  else if l = warning then Text.of "WARN"
  else if l = error then Text.of "ERROR"
  else if l = critical then Text.of "FATAL"
  else Text.of "INFO"

/-- Events of the level are written with their place in the code. -/
def showsPlace (l : Level) : Bool := l = debug || l = error || l = critical

end Level

/-- **Event** of a rendering. -/
structure Event where
  level : Level
  scope : Text
  message : Text
  extra : List (Text × Datum)

end ApiPage.Log
