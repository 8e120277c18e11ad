import ApiPage.Datum.Json
import ApiPage.Datum.Template
import ApiPage.Log.Basic
import ApiPage.Log.Scope
import ApiPage.Log.Time

/-!
# Log records

An event as it reaches a log: with the logger it went through, its place in the code and its time.
It is written as one line, for machines in JSON or for people.

## Main definitions

* `Record`: an event at a place and a time.
* `Record.json`: the line for machines.
* `Record.human`: the line for people.
-/

namespace ApiPage.Log

/-- **Record**: an event at a place and a time. Its message is a template for its arguments. -/
structure Record where
  logger : Text
  level : Level
  path : Text
  line : Datum
  template : Text
  args : List Datum
  created : Seconds
  extra : List (Text × Datum)

/-- Why a record cannot be written. -/
inductive RecordError
  | time (e : TimeError)
  | template (e : Datum.TemplateError)

/-- The wording of an error. -/
def RecordError.message : RecordError → Text
  | time e => e.message
  | template e => e.message

/-- Attributes that every record has, which are not written with the others. -/
def standardNames : List Text :=
  ["name", "msg", "args", "created", "filename", "funcName", "levelname", "levelno", "lineno",
    "module", "msecs", "pathname", "process", "processName", "relativeCreated", "stack_info",
    "exc_info", "exc_text", "thread", "threadName", "taskName", "scope", "message"].map Text.of

namespace Record

/-- **The record with an attribute set**. One that every record has takes the new value; what is no
text or number where one is needed does not replace it. -/
def set (r : Record) (k : Text) (v : Datum) : Record :=
  let r := { r with extra := setField k v r.extra }
  match String.ofList k, v with
  | "name", .text t => { r with logger := t }
  | "levelno", .int i => { r with level := i }
  | "pathname", .text t => { r with path := t }
  | "lineno", v => { r with line := v }
  | "msg", v => { r with template := v.display }
  | "args", v => { r with args := if v.truthy then [v] else [] }
  | "created", .int i => { r with created := .whole i }
  | "created", .real x => { r with created := .real x }
  | _, _ => r

/-- The record with attributes set in turn. -/
def setAll (r : Record) (fs : List (Text × Datum)) : Record :=
  fs.foldl (fun r (k, v) => r.set k v) r

/-- The date and time of a record. -/
def time (r : Record) : Except RecordError CivilTime := r.created.civil.mapError .time

/-- **The message of a record**. -/
def message (r : Record) : Except RecordError Text :=
  (Datum.fillTemplate r.template r.args).mapError .template

/-- **The scope of a record**: the one it is given, if that is not empty, or the one of its logger.
-/
def scope (r : Record) : Datum :=
  match r.extra.lookup (Text.of "scope") with
  | some d => if d.truthy then d else .text (scopeOf r.logger)
  | none => .text (scopeOf r.logger)

/-- The attributes of a record. -/
def attributes (r : Record) : List (Text × Datum) :=
  let shown := r.extra.filter fun (k, _) => !standardNames.contains k && k.head? ≠ some '_'
  let all := setFields [(Text.of "scope", r.scope)] shown
  if r.level.showsPlace then
    setField (Text.of "code.lineno") r.line
      (setField (Text.of "code.filepath") (.text (innerPath r.path)) all)
  else all

/-- The version that is written when none is known. -/
def unknownVersion : Text := Text.of "0.0.0"

/-- **The line for machines**. -/
def json (r : Record) : Except RecordError Text := do
  let t ← r.time
  let message ← r.message
  return Datum.json (.record [
    (Text.of "timestamp", .text t.stamp), (Text.of "severityText", .text r.level.severity),
    (Text.of "body", .text message), (Text.of "attributes", .record r.attributes),
    (Text.of "resource", .record [
      (Text.of "service.name", .text libraryName),
      (Text.of "service.version", .text unknownVersion)])])

/-! ### The line for people -/

/-- **Colour** of a part of a line. -/
inductive Colour
  | dim | red | yellow | cyan | none
  deriving DecidableEq

/-- What turns a colour on. -/
def Colour.code : Colour → Text
  | dim => Text.of "\x1b[2m"
  | red => Text.of "\x1b[31m"
  | yellow => Text.of "\x1b[33m"
  | cyan => Text.of "\x1b[36m"
  | none => []

/-- A part of a line in a colour. -/
def paint (colours : Bool) (c : Colour) (t : Text) : Text :=
  if colours && c ≠ .none then c.code ++ t ++ Text.of "\x1b[0m" else t

/-- The colour of a level. -/
def levelColour (l : Level) : Colour :=
  if l ≤ Level.debug then .dim
  else if Level.error ≤ l then .red
  else if Level.warning ≤ l then .yellow
  else .none

/-- The name of the declaration that a record is about. -/
def declarationName (r : Record) : Text :=
  match r.extra.lookup (Text.of "decl") with
  | some d => if d.truthy then Text.of " (" ++ d.display ++ [')'] else []
  | none => []

/-- The place of a record in the code. -/
def place (r : Record) : Text :=
  Text.of " [" ++ innerPath r.path ++ ':' :: r.line.display ++ [']']

/-- **The line for people**, in colours if the log goes to a terminal. -/
def human (colours : Bool) (r : Record) : Except RecordError Text := do
  let t ← r.time
  let message ← r.message
  return t.clock ++ ' ' ::
    paint colours (levelColour r.level) (Text.padEnd 5 r.level.severity ++ [' ']) ++
    paint colours .cyan ('[' :: r.scope.display ++ Text.of "] ") ++ message ++ r.declarationName ++
    if r.level.showsPlace then paint colours .dim r.place else []

end Record
end ApiPage.Log
