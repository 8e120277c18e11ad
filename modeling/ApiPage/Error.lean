import ApiPage.Package.Basic
import ApiPage.Page.Options
import ApiPage.Syntax.Printer.Expression

/-!
# Errors

What can go wrong, by cause. The errors of this library have a kind, a code that programs may rely
on, a message and details.

## Main definitions

* `Failure`: a cause.
* `Report`: an error of this library as it is handed on.
* `Failure.report?`: the report of a cause.
-/

namespace ApiPage

open Syntax (Fault LexError)

/-! ### Reports -/

/-- **Kind of an error** of this library. -/
inductive ErrorKind
  | general | validation | source | example | format | identifier
  deriving DecidableEq, Inhabited

/-- Wider families that errors belong to. -/
inductive ErrorFamily
  | general | value | grammar | state
  deriving DecidableEq

namespace ErrorKind

/-- All kinds. -/
def all : List ErrorKind := [general, validation, source, «example», format, identifier]

/-- The name of a kind. -/
def name : ErrorKind → Text
  | general => Text.of "DoclinkError"
  | validation => Text.of "ValidationError"
  | source => Text.of "SourceError"
  | «example» => Text.of "ExampleError"
  | format => Text.of "FormatError"
  | identifier => Text.of "IdentifierError"

/-- The kind of a name. -/
def ofText? (t : Text) : Option ErrorKind := all.find? (·.name = t)

/-- The code of a kind unless another is given. -/
def code : ErrorKind → Text
  | general => Text.of "INTERNAL_ERROR"
  | validation => Text.of "INVALID_ARGUMENT"
  | source => Text.of "SOURCE_SYNTAX"
  | «example» => Text.of "EXAMPLE_MISSING_CODE"
  | format => Text.of "DECL_FORMAT"
  | identifier => Text.of "INVALID_IDENTIFIER"

/-- The message of a kind unless another is given. -/
def message : ErrorKind → Text
  | «example» => Text.of "Please include an example with code"
  | _ => []

/-- The families that a kind belongs to. -/
def families : ErrorKind → List ErrorFamily
  | general | «example» => [.general]
  | validation | identifier => [.general, .value]
  | source => [.general, .grammar]
  | format => [.general, .state]

end ErrorKind

/-- **Report** of an error. -/
structure Report where
  kind : ErrorKind
  message : Text
  code : Text
  details : List (Text × Datum)

/-- The source form of a report. -/
def Report.literal (r : Report) : Text :=
  r.kind.name ++ '(' :: Text.quote (Text.codes r.message) ++ Text.of ", code=" ++
    Text.quote (Text.codes r.code) ++ [')']

/-! ### Causes -/

/-- Why a displayed declaration cannot be formatted. -/
inductive FormatError
  | unparsed (name : Text) (fault : Fault)
  | lexical (e : LexError)
  deriving DecidableEq

/-- The wording of an error. -/
def FormatError.message : FormatError → Text
  | unparsed name fault =>
    Text.of "cannot parse declaration " ++ name ++ ':' :: ' ' :: fault.message
  | lexical e => Text.of "cannot tokenize declaration: " ++ e.message

/-- **Cause of an error**. -/
inductive Failure
  | source (e : SourceError)
  | encoding (e : EncodingError)
  | print (e : Syntax.Printer.PrintError)
  | format (e : FormatError)
  | identifier (e : IdentifierError)
  | noCode
  | invalid (e : ValidationError)
  | unknownSetting (name : Text)
  | unknownKind (value : Datum)

namespace Failure

/-- The message of a module source that is not accepted. -/
def sourceMessage : SourceError → Text
  | .nullCharacter => Text.of "source code string cannot contain null bytes"
  | .syntaxAt path _ => Text.of "cannot parse " ++ path
  | .lexical e => Text.of "cannot tokenize module source: " ++ e.message

/-- **The message of a cause**. -/
def message : Failure → Text
  | source e => sourceMessage e
  | encoding e => e.message
  | print e => e.message
  | format e => e.message
  | identifier e => e.message
  | noCode => ErrorKind.example.message
  | invalid e => e.message
  | unknownSetting name =>
    Text.of "'_RenderConfig' object has no attribute '" ++ name ++ ['\'']
  | unknownKind d => d.literal ++ Text.of " is not a valid Kind"

/-- The kind of a cause, if it is an error of this library. -/
def kind? : Failure → Option ErrorKind
  | source .nullCharacter => none
  | source _ => some .source
  | encoding _ | print _ | unknownSetting _ | unknownKind _ => none
  | format _ => some .format
  | identifier _ => some .identifier
  | noCode => some .example
  | invalid _ => some .validation

/-- What a cause is about. -/
def details : Failure → List (Text × Datum)
  | source (.syntaxAt path row) => [(Text.of "path", .text path), (Text.of "lineno", .nat row)]
  | identifier e => [(Text.of "id", .text e.id)]
  | invalid e => e.details
  | _ => []

/-- **The report of a cause**, if it is an error of this library. -/
def report? (f : Failure) : Option Report :=
  f.kind?.map fun k => ⟨k, f.message, k.code, f.details⟩

end Failure

/-! ### Steps that may fail -/

/-- What ends well ends well at each step. -/
theorem bind_eq_ok {ε α β : Type} {x : Except ε α} {f : α → Except ε β} {b : β} :
    x >>= f = .ok b ↔ ∃ a, x = .ok a ∧ f a = .ok b := by
  cases x <;> simp [bind, Except.bind]

end ApiPage
