import ApiPage.Datum.Basic

/-!
# Scopes of events

Where an event comes from. A scope that is not given is read off the name of the logger.

## Main definitions

* `scopeOf`: the scope that a logger's name stands for.
* `innerPath`: a path from the package's directory on.
* `scopedExtra`: attributes under a scope.
-/

namespace ApiPage.Log

/-- Parts of logger names and the scopes they stand for, the first that occurs being decisive. -/
def scopeWords : List (Text × Text) :=
  [("comment", "comment"), ("linkify", "comment"), ("source", "source"), ("example", "examples"),
    ("render", "render")].map fun (w, s) => (Text.of w, Text.of s)

/-- The name of the library, which stands for a logger without a name. -/
def libraryName : Text := Text.of "doclink"

/-- **The scope that a logger's name stands for**: the last part of the name if nothing in it tells.
-/
def scopeOf (logger : Text) : Text :=
  match scopeWords.find? fun (w, _) => Text.hasInfix logger w with
  | some (_, s) => s
  | none =>
    if logger.isEmpty then libraryName else (Text.splitBy (· == '.') logger).getLast?.getD []

/-- **A path from the package's directory on**; all of it if it does not lead through that. -/
def innerPath (path : Text) : Text :=
  let directory := libraryName ++ ['/']
  match Text.find? path directory with
  | some n => path.drop (n + directory.length)
  | none => path

/-- Why attributes cannot be joined. -/
inductive ExtraError
  | notIterable (typeName : Text)
  | notPairs
  deriving DecidableEq

/-- The wording of an error. -/
def ExtraError.message : ExtraError → Text
  | notIterable typeName => '\'' :: typeName ++ Text.of "' object is not iterable"
  | notPairs => Text.of "dictionary update sequence element #0 has length 1; 2 is required"

/-- **Attributes under a scope**: the scope, which those given may replace. -/
def scopedExtra (scope : Text) (extra : Option Datum) : Except ExtraError (List (Text × Datum)) :=
  let own : List (Text × Datum) := [(Text.of "scope", .text scope)]
  match extra with
  | none => .ok own
  | some (.record fs) => .ok (setFields own fs)
  | some (.list []) | some (.text []) => .ok own
  | some (.list _) | some (.text _) => .error .notPairs
  | some d => .error (.notIterable d.typeName)

end ApiPage.Log
