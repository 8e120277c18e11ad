import ApiPage.Package.Comments
import ApiPage.Package.Elide
import ApiPage.Syntax.Printer.Statement

/-!
# Displayed declarations

The text under which a declaration is shown. A function is its head and an ellipsis. A class is its
head, its public fields and the heads of its nested classes, with the heads of its methods if it is
a protocol. Values are their statements. Comments of the module stand where they stood, and notes of
elisions behind the statement.

## Main definitions

* `Declaration.display`: the text of a declaration.
* `Declaration.synopsis`: the text of a declaration in one line.
-/

namespace ApiPage

open Syntax
open Syntax.Printer (Printed PrintError)

namespace Display

/-- One level of indentation. -/
def indentation : Text := Text.of "    "

/-- Lines one level deeper. -/
def indented (ls : List Text) : List Text := ls.map (indentation ++ ·)

/-- The note about what a class does not show. -/
def filteredNote : Text := Text.of "# contains filtered or private members"

/-- Adds text to the last line. -/
def extendLast (t : Text) : List Text → List Text
  | [] => []
  | [l] => [l ++ t]
  | l :: ls => l :: extendLast t ls

/-- The definition with nothing but a `pass` in its body. -/
def bodiless : Stmt → Stmt
  | .function s isAsync name params _ decorators returns =>
    .function s isAsync name params [.pass default] decorators returns
  | .classDef s name bases keywords _ decorators =>
    .classDef s name bases keywords [.pass default] decorators
  | s => s

/-- The lines of a definition before its body. -/
def header (s : Stmt) : Except PrintError (List Text) := do
  return (Text.lines (← (bodiless s).toText)).dropLast

/-- The lines of a definition with an ellipsis for its body. -/
def stub (s : Stmt) : Except PrintError (List Text) := do
  return extendLast (Text.of " ...") (← header s)

/-- What follows a statement on its last line: a comment and the notes of elisions. -/
def trailing (cs : Comments) (s : Stmt) : Text :=
  let notes := s.elided.map fun n => Text.of "# " ++ n.note
  ((cs.trailing? s.endRow).toList ++ notes).flatMap (Text.of "  " ++ ·)

/-- The lines of a statement with what follows it. -/
def statement (cs : Comments) (s : Stmt) : Except PrintError (List Text) := do
  return extendLast (trailing cs s) (Text.lines (← s.toText))

/-- A statement that binds public names alone. -/
def isPublicValue (s : Stmt) : Bool :=
  !s.boundNames.isEmpty && s.boundNames.all fun n => isPublic n.name

/-- What a class shows of a member: lines, nothing, or nothing but the note. -/
inductive Shown
  | lines (ls : List Text)
  | nothing
  | filtered

/-- What a class shows of one of its statements. -/
def member (cs : Comments) (isProtocol : Bool) (s : Stmt) : Except PrintError Shown :=
  match s with
  | .assign .. | .annAssign .. =>
    if isPublicValue s then do return .lines (cs.leading s.row ++ (← statement cs s))
    else return .filtered
  | .function .. =>
    if !isShownMethod s.definedName then return .filtered
    else if isProtocol then do return .lines (cs.leading s.firstRow ++ (← stub s))
    else return .nothing
  | .classDef .. =>
    if isPublic s.definedName then do return .lines (← stub s) else return .filtered
  | .expr .. | .pass .. => return .nothing
  | _ => return .filtered

/-- What a class shows of its statements: lines, and whether something is filtered. -/
def members (cs : Comments) (isProtocol : Bool) : List Stmt → Except PrintError (List Text × Bool)
  | [] => return ([], false)
  | s :: ss => do
    let shown ← member cs isProtocol s
    let (ls, filtered) ← members cs isProtocol ss
    return match shown with
      | .lines ms => (indented ms ++ ls, filtered)
      | .nothing => (ls, filtered)
      | .filtered => (ls, true)

/-- The lines of a class. -/
def classLines (cs : Comments) (s : Stmt) : Except PrintError (List Text) := do
  let head ← header s
  let (ls, filtered) ← members cs s.isProtocol s.body
  let body := ls ++ if filtered then [indentation ++ filteredNote] else []
  return head ++ if body.isEmpty then [indentation ++ Text.of "..."] else body

/-- The lines of values after the first, with the comments above them. -/
def laterValues (cs : Comments) : List Stmt → Except PrintError (List Text)
  | [] => return []
  | s :: ss => do
    let ls ← statement cs s
    return cs.leading s.row ++ ls ++ (← laterValues cs ss)

/-- The lines of a group of values. The comments above the first are its documentation. -/
def valueLines (cs : Comments) : List Stmt → Except PrintError (List Text)
  | [] => return []
  | s :: ss => do
    let ls ← statement cs s
    return ls ++ (← laterValues cs ss)

/-- The texts of some targets. -/
def targetTexts : List Expr → Except PrintError (List Text)
  | [] => return []
  | e :: es => do
    let t ← e.toText
    return t :: (← targetTexts es)

end Display

namespace Declaration

/-- **The text of a declaration**, without a line end. -/
def display (cs : Comments) (d : Declaration) : Printed := do
  let ls ← match d with
    | function fn _ => Display.stub fn
    | type cls => Display.classLines cs cls
    | values group _ => Display.valueLines cs group
  return Text.joinLines ls

/-- **The text of a declaration in one line**: the head of a definition, or the first assignment
with its value elided. -/
def synopsis (d : Declaration) : Printed :=
  let head (s : Stmt) : Printed := do
    let l := (← Display.header s).getLast?.getD []
    return if l.getLast? == some ':' then l.dropLast else l
  match d with
  | function fn _ => head fn
  | type cls => head cls
  | values (.annAssign _ target hint value _ _ :: _) _ => do
    let t ← target.toText
    let h ← hint.toText
    return t ++ Text.of ": " ++ h ++ if value.isSome then Text.of " = ..." else []
  | values (s :: _) _ => do
    return Text.join (Text.of " = ") (← Display.targetTexts s.targets) ++ Text.of " = ..."
  | values [] _ => return []

end Declaration
end ApiPage
