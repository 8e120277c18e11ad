import ApiPage.Datum.Basic
import ApiPage.Package.Comments
import ApiPage.Package.Declaration
import ApiPage.Syntax.Parser

/-!
# Packages

The documented contents of one module with the names it binds. Names are resolved by the text alone:
a name of the module stands for a declaration, for an import, or for nothing.

## Main definitions

* `Package.ofSource`: the package of a source text.
* `Package.lookup`: what a name stands for.
* `Package.anchorTargets`: the anchors that a page of the package defines.
-/

namespace ApiPage

open Syntax

/-- **Import**: the name it binds, the path of the module, and the symbol of it, if it is one. -/
structure Import where
  name : Text
  path : Text
  symbol : Option Text
  deriving DecidableEq, Inhabited

/-- **What a name stands for**: an import, or a declaration of the page. -/
inductive Binding
  | imported (i : Import)
  | declared (name : Text)
  deriving DecidableEq

/-- **Package**: the contents of a module with its imports in the order they were first bound. -/
structure Package where
  path : Text
  doc : Text
  imports : List (Text × Import)
  declarations : List Declaration
  comments : Comments

/-- Why a source makes no package. -/
inductive SourceError
  | nullCharacter
  | syntaxAt (path : Text) (row : Nat)
  | lexical (e : LexError)
  deriving DecidableEq

namespace Package

/-! ### Loading -/

/-- The imports of `import` statements. -/
def importOf (a : Alias) : Import :=
  match a.asName with
  | some n => ⟨n, a.name, none⟩
  | none =>
    let top := a.name.takeWhile (· != '.')
    ⟨top, top, none⟩

/-- The imports of symbols from the module at `path`; what is imported as a whole binds no name. -/
def symbolOf? (path : Text) (a : Alias) : Option Import :=
  if a.name = ['*'] then none else some ⟨a.asName.getD a.name, path, some a.name⟩

/-- **Progress** through the statements of a module: the imports, the declarations, and the values
that may yet be joined by more, the last first. -/
structure Progress where
  imports : List (Text × Import)
  declarations : List Declaration
  group : List Stmt

/-- The declaration of a group of values, documented by the comments above it. -/
def groupDeclaration (cs : Comments) (group : List Stmt) : Declaration :=
  let row := match group with
    | s :: _ => s.firstRow
    | [] => 0
  .values group (Text.joinLines ((cs.leading row).map Comments.textOf))

/-- Ends the group of values. -/
def Progress.close (cs : Comments) (p : Progress) : Progress :=
  if p.group.isEmpty then p
  else { p with declarations := groupDeclaration cs p.group.reverse :: p.declarations, group := [] }

/-- Adds a declaration after the group. -/
def Progress.declare (cs : Comments) (name : Text) (d : Declaration) (p : Progress) : Progress :=
  let p := p.close cs
  if isPublic name then { p with declarations := d :: p.declarations } else p

/-- Adds some imports after the group. -/
def Progress.bind (cs : Comments) (is : List Import) (p : Progress) : Progress :=
  let p := p.close cs
  { p with imports := is.foldl (fun m i => setField i.name i m) p.imports }

/-- A statement follows another at once, but for comments between. -/
def follows (cs : Comments) (s before : Stmt) : Bool :=
  (s.row : Int) - (cs.leading s.row).length = before.endRow + 1

/-- Adds a statement that binds values. -/
def Progress.addValue (cs : Comments) (s : Stmt) (p : Progress) : Progress :=
  if s.boundNames.all fun n => !isPublic n.name then p.close cs
  else
    let p := match p.group with
      | before :: _ => if follows cs s before then p else p.close cs
      | [] => p
    { p with group := s :: p.group }

/-- Progress by one statement. A string after a lone value documents it. -/
def Progress.step (cs : Comments) (p : Progress) (s : Stmt) : Progress :=
  match s with
  | .importNames _ names => p.bind cs (names.map importOf)
  | .importFrom _ path names level =>
    p.bind cs (names.filterMap (symbolOf? (List.replicate level '.' ++ path.getD [])))
  | .function _ _ name _ _ _ _ => p.declare cs name (.function s none)
  | .classDef _ name _ _ _ _ => p.declare cs name (.type s)
  | s =>
    if s.isValue then p.addValue cs s
    else match s.string?, p.group with
      | some t, [v] =>
        { p with declarations := .values [v] (Prose.cleanDoc t) :: p.declarations, group := [] }
      | _, _ => p.close cs

/-- The package of the statements of a module. -/
def ofStmts (path : Text) (cs : Comments) (ss : List Stmt) : Package :=
  let p := (ss.foldl (Progress.step cs) ⟨[], [], []⟩).close cs
  ⟨path, docOf ss, p.imports, p.declarations.reverse, cs⟩

/-- **The package of a source text**. -/
def ofSource (path source : Text) : Except SourceError Package :=
  match parseModule source with
  | .error .nullCharacter => .error .nullCharacter
  | .error (.fault f) => .error (.syntaxAt path f.row)
  | .ok ss =>
    match Comments.ofText source with
    | .error e => .error (.lexical e)
    | .ok cs => .ok (ofStmts path cs ss)

/-! ### Names -/

/-- The names of the declarations. -/
def topNames (p : Package) : List Text := p.declarations.flatMap Declaration.names

/-- **What a name of the module stands for**. -/
def lookup (p : Package) (name : Text) : Option Binding :=
  if p.topNames.contains name then some (.declared name)
  else (p.imports.lookup name).map .imported

/-- The imported modules: their names and their paths. -/
def namespaces (p : Package) : List (Text × Text) :=
  p.imports.filterMap fun (_, i) => if i.symbol.isNone then some (i.name, i.path) else none

/-- The imported symbols: their names, with the path of the module and the name there. -/
def symbols (p : Package) : List (Text × Text × Text) :=
  p.imports.filterMap fun (_, i) => i.symbol.map fun s => (i.name, i.path, s)

/-- Every declaration, methods after their class. -/
def allDeclarations (p : Package) : List Declaration :=
  p.declarations.flatMap fun d => d :: d.methods

/-- **The anchors that a page of the package defines**. -/
def anchorTargets (p : Package) : List Text :=
  p.topNames ++ p.declarations.flatMap fun d => d.members.map (·.2) ++ d.methods.map (·.name)

/-- The source form of a package. -/
def literal (p : Package) : Text :=
  Text.of "Package(" ++ Text.quote (Text.codes p.path) ++ Text.of ", declarations=" ++
    Text.ofNat p.declarations.length ++ [')']

end Package
end ApiPage
