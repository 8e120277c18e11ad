import ApiPage.Prose.Indent
import ApiPage.Syntax.Tree

/-!
# Names of statements

Which names a statement binds, and which of them are shown. A name is public unless it begins with
an underscore.

## Main definitions

* `isPublic`, `isShownMethod`: whether a name and a method are shown.
* `Expr.boundNames`: the names that a target binds.
* `Stmt.isValue`: the statement binds names of the module to values.
-/

namespace ApiPage

open Syntax

/-- A name that is shown. -/
def isPublic (name : Text) : Bool := name.head? != some '_'

/-- Methods that are shown though their names begin with an underscore. -/
def shownSpecials : List Text := [Text.of "__init__", Text.of "__call__"]

/-- A method that is shown. -/
def isShownMethod (name : Text) : Bool := isPublic name || shownSpecials.contains name

/-- **Bound name** with the row and column where it stands. -/
structure BoundName where
  name : Text
  row : Nat
  col : Nat
  deriving DecidableEq

namespace Syntax

/-- The last name of a class expression, without its index. -/
def Expr.baseName? : Expr → Option Text
  | subscript _ value _ => baseName? value
  | name _ id _ => some id
  | attr _ _ member => some member
  | _ => none

mutual

/-- **The names that a target binds**, from left to right. -/
def Expr.boundNames : Expr → List BoundName
  | .name s id _ => [⟨id, s.row, s.col⟩]
  | .tuple _ es => boundNamesIn es
  | .list _ es => boundNamesIn es
  | .starred _ e => e.boundNames
  | _ => []

/-- The names that some targets bind. -/
def boundNamesIn : List Expr → List BoundName
  | [] => []
  | e :: es => e.boundNames ++ boundNamesIn es

end

/-- A target that only binds names: one, or some in a sequence. -/
def Expr.isNameTarget : Expr → Bool
  | name .. => true
  | tuple s es => !(Expr.boundNames (tuple s es)).isEmpty
  | list s es => !(Expr.boundNames (list s es)).isEmpty
  | _ => false

namespace Stmt

/-- The targets of a statement that binds values. -/
def targets : Stmt → List Expr
  | assign _ ts _ _ => ts
  | annAssign _ t _ _ _ _ => [t]
  | _ => []

/-- The names that a statement binds to values. -/
def boundNames (s : Stmt) : List BoundName := boundNamesIn s.targets

/-- The statement binds names of the module to values. -/
def isValue (s : Stmt) : Bool := !s.targets.isEmpty && s.targets.all Expr.isNameTarget

/-- The name of a definition. -/
def definedName : Stmt → Text
  | function _ _ name _ _ _ _ => name
  | classDef _ name _ _ _ _ => name
  | _ => []

/-- The statements of a definition. -/
def body : Stmt → List Stmt
  | function _ _ _ _ body _ _ => body
  | classDef _ _ _ _ body _ => body
  | _ => []

/-- The bases of a class. -/
def bases : Stmt → List Expr
  | classDef _ _ bases _ _ _ => bases
  | _ => []

/-- The decorators of a definition. -/
def decorators : Stmt → List Expr
  | function _ _ _ _ _ ds _ => ds
  | classDef _ _ _ _ _ ds => ds
  | _ => []

/-- The statement defines a function. -/
def isFunction : Stmt → Bool
  | function .. => true
  | _ => false

/-- A class whose bases are interfaces: one of them is named `Protocol`. -/
def isProtocol (s : Stmt) : Bool := s.bases.any fun b => b.baseName? = some (Text.of "Protocol")

/-- The first row of a statement with its decorators. -/
def firstRow (s : Stmt) : Nat := s.decorators.foldl (fun n d => min n d.row) s.row

/-- The string that a statement consists of. -/
def string? : Stmt → Option Text
  | expr _ (.constant _ (.str codes _)) => some (Text.ofCodes codes)
  | _ => none

end Stmt

/-- **The documentation** of a block: the string it begins with. -/
def docOf : List Stmt → Text
  | s :: _ => match s.string? with
    | some t => Prose.cleanDoc t
    | none => []
  | [] => []

end Syntax
end ApiPage
