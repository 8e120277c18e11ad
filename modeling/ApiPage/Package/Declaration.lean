import ApiPage.Package.Names

/-!
# Declarations

What a page documents: groups of values, classes with their methods, and functions.

## Main definitions

* `Declaration`: one documented construct.
* `Declaration.name`: the name it is shown under.
* `Declaration.members`: the members of a class with their anchors.
-/

namespace ApiPage

open Syntax

/-- **Declaration**: values that were assigned in adjacent lines, with their documentation; a class;
or a function, of the class `receiver` if it is a method. -/
inductive Declaration
  | values (group : List Stmt) (doc : Text)
  | type (cls : Stmt)
  | function (fn : Stmt) (receiver : Option Text)

namespace Declaration

/-- The statements of a declaration. -/
def stmts : Declaration → List Stmt
  | values group _ => group
  | type cls => [cls]
  | function fn _ => [fn]

/-- The names that a declaration binds. -/
def names : Declaration → List Text
  | values group _ => group.flatMap fun s => s.boundNames.map (·.name)
  | type cls => [cls.definedName]
  | function fn _ => [fn.definedName]

/-- The class that a method belongs to. -/
def receiver : Declaration → Option Text
  | function _ r => r
  | _ => none

/-- **The name a declaration is shown under**: that of a method follows its class and a point. -/
def name (d : Declaration) : Text :=
  let first := d.names.headD []
  match d.receiver with
  | some r => if r.isEmpty then first else r ++ '.' :: first
  | none => first

/-- The documentation of a declaration. -/
def doc : Declaration → Text
  | values _ doc => doc
  | type cls => docOf cls.body
  | function fn _ => docOf fn.body

/-- The methods of a class that are declarations of their own. Those of a protocol belong to it. -/
def methods : Declaration → List Declaration
  | type cls =>
    if cls.isProtocol then []
    else (cls.body.filter fun s => s.isFunction && isShownMethod s.definedName).map fun s =>
      function s (some cls.definedName)
  | _ => []

/-- The anchor of the member `m` of the class `c`. -/
def memberId (c m : Text) : Text := c ++ '.' :: m

/-- The names of the members of a class: what it embeds, its fields and its methods. -/
def memberNames (cls : Stmt) : List Text :=
  let embedded :=
    if cls.isProtocol then [] else (cls.bases.filterMap Expr.baseName?).filter (· ≠ [])
  embedded ++ cls.body.flatMap fun s =>
    if s.isFunction then if isShownMethod s.definedName then [s.definedName] else []
    else (s.boundNames.map (·.name)).filter isPublic

/-- **The members of a class** with their anchors. -/
def members : Declaration → List (Text × Text)
  | type cls => (memberNames cls).eraseDups.map fun m => (m, memberId cls.definedName m)
  | _ => []

end Declaration
end ApiPage
