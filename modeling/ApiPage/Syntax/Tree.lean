import ApiPage.Decimal.Binary64
import ApiPage.Text.Basic

/-!
# Syntax trees

The trees of module source: expressions, patterns and statements. Every expression and statement
carries the span of the source it was read from.

## Conventions

Rows count from one. Columns count the bytes of UTF-8 from the start of the row. A name is held in
its compatible composed form. A string is the list of the code points that its literal denotes, so
that it may hold surrogates.
-/

namespace ApiPage.Syntax

open Decimal (Binary64)

/-- **Span** of source: first row and column, last row, and the column after the last character. -/
structure Span where
  row : Nat
  col : Nat
  endRow : Nat
  endCol : Nat
  deriving DecidableEq, Inhabited

/-- How a name is used: its value is read, it is bound, or it is deleted. -/
inductive Usage
  | load | store | delete
  deriving DecidableEq, Inhabited

/-- Operators that join conditions. -/
inductive BoolOp
  | and | or
  deriving DecidableEq, Inhabited

/-- Operators of one operand. -/
inductive UnaryOp
  | invert | not | plus | minus
  deriving DecidableEq, Inhabited

/-- Operators of two operands. -/
inductive BinaryOp
  | add | sub | mul | matMul | div | mod | pow | shiftLeft | shiftRight | bitOr | bitXor | bitAnd
  | floorDiv
  deriving DecidableEq, Inhabited

/-- Operators of comparison. -/
inductive CompareOp
  | eq | notEq | lt | le | gt | ge | same | notSame | member | notMember
  deriving DecidableEq, Inhabited

/-- **Constant**. `marked` says that the first literal of a string began with a lower-case `u`. -/
inductive Constant
  | none
  | bool (b : Bool)
  | ellipsis
  | int (n : Nat)
  | real (x : Binary64)
  | imaginary (x : Binary64)
  | str (codes : List Nat) (marked : Bool)
  | bytes (codes : List Nat)
  deriving DecidableEq, Inhabited

mutual

/-- **Expression**. -/
inductive Expr
  | boolOp (span : Span) (op : BoolOp) (values : List Expr)
  | named (span : Span) (target value : Expr)
  | binary (span : Span) (left : Expr) (op : BinaryOp) (right : Expr)
  | unary (span : Span) (op : UnaryOp) (operand : Expr)
  | lambda (span : Span) (params : Params) (body : Expr)
  | conditional (span : Span) (test body orElse : Expr)
  | dict (span : Span) (items : List (Option Expr × Expr))
  | set (span : Span) (items : List Expr)
  | listComp (span : Span) (item : Expr) (clauses : List Clause)
  | setComp (span : Span) (item : Expr) (clauses : List Clause)
  | dictComp (span : Span) (key value : Expr) (clauses : List Clause)
  | generator (span : Span) (item : Expr) (clauses : List Clause)
  | await (span : Span) (value : Expr)
  | yield (span : Span) (value : Option Expr)
  | yieldFrom (span : Span) (value : Expr)
  | compare (span : Span) (left : Expr) (rest : List (CompareOp × Expr))
  | call (span : Span) (func : Expr) (args : List Expr) (keywords : List Keyword)
  | joined (span : Span) (parts : List Part)
  | constant (span : Span) (value : Constant)
  | attr (span : Span) (value : Expr) (member : Text)
  | subscript (span : Span) (value index : Expr)
  | starred (span : Span) (value : Expr)
  | name (span : Span) (id : Text) (usage : Usage)
  | list (span : Span) (items : List Expr)
  | tuple (span : Span) (items : List Expr)
  | slice (span : Span) (lower upper step : Option Expr)

/-- **Clause** of a comprehension: target, iterable and conditions. -/
inductive Clause
  | mk (isAsync : Bool) (target iter : Expr) (conditions : List Expr)

/-- **Keyword argument**; one without a name is a mapping that is unpacked. -/
inductive Keyword
  | mk (span : Span) (name : Option Text) (value : Expr)

/-- **Part** of a formatted string: text, or a field with its conversion and its format. -/
inductive Part
  | text (codes : List Nat)
  | field (value : Expr) (conversion : Option Char) (format : Option (List Part))

/-- **Parameter** with its type and its default. -/
inductive Param
  | mk (span : Span) (name : Text) (hint : Option Expr) (default : Option Expr)

/-- **Parameters**: by position only, by position or name, the rest by position, by name only, the
rest by name. -/
inductive Params
  | mk (positionalOnly positional : List Param) (rest : Option Param) (keywordOnly : List Param)
    (restKeywords : Option Param)

end

/-- The constant without a value stands for no expression in particular. -/
instance : Inhabited Expr := ⟨.constant default .none⟩
/-- No parameters. -/
instance : Inhabited Params := ⟨.mk [] [] none [] none⟩

/-- The span of an expression. -/
def Expr.span : Expr → Span
  | boolOp s .. | named s .. | binary s .. | unary s .. | lambda s .. | conditional s .. | dict s ..
  | set s .. | listComp s .. | setComp s .. | dictComp s .. | generator s .. | await s ..
  | yield s ..
  | yieldFrom s .. | compare s .. | call s .. | joined s .. | constant s .. | attr s ..
  | subscript s .. | starred s .. | name s .. | list s .. | tuple s .. | slice s .. => s

/-- The row an expression starts on. -/
def Expr.row (e : Expr) : Nat := e.span.row

/-- The name of a parameter. -/
def Param.id : Param → Text
  | mk _ name _ _ => name

/-- The default of a parameter. -/
def Param.default? : Param → Option Expr
  | mk _ _ _ d => d

/-- **Pattern** of a match statement. -/
inductive Pattern
  | value (value : Expr)
  | singleton (value : Constant)
  | sequence (items : List Pattern)
  | mapping (keys : List Expr) (items : List Pattern) (rest : Option Text)
  | ofClass (cls : Expr) (items : List Pattern) (keywords : List (Text × Pattern))
  | star (name : Option Text)
  | capture (pattern : Option Pattern) (name : Option Text)
  | either (items : List Pattern)
  deriving Inhabited

/-- A name bound by an import: what is imported, and the name it is given. -/
structure Alias where
  name : Text
  asName : Option Text
  deriving DecidableEq, Inhabited

/-- **Elision**: what was left out of a statement, with the size it had. -/
inductive Elision
  | bytes (size : Nat)
  | elements (count : Nat)
  deriving DecidableEq, Inhabited

mutual

/-- **Statement**. An assignment carries what was elided from it, oldest first. -/
inductive Stmt
  | function (span : Span) (isAsync : Bool) (name : Text) (params : Params) (body : List Stmt)
    (decorators : List Expr) (returns : Option Expr)
  | classDef (span : Span) (name : Text) (bases : List Expr) (keywords : List Keyword)
    (body : List Stmt) (decorators : List Expr)
  | ret (span : Span) (value : Option Expr)
  | delete (span : Span) (targets : List Expr)
  | assign (span : Span) (targets : List Expr) (value : Expr) (elided : List Elision)
  | augAssign (span : Span) (target : Expr) (op : BinaryOp) (value : Expr)
  | annAssign (span : Span) (target hint : Expr) (value : Option Expr) (simple : Bool)
    (elided : List Elision)
  | forLoop (span : Span) (isAsync : Bool) (target iter : Expr) (body orElse : List Stmt)
  | whileLoop (span : Span) (test : Expr) (body orElse : List Stmt)
  | cond (span : Span) (test : Expr) (body orElse : List Stmt)
  | withBlock (span : Span) (isAsync : Bool) (items : List (Expr × Option Expr)) (body : List Stmt)
  | matchOn (span : Span) (subject : Expr) (cases : List Case)
  | raise (span : Span) (error cause : Option Expr)
  | tryBlock (span : Span) (isGroup : Bool) (body : List Stmt) (handlers : List Handler)
    (orElse finalBody : List Stmt)
  | assert (span : Span) (test : Expr) (message : Option Expr)
  | importNames (span : Span) (names : List Alias)
  | importFrom (span : Span) (path : Option Text) (names : List Alias) (level : Nat)
  | globals (span : Span) (names : List Text)
  | nonlocals (span : Span) (names : List Text)
  | expr (span : Span) (value : Expr)
  | pass (span : Span)
  | breakLoop (span : Span)
  | continueLoop (span : Span)

/-- **Handler** of an exception: its type, the name it binds, and its body. -/
inductive Handler
  | mk (type : Option Expr) (name : Option Text) (body : List Stmt)

/-- **Case** of a match statement. -/
inductive Case
  | mk (pattern : Pattern) (guard : Option Expr) (body : List Stmt)

end

/-- The statement that does nothing. -/
instance : Inhabited Stmt := ⟨.pass default⟩

/-- The span of a statement. Decorators lie outside it. -/
def Stmt.span : Stmt → Span
  | function s .. | classDef s .. | ret s .. | delete s .. | assign s .. | augAssign s ..
  | annAssign s .. | forLoop s .. | whileLoop s .. | cond s .. | withBlock s .. | matchOn s ..
  | raise s ..
  | tryBlock s .. | assert s .. | importNames s .. | importFrom s .. | globals s .. | nonlocals s ..
  | expr s .. | pass s | breakLoop s | continueLoop s => s

/-- The row a statement starts on. -/
def Stmt.row (s : Stmt) : Nat := s.span.row

/-- The row a statement ends on. -/
def Stmt.endRow (s : Stmt) : Nat := s.span.endRow

end ApiPage.Syntax
