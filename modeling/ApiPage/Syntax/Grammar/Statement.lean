import ApiPage.Syntax.Grammar.Argument
import ApiPage.Syntax.Grammar.Pattern
import ApiPage.Syntax.Grammar.Target

/-!
# Statements

Simple statements, blocks and compound statements.

## Conventions

The head of a compound statement with a missing colon or a missing block is a fault of its own. The
word that opens the statement is named in the message, with the row it stands on.
-/

namespace ApiPage.Syntax.Grammar

open ApiPage.Syntax.Parser

variable (self : Rules)

/-! ### Assignments -/

/-- The operator of an assignment that also computes. -/
def augmentOp : Parser BinaryOp := accept fun t => match t.kind with
  | .op .plusEqual => some .add
  | .op .minusEqual => some .sub
  | .op .starEqual => some .mul
  | .op .atEqual => some .matMul
  | .op .slashEqual => some .div
  | .op .percentEqual => some .mod
  | .op .amperEqual => some .bitAnd
  | .op .barEqual => some .bitOr
  | .op .circumflexEqual => some .bitXor
  | .op .leftShiftEqual => some .shiftLeft
  | .op .rightShiftEqual => some .shiftRight
  | .op .doubleStarEqual => some .pow
  | .op .doubleSlashEqual => some .floorDiv
  | _ => none

/-- The type of a target and its value, which may be missing. -/
def hintAndValue : Parser (Expr × Option Expr) := do
  let _ ← op .colon
  let h ← self.expression
  let v ← opt (do let _ ← op .equal; assigned self)
  return (h, v)

/-- Targets that are followed by an equals sign. -/
def equalTarget : Parser Expr := do
  let e ← starTargets self
  let _ ← op .equal
  return e

/-- The faults of an assignment. -/
def faultyAssignment {α : Type} : Parser α := faulty <|
  (do
    let t ← peek
    let _ ← self .hintTarget
    let _ ← op .colon
    let _ ← self.expression
    abortAt t.row (Text.of "only single target can be annotated")) <|>
  (do
    let e ← starNamed self
    let _ ← op .comma
    let _ ← many (starNamedList self)
    let _ ← op .colon
    let _ ← self.expression
    abortAt e.row (Text.of "only single target (not tuple) can be annotated")) <|>
  (do
    let e ← self.expression
    let _ ← op .colon
    let _ ← self.expression
    abortAt e.row (Text.of "illegal target for annotation")) <|>
  commit
    (do
      let _ ← many (equalTarget self)
      let e ← starExpressions self
      let _ ← op .equal
      return e)
    (fun e => checkTarget .assign e)
    ((do
      let _ ← many (equalTarget self)
      let e ← yieldExpression self
      let _ ← op .equal
      abortAt e.row (Text.of "assignment to yield expression not possible")) <|>
    (do
      let e ← starExpressions self
      let _ ← augmentOp
      let _ ← assigned self
      abortAt e.row (Text.of "illegal expression for augmented assignment")))

/-- An assignment, annotated, plain or augmented. -/
def assignment : Parser Stmt :=
  (spanned do
    let n ← nameExpr .store
    let (h, v) ← hintAndValue self
    return fun s => .annAssign s n h v true []) <|>
  (spanned do
    let t ← (do
      let _ ← op .lpar
      let e ← self .singleTarget
      let _ ← op .rpar
      return e) <|> partTarget self
    let (h, v) ← hintAndValue self
    return fun s => .annAssign s t h v false []) <|>
  (spanned do
    let ts ← many1 (equalTarget self)
    let v ← assigned self
    notAhead (op .equal)
    return fun s => .assign s ts v []) <|>
  (do
    let start ← peek
    commit
      (do
        let t ← self .singleTarget
        return (t, ← augmentOp))
      (fun (t, o) => do
        let v ← assigned self
        return .augAssign (← spanFrom start) t o v)
      (faultyAssignment self))

/-! ### Imports -/

/-- Names joined by points. -/
def dottedName : Parser Text := do
  let ns ← sepBy1 nameToken (op .dot)
  return Text.join ['.'] (ns.map Token.nameText)

/-- The name that `p` reads, and the name it is given. -/
def aliasOf (p : Parser Text) : Parser Alias := do
  let n ← p
  let a ← opt (do let _ ← word .as; nameToken)
  return ⟨n, a.map Token.nameText⟩

/-- The names of an import from a module. -/
def importedNames : Parser (List Alias) :=
  let names := sepBy1 (aliasOf (do return (← nameToken).nameText)) (op .comma)
  (do
    let _ ← op .lpar
    let ns ← names
    optComma
    let _ ← op .rpar
    return ns) <|>
  (do
    let ns ← names
    notAhead (op .comma)
    return ns) <|>
  (do let _ ← op .star; return [⟨['*'], none⟩]) <|>
  faulty do
    let _ ← names
    let _ ← op .comma
    let _ ← kind .newline
    abortHere (Text.of "trailing comma not allowed without surrounding parentheses")

/-- Points before the path of an import, counted. -/
def importLevel : Parser Nat :=
  (do let _ ← op .dot; return 1) <|> (do let _ ← op .ellipsis; return 3)

/-- An import of modules, or of symbols of one. -/
def importStatement : Parser Stmt :=
  (spanned do
    let _ ← word .import
    let ns ← sepBy1 (aliasOf dottedName) (op .comma)
    return fun s => .importNames s ns) <|>
  (spanned do
    let _ ← word .from
    let levels ← many importLevel
    let path ← dottedName
    let _ ← word .import
    let ns ← importedNames
    return fun s => .importFrom s (some path) ns (levels.foldr (· + ·) 0)) <|>
  (spanned do
    let _ ← word .from
    let levels ← many1 importLevel
    let _ ← word .import
    let ns ← importedNames
    return fun s => .importFrom s none ns (levels.foldr (· + ·) 0))

/-! ### Simple statements -/

/-- A raised error with its cause. -/
def raiseStatement : Parser Stmt :=
  (spanned do
    let _ ← word .raise
    let e ← self.expression
    let c ← opt (do let _ ← word .from; self.expression)
    return fun s => .raise s (some e) c) <|>
  (spanned do
    let _ ← word .raise
    return fun s => .raise s none none)

/-- A deletion of targets. -/
def deleteStatement : Parser Stmt :=
  (spanned do
    let _ ← word .del
    let es ← sepBy1 (self .deleteTarget) (op .comma)
    optComma
    ahead (op .semi <|> kind .newline)
    return fun s => .delete s es) <|>
  faulty do
    let _ ← word .del
    checkTarget .delete (← starExpressions self)

/-- A statement of one word. -/
def wordStatement (w : Word) (f : Span → Stmt) : Parser Stmt := spanned do
  let _ ← word w
  return f

/-- A statement that lists names. -/
def namesStatement (w : Word) (f : Span → List Text → Stmt) : Parser Stmt := spanned do
  let _ ← word w
  let ns ← sepBy1 nameToken (op .comma)
  return fun s => f s (ns.map Token.nameText)

/-- A statement without a block. -/
def simpleStatement : Parser Stmt :=
  assignment self <|>
  (spanned do
    let e ← starExpressions self
    return fun s => .expr s e) <|>
  (spanned do
    let _ ← word .return
    let e ← opt (starExpressions self)
    return fun s => .ret s e) <|>
  importStatement <|>
  raiseStatement self <|>
  wordStatement .pass .pass <|>
  deleteStatement self <|>
  (spanned do
    let e ← yieldExpression self
    return fun s => .expr s e) <|>
  (spanned do
    let _ ← word .assert
    let e ← self.expression
    let m ← opt (do let _ ← op .comma; self.expression)
    return fun s => .assert s e m) <|>
  wordStatement .break .breakLoop <|>
  wordStatement .continue .continueLoop <|>
  namesStatement .global .globals <|>
  namesStatement .nonlocal .nonlocals

/-- The simple statements of a line. -/
def simpleStatements : Parser (List Stmt) :=
  (do
    let s ← self .simpleStatement
    notAhead (op .semi)
    let _ ← kind .newline
    return [s]) <|>
  (do
    let ss ← sepBy1 (self .simpleStatement) (op .semi)
    let _ ← opt (op .semi)
    let _ ← kind .newline
    return ss)

/-! ### Heads of compound statements -/

/-- The end of a head whose block is missing. -/
def blockMissing {α : Type} (what : String) (row : Nat) : Parser α := do
  let _ ← op .colon
  let _ ← kind .newline
  notAhead (kind .indent)
  abortHere (Text.of "expected an indented block after " ++ Text.of what ++ Text.of " on line " ++
    Text.ofNat row)

/-- The end of a head whose colon is missing. -/
def colonMissing {α : Type} : Parser α := do
  let _ ← kind .newline
  abortHere (Text.of "expected ':'")

/-- The faults of a head that `p` reads up to its colon. -/
def faultyHead {α β : Type} (what : String) (p : Parser β) : Parser α := faulty <|
  (do let _ ← p; colonMissing) <|>
  (do let t ← peek; let _ ← p; blockMissing what t.row)

/-- The colon of a head, which must come, and the block after it. -/
def forcedBlock : Parser (List Stmt) := do
  let _ ← forced .colon ":"
  self.block

/-- The colon of a head and the block after it. -/
def colonBlock : Parser (List Stmt) := do
  let _ ← op .colon
  self.block

/-! ### Conditions and loops -/

/-- The block behind `else`. -/
def elseBlock : Parser (List Stmt) :=
  faulty (do let t ← word .else; blockMissing "'else' statement" t.row) <|>
  (do let _ ← word .else; forcedBlock self)

/-- The block after `else`, or none. -/
def optElse : Parser (List Stmt) := do return (← opt (elseBlock self)).getD []

/-- A condition that the word `w` opens, with what follows it. -/
def condition (w : Word) (what : String) : Parser Stmt :=
  let head : Parser Expr := do
    let _ ← word w
    namedExpression self
  faultyHead what head <|>
  (spanned do
    let test ← head
    let body ← colonBlock self
    let orElse ← (do return [← self .elifStatement]) <|> optElse self
    return fun s => .cond s test body orElse)

/-- A condition with its blocks. -/
def ifStatement : Parser Stmt := condition self .if "'if' statement"

/-- A further condition. -/
def elifStatement : Parser Stmt := condition self .elif "'elif' statement"

/-- A loop under a condition. -/
def whileStatement : Parser Stmt :=
  let head : Parser Expr := do
    let _ ← word .while
    namedExpression self
  faultyHead "'while' statement" head <|>
  (spanned do
    let test ← head
    let body ← colonBlock self
    let orElse ← optElse self
    return fun s => .whileLoop s test body orElse)

/-- Reads `p` after an optional `async`, with whether that was there. -/
def asyncOr {α : Type} (p : Parser α) : Parser (Bool × α) := do
  let a ← opt (word .async)
  return (a.isSome, ← p)

/-- The row of the word that opens a statement, after an optional `async`. -/
def openingRow (w : Word) : Parser Nat := do
  let (_, t) ← asyncOr (word w)
  return t.row

/-- A loop over the items of a value. -/
def forStatement : Parser Stmt :=
  let rest : Parser Unit := do
    let _ ← starTargets self
    let _ ← word .in
    let _ ← starExpressions self
  faulty
    ((do let _ ← openingRow .for; rest; colonMissing) <|>
    (do let r ← openingRow .for; rest; blockMissing "'for' statement" r)) <|>
  (do
    let start ← peek
    commit
      (asyncOr do
        let _ ← word .for
        let target ← starTargets self
        let _ ← word .in
        return target)
      (fun (isAsync, target) => do
        let iter ← starExpressions self
        let body ← colonBlock self
        let orElse ← optElse self
        return .forLoop (← spanFrom start) isAsync target iter body orElse)
      (faultyForTarget self))

/-! ### Contexts -/

/-- A context manager with the target it is bound to. -/
def withItem : Parser (Expr × Option Expr) :=
  let goesOn := ahead (op .comma <|> op .rpar <|> op .colon)
  (do
    let e ← self.expression
    let _ ← word .as
    let t ← self.starTarget
    goesOn
    return (e, some t)) <|>
  faulty (do
    let _ ← self.expression
    let _ ← word .as
    let e ← self.expression
    goesOn
    checkTarget .assign e) <|>
  (do return (← self.expression, none))

/-- A context manager with the target it is bound to, for its faults only. -/
def looseItem (p : Parser Expr) : Parser Unit := do
  let _ ← p
  let _ ← opt (do let _ ← word .as; self.starTarget)

/-- Context managers without parentheses, for their faults only. -/
def looseItems : Parser Unit := do
  let _ ← sepBy1 (looseItem self self.expression) (op .comma)

/-- Context managers in parentheses, for their faults only. -/
def looseGroup : Parser Unit := do
  let _ ← op .lpar
  let _ ← sepBy1 (looseItem self (expressions self)) (op .comma)
  optComma
  let _ ← op .rpar

/-- A block within contexts. -/
def withStatement : Parser Stmt :=
  let what := "'with' statement"
  let items := sepBy1 (withItem self) (op .comma)
  let block (p : Parser (List (Expr × Option Expr))) : Parser Stmt := spanned do
    let (isAsync, items) ← asyncOr (do let _ ← word .with; p)
    let body ← colonBlock self
    return fun s => .withBlock s isAsync items body
  faulty
    ((do let r ← openingRow .with; looseItems self; blockMissing what r) <|>
    (do let r ← openingRow .with; looseGroup self; blockMissing what r)) <|>
  block (do
    let _ ← op .lpar
    let is ← items
    optComma
    let _ ← op .rpar
    return is) <|>
  block items <|>
  faulty
    ((do let _ ← openingRow .with; looseItems self; colonMissing) <|>
    (do let _ ← openingRow .with; looseGroup self; colonMissing))

/-! ### Handlers -/

/-- The name that a caught error is given. -/
def errorName : Parser (Option Text) := do
  let n ← opt (do let _ ← word .as; nameToken)
  return n.map Token.nameText

/-- The faults of the head of a handler. -/
def faultyHandlerHead {α : Type} : Parser α := faulty <|
  (do
    let _ ← word .except
    let _ ← opt (op .star)
    let e ← self.expression
    let _ ← op .comma
    let _ ← expressions self
    let _ ← errorName
    let _ ← op .colon
    abortAt e.row (Text.of "multiple exception types must be parenthesized")) <|>
  (do
    let _ ← word .except
    let _ ← opt (op .star)
    let _ ← self.expression
    let _ ← errorName
    colonMissing) <|>
  (do
    let _ ← word .except
    colonMissing) <|>
  (do
    let _ ← word .except
    let _ ← op .star
    let _ ← kind .newline <|> op .colon
    abortHere (Text.of "expected one or more exception types"))

/-- A handler of errors. -/
def handler : Parser Handler :=
  let what := "'except' statement"
  faulty
    ((do
      let t ← word .except
      let _ ← self.expression
      let _ ← errorName
      blockMissing what t.row) <|>
    (do
      let t ← word .except
      blockMissing what t.row)) <|>
  (do
    let _ ← word .except
    let e ← self.expression
    let n ← errorName
    return .mk (some e) n (← colonBlock self)) <|>
  (do
    let _ ← word .except
    return .mk none none (← colonBlock self)) <|>
  faultyHandlerHead self

/-- A handler of grouped errors. -/
def groupHandler : Parser Handler :=
  faulty (do
    let t ← word .except
    let _ ← op .star
    let _ ← self.expression
    let _ ← errorName
    blockMissing "'except*' statement" t.row) <|>
  (do
    let _ ← word .except
    let _ ← op .star
    let e ← self.expression
    let n ← errorName
    return .mk (some e) n (← colonBlock self)) <|>
  faultyHandlerHead self

/-- The block behind `finally`. -/
def finallyBlock : Parser (List Stmt) :=
  faulty (do let t ← word .finally; blockMissing "'finally' statement" t.row) <|>
  (do let _ ← word .finally; forcedBlock self)

/-- The faults of a try statement. -/
def faultyTry {α : Type} : Parser α := faulty <|
  (do let t ← word .try; blockMissing "'try' statement" t.row) <|>
  (do
    let _ ← word .try
    let _ ← colonBlock self
    notAhead (word .except <|> word .finally)
    abortHere (Text.of "expected 'except' or 'finally' block")) <|>
  (do
    let _ ← word .try
    let _ ← op .colon
    let _ ← many self.block
    (do
      let _ ← many1 (handler self)
      let _ ← groupHandler self) <|> do
      let _ ← many1 (groupHandler self)
      let _ ← handler self
    let _ ← many self.block
    abortHere (Text.of "cannot have both 'except' and 'except*' on the same 'try'"))

/-- A block with handlers of its errors. -/
def tryStatement : Parser Stmt :=
  let handled (isGroup : Bool) (p : Parser Handler) : Parser Stmt := spanned do
    let _ ← word .try
    let body ← forcedBlock self
    let hs ← many1 p
    let orElse ← optElse self
    let final ← opt (finallyBlock self)
    return fun s => .tryBlock s isGroup body hs orElse (final.getD [])
  faultyTry self <|>
  (spanned do
    let _ ← word .try
    let body ← forcedBlock self
    let final ← finallyBlock self
    return fun s => .tryBlock s false body [] [] final) <|>
  handled false (handler self) <|>
  handled true (groupHandler self)

/-! ### Matches -/

/-- What a match statement matches. -/
def matchSubject : Parser Expr :=
  (spanned do
    let e ← starNamed self
    let _ ← op .comma
    let es ← opt (starNamedList self)
    return fun s => .tuple s (e :: es.getD [])) <|>
  namedExpression self

/-- The condition of a case. -/
def guard : Parser Expr := do
  let _ ← word .if
  namedExpression self

/-- A case of a match statement. -/
def caseBlock : Parser Case :=
  let head : Parser (Pattern × Option Expr) := do
    let _ ← softWord "case"
    let p ← patterns self
    return (p, ← opt (guard self))
  faultyHead "'case' statement" head <|>
  (do
    let (p, g) ← head
    return .mk p g (← colonBlock self))

/-- A match statement with its cases. -/
def matchStatement : Parser Stmt :=
  let head : Parser Expr := do
    let _ ← softWord "match"
    matchSubject self
  (spanned do
    let e ← head
    let _ ← op .colon
    let _ ← kind .newline
    let _ ← kind .indent
    let cs ← many1 (caseBlock self)
    let _ ← kind .dedent
    return fun s => .matchOn s e cs) <|>
  faultyHead "'match' statement" head

/-! ### Definitions -/

/-- The decorators of a definition. -/
def decorators : Parser (List Expr) := many1 do
  let _ ← op .at
  let e ← namedExpression self
  let _ ← kind .newline
  return e

/-- A function without its decorators. -/
def function (decorators : List Expr) : Parser Stmt :=
  let result : Parser (Option Expr) := opt (do let _ ← op .arrow; self.expression)
  faulty (do
    let r ← openingRow .defWord
    let _ ← nameToken
    let _ ← op .lpar
    let _ ← opt (params self .function)
    let _ ← op .rpar
    let _ ← result
    blockMissing "function definition" r) <|>
  (spanned do
    let (isAsync, n) ← asyncOr (do let _ ← word .defWord; nameToken)
    let _ ← forced .lpar "("
    let ps ← optParams self .function
    let _ ← op .rpar
    let r ← result
    let body ← forcedBlock self
    return fun s => .function s isAsync n.nameText ps body decorators r)

/-- A class without its decorators. -/
def classDef (decorators : List Expr) : Parser Stmt :=
  let head : Parser (Token × List Expr × List Keyword) := do
    let _ ← word .classWord
    let n ← nameToken
    let as ← opt (callArguments self)
    return (n, as.getD ([], []))
  faultyHead "class definition" head <|>
  (spanned do
    let (n, bases, keywords) ← head
    let body ← colonBlock self
    return fun s => .classDef s n.nameText bases keywords body decorators)

/-- A definition with its decorators, of which there may be none. -/
def decorated (p : List Expr → Parser Stmt) : Parser Stmt :=
  (do p (← decorators self)) <|> p []

/-! ### Statements -/

/-- A statement with a block. -/
def compoundStatement : Parser Stmt := do
  let t ← peek
  let is (ks : List TokenKind) (p : Parser Stmt) : Parser Stmt :=
    if t.kind ∈ ks then p else failure
  is [.word .defWord, .op .at, .word .async] (decorated self (function self)) <|>
  is [.word .if] (ifStatement self) <|>
  is [.word .classWord, .op .at] (decorated self (classDef self)) <|>
  is [.word .with, .word .async] (withStatement self) <|>
  is [.word .for, .word .async] (forStatement self) <|>
  is [.word .try] (tryStatement self) <|>
  is [.word .while] (whileStatement self) <|>
  matchStatement self

/-- One or more statements. -/
def statements : Parser (List Stmt) := do
  let ss ← many1 ((do return [← compoundStatement self]) <|> simpleStatements self)
  return ss.flatten

/-- An indented block, or statements on the line of the head. -/
def block : Parser (List Stmt) :=
  (do
    let _ ← kind .newline
    let _ ← kind .indent
    let ss ← statements self
    let _ ← kind .dedent
    return ss) <|>
  simpleStatements self <|>
  faulty do
    let _ ← kind .newline
    notAhead (kind .indent)
    abortHere (Text.of "expected an indented block")

/-- A whole module. -/
def moduleBody : Parser (List Stmt) := do
  let ss ← opt (statements self)
  let _ ← kind .endMark
  return ss.getD []

end ApiPage.Syntax.Grammar
