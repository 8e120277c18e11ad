import ApiPage.Syntax.Grammar.Literal
import ApiPage.Syntax.Grammar.Parameter

/-!
# Expressions

Expressions from the conditional down to the atom, with displays, comprehensions and slices.

## Conventions

A rule that fails is tried in its next form at the same place. The fault rules of a construct stand
beside it and come where the grammar would look for them: before the construct if they begin as it
does, after it otherwise.
-/

namespace ApiPage.Syntax.Grammar

open ApiPage.Syntax.Parser

variable (self : Rules)

/-- Optional comma. -/
def optComma : Parser Unit := do let _ ← opt (op .comma)

/-! ### Operators -/

/-- Operands of `p` joined to the left by operators. -/
def leftJoined (p : Parser Expr) (ops : List (Op × BinaryOp)) : Parser Expr := do
  let start ← peek
  let first ← p
  grow (fun left => do
    let o ← accept fun t => match t.kind with
      | .op o => ops.lookup o
      | _ => none
    let right ← p
    return .binary (← spanFrom start) left o right) first

/-- Operands of `p` that a word joins into one operation. -/
def wordJoined (p : Parser Expr) (w : Word) (o : BoolOp) : Parser Expr := spanned do
  let first ← p
  let rest ← many (do let _ ← word w; p)
  return fun s => if rest.isEmpty then first else .boolOp s o (first :: rest)

/-- A comparison operator. -/
def compareOp : Parser CompareOp :=
  accept (fun t => match t.kind with
    | .op .eqEqual => some .eq
    | .op .notEqual => some .notEq
    | .op .lessEqual => some .le
    | .op .less => some .lt
    | .op .greaterEqual => some .ge
    | .op .greater => some .gt
    | .word .in => some .member
    | _ => none) <|>
  (do let _ ← word .not; let _ ← word .in; return .notMember)

/-- A comparison operator and its right operand. -/
def comparePair : Parser (CompareOp × Expr) :=
  (do let o ← compareOp; return (o, ← self.bitOr)) <|>
  (do let _ ← word .is; let _ ← word .not; return (.notSame, ← self.bitOr)) <|>
  (do let _ ← word .is; return (.same, ← self.bitOr))

/-- A chain of comparisons. -/
def comparison : Parser Expr := spanned do
  let left ← self.bitOr
  let rest ← many (comparePair self)
  return fun s => if rest.isEmpty then left else .compare s left rest

/-- A comparison, or its negation. -/
def inversion : Parser Expr :=
  (spanned do
    let _ ← word .not
    let e ← self .inversion
    return fun s => .unary s .not e) <|>
  comparison self

/-- Operands joined by `and`. -/
def conjunction : Parser Expr := wordJoined (self .inversion) .and .and

/-- Operands joined by `or`. -/
def disjunction : Parser Expr := wordJoined (self .conjunction) .or .or

/-- Operands joined by bars. -/
def bitOr : Parser Expr := leftJoined (self .bitXor) [(.bar, .bitOr)]

/-- Operands joined by circumflexes. -/
def bitXor : Parser Expr := leftJoined (self .bitAnd) [(.circumflex, .bitXor)]

/-- Operands joined by ampersands. -/
def bitAnd : Parser Expr := leftJoined (self .shift) [(.amper, .bitAnd)]

/-- An operand shifted left or right. -/
def shift : Parser Expr :=
  leftJoined (self .sum) [(.leftShift, .shiftLeft), (.rightShift, .shiftRight)]

/-- A sum or difference. -/
def sum : Parser Expr := leftJoined (self .term) [(.plus, .add), (.minus, .sub)]

/-- A product, quotient or remainder. -/
def term : Parser Expr :=
  leftJoined self.factor [(.star, .mul), (.slash, .div), (.doubleSlash, .floorDiv),
    (.percent, .mod),
    (.at, .matMul)]

/-- A signed operand, or a power. -/
def factor : Parser Expr :=
  (spanned do
    let o ← accept fun t => match t.kind with
      | .op .plus => some UnaryOp.plus
      | .op .minus => some .minus
      | .op .tilde => some .invert
      | _ => none
    let e ← self.factor
    return fun s => .unary s o e) <|>
  (spanned do
    let base ← self .awaited
    let exponent ← opt (do let _ ← op .doubleStar; self.factor)
    return fun s => match exponent with
      | some e => .binary s base .pow e
      | none => base)

/-- An operand that may be awaited. -/
def awaited : Parser Expr :=
  (spanned do
    let _ ← word .await
    let e ← self .primary
    return fun s => .await s e) <|>
  self .primary

/-! ### Conditionals, yields and starred expressions -/

/-- An expression without its fault rules. -/
def conditional : Parser Expr :=
  (spanned do
    let body ← self.disjunction
    let _ ← word .if
    let test ← self.disjunction
    let _ ← word .else
    let orElse ← self.expression
    return fun s => .conditional s test body orElse) <|>
  self.disjunction <|>
  (spanned do
    let _ ← word .lambda
    let ps ← optParams self .lambda
    let _ ← op .colon
    let e ← self.expression
    return fun s => .lambda s ps e)

/-- The names of statements that took no parentheses once. -/
def isOldStatement : Expr → Bool
  | .name _ id _ => id = Text.of "print" || id = Text.of "exec"
  | _ => false

/-- The brackets that are open after the last token taken before `i`. -/
def depthBefore (i : Input) (tokens : List Token) : Nat :=
  match tokens.drop (tokens.length - i.tokens.length - 1) with
  | t :: _ => t.depth
  | [] => 0

/-- Reads `p` and gives the brackets that are open after it as well. -/
def withDepth {α : Type} (p : Parser α) : Parser (α × Nat) := fun faults i m =>
  match p faults i m with
  | .ok a i' m => .ok (a, depthBefore i' i.tokens) i' m
  | .fail m => .fail m
  | .abort e m => .abort e m

/-- The faults of an expression: two in a row inside brackets, or a condition without `else`. -/
def faultyExpression : Parser Expr :=
  commit
    (do
      notAhead ((do let _ ← nameToken; let _ ← stringToken) <|>
        (do let _ ← softWord "match" <|> softWord "case" <|> softWord "_"))
      let a ← self.disjunction
      let (_, depth) ← withDepth (faultless (conditional self))
      return (a, depth))
    (fun (a, depth) =>
      if isOldStatement a || depth = 0 then failure
      else abortAt a.row (Text.of "invalid syntax. Perhaps you forgot a comma?"))
    (do
      let a ← self.disjunction
      let _ ← word .if
      let _ ← self.disjunction
      notAhead ((do let _ ← word .else) <|> (do let _ ← op .colon))
      abortAt a.row (Text.of "expected 'else' after 'if' expression"))

/-- One or more of `p` with commas between: a tuple, unless there is one and no comma. -/
def tupleOf (p : Parser Expr) : Parser Expr := spanned do
  let first ← p
  let rest ← many (do let _ ← op .comma; p)
  let trailing ← opt (op .comma)
  return fun s => if rest.isEmpty && trailing.isNone then first else .tuple s (first :: rest)

/-- Expressions that stars may mark, as a tuple if there is a comma. -/
def starExpressions : Parser Expr := tupleOf self.starExpression

/-- Expressions, as a tuple if there is a comma. -/
def expressions : Parser Expr := tupleOf self.expression

/-- The fault of a call without parentheses. -/
def faultyCall : Parser Expr := do
  let n ← nameToken
  notAhead (op .lpar)
  let _ ← starExpressions self
  if n.nameText = Text.of "print" || n.nameText = Text.of "exec" then
    abortAt n.row (Text.of "Missing parentheses in call")
  else failure

/-- A conditional, a lambda expression, or operands. -/
def expression : Parser Expr :=
  faulty (faultyExpression self <|> faultyCall self) <|> conditional self

/-- A starred operand whose value is read by `p`. -/
def starred (p : Parser Expr) : Parser Expr := spanned do
  let _ ← op .star
  let e ← p
  return fun s => .starred s e

/-- An expression that a star may mark. -/
def starExpression : Parser Expr := starred self.bitOr <|> self.expression

/-- What a generator yields, or hands on. -/
def yieldExpression : Parser Expr :=
  (spanned do
    let _ ← word .yield
    let _ ← word .from
    let e ← self.expression
    return fun s => .yieldFrom s e) <|>
  (spanned do
    let _ ← word .yield
    let e ← opt (starExpressions self)
    return fun s => .yield s e)

/-- The right side of an assignment. -/
def assigned : Parser Expr := yieldExpression self <|> starExpressions self

/-! ### Named expressions -/

/-- A name with its use. -/
def nameExpr (usage : Usage) : Parser Expr := spanned do
  let n ← nameToken
  return fun s => .name s n.nameText usage

/-- An expression that is not the target of a named one. -/
def unnamed : Parser Expr := do
  let e ← self.expression
  notAhead (op .colonEqual)
  return e

/-- A named expression, or what `q` reads where no name and `:=` come. -/
def assignmentOr (q : Parser Expr) : Parser Expr := do
  let start ← peek
  commit
    (do
      let n ← nameExpr .store
      let _ ← op .colonEqual
      return n)
    (fun n => do
      let e ← self.expression
      return .named (← spanFrom start) n e)
    q

/-- An expression that may get a name. -/
def namedExpression : Parser Expr :=
  assignmentOr self failure <|>
  faulty (do self .namedFault; failure) <|>
  unnamed self

/-- A named expression, or one marked by a star. -/
def starNamed : Parser Expr := starred self.bitOr <|> namedExpression self

/-- Named expressions with commas between. -/
def starNamedList : Parser (List Expr) := do
  let es ← sepBy1 (starNamed self) (op .comma)
  optComma
  return es

/-! ### Comprehensions -/

/-- One or more targets of a loop or an assignment. -/
def starTargets : Parser Expr := tupleOf self.starTarget

/-- **Use of a target**. Names, members, items, and lists and tuples of such may be targets. A
loop's target is read together with the `in` that follows it. -/
inductive TargetUse
  | assign | loop | delete
  deriving DecidableEq

mutual

/-- The first part of `e` that cannot be a target. -/
def badTarget? (use : TargetUse) : Expr → Option Expr
  | .list _ es => badTargetIn? use es
  | .tuple _ es => badTargetIn? use es
  | .starred s e => if use = .delete then some (.starred s e) else badTarget? use e
  | .compare s left rest =>
    if use = .loop then
      match rest with
      | (.member, _) :: _ => badTarget? use left
      | _ => none
    else some (.compare s left rest)
  | .name .. => none
  | .subscript .. => none
  | .attr .. => none
  | e => some e

/-- The first part of some expressions that cannot be a target. -/
def badTargetIn? (use : TargetUse) : List Expr → Option Expr
  | [] => none
  | e :: es =>
    match badTarget? use e with
    | some b => some b
    | none => badTargetIn? use es

end

/-- Aborts if `e` cannot be a target. -/
def checkTarget {α : Type} (use : TargetUse) (e : Expr) : Parser α :=
  match badTarget? use e with
  | some b => abortAt b.row (Text.of (if use = .delete then "cannot delete" else "cannot assign"))
  | none => failure

/-- The fault of a loop's target. -/
def faultyForTarget {α : Type} : Parser α := faulty do
  let _ ← opt (word .async)
  let _ ← word .for
  checkTarget .loop (← starExpressions self)

/-- A clause of a comprehension. -/
def forClause : Parser Clause :=
  commit
    (do
      let a ← opt (word .async)
      let _ ← word .for
      let target ← starTargets self
      let _ ← word .in
      return (a.isSome, target))
    (fun (isAsync, target) => do
      let iter ← self.disjunction
      let tests ← many (do let _ ← word .if; self.disjunction)
      return .mk isAsync target iter tests)
    (faultyForTarget self)

/-- The clauses of a comprehension. -/
def forClauses : Parser (List Clause) := many1 (forClause self)

/-- A starred argument. -/
def starredArgument : Parser Expr := starred self.expression

/-- The faults of a comprehension. `brackets` are those that may open one of several items. -/
def faultyComprehension {α : Type} : Parser α := faulty <|
  (do
    let _ ← op .lsqb <|> op .lpar <|> op .lbrace
    let e ← starredArgument self
    let _ ← forClauses self
    abortAt e.row (Text.of "iterable unpacking cannot be used in comprehension")) <|>
  (do
    let _ ← op .lsqb <|> op .lbrace
    let e ← starNamed self
    let _ ← op .comma
    let _ ← starNamedList self
    let _ ← forClauses self
    abortAt e.row (Text.of "did you forget parentheses around the comprehension target?")) <|>
  (do
    let _ ← op .lsqb <|> op .lbrace
    let e ← starNamed self
    let _ ← op .comma
    let _ ← forClauses self
    abortAt e.row (Text.of "did you forget parentheses around the comprehension target?"))

/-- A comprehension in square brackets. -/
def listComp : Parser Expr :=
  (spanned do
    let _ ← op .lsqb
    let e ← namedExpression self
    let cs ← forClauses self
    let _ ← op .rsqb
    return fun s => .listComp s e cs) <|>
  faultyComprehension self

/-- A comprehension in braces. -/
def setComp : Parser Expr :=
  (spanned do
    let _ ← op .lbrace
    let e ← namedExpression self
    let cs ← forClauses self
    let _ ← op .rbrace
    return fun s => .setComp s e cs) <|>
  faultyComprehension self

/-- A comprehension in parentheses. -/
def generator : Parser Expr :=
  (spanned do
    let _ ← op .lpar
    let e ← assignmentOr self (unnamed self)
    let cs ← forClauses self
    let _ ← op .rpar
    return fun s => .generator s e cs) <|>
  faultyComprehension self

/-! ### Displays -/

/-- Items in square brackets. -/
def list : Parser Expr := spanned do
  let _ ← op .lsqb
  let es ← opt (starNamedList self)
  let _ ← op .rsqb
  return fun s => .list s (es.getD [])

/-- Items in parentheses. -/
def tuple : Parser Expr := spanned do
  let _ ← op .lpar
  let es ← opt do
    let e ← starNamed self
    let _ ← op .comma
    let es ← opt (starNamedList self)
    return e :: es.getD []
  let _ ← op .rpar
  return fun s => .tuple s (es.getD [])

/-- An expression in parentheses. -/
def group : Parser Expr :=
  (do
    let _ ← op .lpar
    let e ← yieldExpression self <|> namedExpression self
    let _ ← op .rpar
    return e) <|>
  faulty (
    (do
      let _ ← op .lpar
      let e ← starredArgument self
      let _ ← op .rpar
      abortAt e.row (Text.of "cannot use starred expression here")) <|>
    (do
      let _ ← op .lpar
      let t ← op .doubleStar
      let _ ← self.expression
      let _ ← op .rpar
      abortAt t.row (Text.of "cannot use double starred expression here")))

/-- Items in braces. -/
def set : Parser Expr := spanned do
  let _ ← op .lbrace
  let es ← starNamedList self
  let _ ← op .rbrace
  return fun s => .set s es

/-- A key and a value. -/
def keyValue : Parser (Expr × Expr) := do
  let k ← self.expression
  let _ ← op .colon
  return (k, ← self.expression)

/-- An item of a mapping; one without a key is unpacked. -/
def dictItem : Parser (Option Expr × Expr) :=
  (do let _ ← op .doubleStar; return (none, ← self.bitOr)) <|>
  (do let (k, v) ← keyValue self; return (some k, v))

/-- A key whose value is a starred expression or is missing. -/
def faultyValue {α : Type} : Parser α :=
  (do
    let _ ← self.expression
    let _ ← op .colon
    let t ← op .star
    let _ ← self.bitOr
    abortAt t.row (Text.of "cannot use a starred expression in a dictionary value")) <|>
  (do
    let _ ← self.expression
    let t ← op .colon
    ahead (op .rbrace <|> op .comma)
    abortAt t.row (Text.of "expression expected after dictionary key and ':'"))

/-- The faults of the items of a mapping. -/
def faultyDictItems {α : Type} : Parser α := faulty <|
  (do
    let _ ← sepBy1 (dictItem self) (op .comma)
    let _ ← op .comma
    (do
      let e ← self.expression
      notAhead (op .colon)
      abortAt e.row (Text.of "':' expected after dictionary key")) <|>
      faultyValue self) <|>
  faultyValue self

/-- Keys with values in braces. -/
def dict : Parser Expr :=
  (spanned do
    let _ ← op .lbrace
    let items ← opt do
      let items ← sepBy1 (dictItem self) (op .comma)
      optComma
      return items
    let _ ← op .rbrace
    return fun s => .dict s (items.getD [])) <|>
  faulty (do let _ ← op .lbrace; faultyDictItems self)

/-- A comprehension of keys with values. -/
def dictComp : Parser Expr :=
  (spanned do
    let _ ← op .lbrace
    let (k, v) ← keyValue self
    let cs ← forClauses self
    let _ ← op .rbrace
    return fun s => .dictComp s k v cs) <|>
  faulty do
    let _ ← op .lbrace
    let t ← op .doubleStar
    let _ ← self.bitOr
    let _ ← forClauses self
    let _ ← op .rbrace
    abortAt t.row (Text.of "dict unpacking cannot be used in dict comprehension")

/-! ### Atoms and primaries -/

/-- A number. -/
def number : Parser Expr := spanned do
  let t ← accept fun t => match t.kind with
    | .number _ => some t
    | _ => none
  let text := match t.kind with
    | .number n => n
    | _ => []
  match numeralValue text with
  | some c => return fun s => .constant s c
  | none => abortAt t.row (Text.of "integer literal has too many digits")

/-- A constant that a word or an ellipsis stands for. -/
def wordConstant : Parser Expr := spanned do
  let c ← accept fun t => match t.kind with
    | .word .True => some (Constant.bool true)
    | .word .False => some (.bool false)
    | .word .None => some .none
    | .op .ellipsis => some .ellipsis
    | _ => none
  return fun s => .constant s c

/-- A name, a constant, a literal, or a construct in brackets. -/
def atom : Parser Expr := do
  let t ← peek
  match t.kind with
  | .name _ => nameExpr .load
  | .string _ => self .strings
  | .number _ => number
  | .op .lpar => tuple self <|> group self <|> generator self
  | .op .lsqb => list self <|> listComp self
  | .op .lbrace => dict self <|> set self <|> dictComp self <|> setComp self
  | _ => wordConstant

/-- An index: an expression or a slice. -/
def slice : Parser Expr :=
  (spanned do
    let lower ← opt self.expression
    let _ ← op .colon
    let upper ← opt self.expression
    let step ← opt (do let _ ← op .colon; opt self.expression)
    return fun s => .slice s lower upper step.join) <|>
  namedExpression self

/-- The indices between brackets. -/
def slices : Parser Expr :=
  (do
    let e ← slice self
    notAhead (op .comma)
    return e) <|>
  (spanned do
    let es ← sepBy1 (slice self <|> starredArgument self) (op .comma)
    optComma
    return fun s => .tuple s es)

/-- The arguments of a call between parentheses. -/
def callArguments : Parser (List Expr × List Keyword) := do
  let _ ← op .lpar
  let as ← opt self.arguments
  let _ ← op .rpar
  return as.getD ([], [])

/-- The member of `e` that comes next. -/
def memberOf (start : Token) (e : Expr) : Parser Expr := do
  let _ ← op .dot
  let n ← nameToken
  return .attr (← spanFrom start) e n.nameText

/-- The item of `e` that comes next. -/
def itemOf (start : Token) (e : Expr) : Parser Expr := do
  let _ ← op .lsqb
  let i ← slices self
  let _ ← op .rsqb
  return .subscript (← spanFrom start) e i

/-- The call of `e` on a generator that comes next. -/
def generatorCallOf (start : Token) (e : Expr) : Parser Expr := do
  let g ← generator self
  return .call (← spanFrom start) e [g] []

/-- The call of `e` that comes next. -/
def callOf (start : Token) (e : Expr) : Parser Expr := do
  let (as, ks) ← callArguments self
  return .call (← spanFrom start) e as ks

/-- An atom with members, items and calls behind it. -/
def primary : Parser Expr := do
  let start ← peek
  let e ← atom self
  grow (fun e =>
    memberOf start e <|> generatorCallOf self start e <|> callOf self start e <|>
      itemOf self start e) e

/-! ### The fault of an assignment among expressions -/

/-- An assignment where an expression is needed. -/
def namedFault : Parser Unit := faulty <|
  (do
    let e ← self.expression
    let _ ← op .colonEqual
    let _ ← self.expression
    abortAt e.row (Text.of "cannot use assignment expressions here")) <|>
  (do
    let n ← nameToken
    let _ ← op .equal
    let _ ← self.bitOr
    notAhead (op .equal <|> op .colonEqual)
    abortAt n.row (Text.of "invalid syntax. Maybe you meant '==' or ':=' instead of '='?")) <|>
  (do
    notAhead ((do let _ ← list self) <|> (do let _ ← tuple self) <|> (do let _ ← generator self) <|>
      (do let _ ← word .True <|> word .None <|> word .False))
    let e ← self.bitOr
    let _ ← op .equal
    let _ ← self.bitOr
    notAhead (op .equal <|> op .colonEqual)
    abortAt e.row (Text.of "cannot assign here. Maybe you meant '==' instead of '='?"))

end ApiPage.Syntax.Grammar
