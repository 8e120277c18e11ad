import ApiPage.Syntax.Grammar.Expression

/-!
# Arguments

The arguments of a call. Arguments by position come before those by name; an unpacked sequence may
come among the names, but not after an unpacked mapping.
-/

namespace ApiPage.Syntax.Grammar

open ApiPage.Syntax.Parser

variable (self : Rules)

/-- **Argument**: by position, or by name. -/
inductive Argument
  | positional (e : Expr)
  | keyword (k : Keyword)

/-- The arguments by position. -/
def positionalOf : List Argument → List Expr
  | [] => []
  | .positional e :: as => e :: positionalOf as
  | .keyword _ :: as => positionalOf as

/-- The arguments by name. -/
def keywordsOf : List Argument → List Keyword
  | [] => []
  | .positional _ :: as => keywordsOf as
  | .keyword k :: as => k :: keywordsOf as

/-- The faults of an argument by name. -/
def faultyKeyword {α : Type} : Parser α := faulty <|
  (do
    let t ← word .True <|> word .False <|> word .None
    let _ ← op .equal
    abortAt t.row (Text.of "cannot assign to a constant")) <|>
  (do
    let n ← nameToken
    let _ ← op .equal
    let _ ← self.expression
    let _ ← forClauses self
    abortAt n.row (Text.of "invalid syntax. Maybe you meant '==' or ':=' instead of '='?")) <|>
  (do
    notAhead (do let _ ← nameToken; op .equal)
    let e ← self.expression
    let _ ← op .equal
    abortAt e.row (Text.of "expression cannot contain assignment, perhaps you meant \"==\"?"))

/-- A name with its value. -/
def namedArgument : Parser Argument := spanned do
  let n ← nameToken
  let _ ← op .equal
  let e ← self.expression
  return fun s => .keyword (.mk s (some n.nameText) e)

/-- An argument by name, or an unpacked sequence. -/
def keywordOrStarred : Parser Argument :=
  faultyKeyword self <|> namedArgument self <|>
  (do return .positional (← starredArgument self))

/-- An argument by name, or an unpacked mapping. -/
def keywordOrMapping : Parser Argument :=
  faultyKeyword self <|> namedArgument self <|>
  (spanned do
    let _ ← op .doubleStar
    let e ← self.expression
    return fun s => .keyword (.mk s none e))

/-- The arguments from the first one by name on. -/
def keywordArguments : Parser (List Argument) :=
  (do
    let as ← sepBy1 (keywordOrStarred self) (op .comma)
    let _ ← op .comma
    let bs ← sepBy1 (keywordOrMapping self) (op .comma)
    return as ++ bs) <|>
  sepBy1 (keywordOrStarred self) (op .comma) <|>
  sepBy1 (keywordOrMapping self) (op .comma)

/-- An argument by position. -/
def positionalArgument : Parser Expr :=
  starredArgument self <|> do
    let e ← assignmentOr self (unnamed self)
    notAhead (op .equal)
    return e

/-- One or more arguments. -/
def args : Parser (List Argument) :=
  (do
    let es ← sepBy1 (positionalArgument self) (op .comma)
    let ks ← opt (do let _ ← op .comma; keywordArguments self)
    return es.map .positional ++ ks.getD []) <|>
  keywordArguments self

/-- The faults of the arguments of a call. -/
def faultyArguments {α : Type} : Parser α := faulty <|
  (do
    let t ← peek
    let _ ← args self
    let _ ← op .comma
    let _ ← op .star
    abortAt t.row
      (Text.of "iterable argument unpacking follows keyword argument unpacking")) <|>
  (do
    let e ← self.expression
    let _ ← forClauses self
    let _ ← op .comma
    let _ ← opt ((do let _ ← args self) <|> do
      let _ ← self.expression
      let _ ← forClauses self)
    abortAt e.row (Text.of "Generator expression must be parenthesized")) <|>
  (do
    let n ← nameToken
    let _ ← op .equal
    let _ ← self.expression
    let _ ← forClauses self
    abortAt n.row (Text.of "invalid syntax. Maybe you meant '==' or ':=' instead of '='?")) <|>
  commit
    (do
      let as ← args self
      let _ ← forClauses self
      return positionalOf as)
    (fun es => match es.reverse with
      | e :: _ :: _ => abortAt e.row (Text.of "Generator expression must be parenthesized")
      | _ => failure)
    ((do
      let _ ← args self
      let _ ← op .comma
      let e ← self.expression
      let _ ← forClauses self
      abortAt e.row (Text.of "Generator expression must be parenthesized")) <|>
    (do
      let _ ← args self
      let _ ← op .comma
      let _ ← args self
      abortHere (Text.of "positional argument follows keyword argument")))

/-- **Arguments of a call** up to the closing parenthesis. -/
def arguments : Parser (List Expr × List Keyword) :=
  (do
    let as ← args self
    optComma
    ahead (op .rpar)
    return (positionalOf as, keywordsOf as)) <|>
  faultyArguments self

end ApiPage.Syntax.Grammar
