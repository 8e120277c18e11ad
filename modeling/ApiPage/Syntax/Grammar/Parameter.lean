import ApiPage.Syntax.Grammar.Basic
import ApiPage.Text.Normal

/-!
# Parameters

The parameters of functions and of lambda expressions. Those of a function may have types and end
before `)`; those of a lambda expression end before `:`. A parameter without a default may not
follow one that has a default, unless it is given by name only.
-/

namespace ApiPage.Syntax

open ApiPage.Syntax.Parser

/-- The name that a token spells, in its compatible composed form. -/
def Token.nameText (t : Token) : Text :=
  match t.kind with
  | .name n => if n.all (·.toNat < 128) then n else Text.ofCodes (Text.normalForm (Text.codes n))
  | _ => []

/-- The parameter with the given default. -/
def Param.withDefault : Param → Option Expr → Param
  | mk s n h _, d => mk s n h d

/-- **Kind of parameter list**: what it ends before, and whether its parameters may have types. -/
structure ParamStyle where
  close : Op
  typed : Bool

/-- Parameters of a function. -/
def ParamStyle.function : ParamStyle := ⟨.rpar, true⟩

/-- Parameters of a lambda expression. -/
def ParamStyle.lambda : ParamStyle := ⟨.colon, false⟩

namespace Grammar

variable (self : Rules) (style : ParamStyle)

/-- The end of a parameter: a comma, or the end of the list, which is not taken. -/
def paramEnd : Parser Unit := (do let _ ← op .comma) <|> ahead (op style.close)

/-- A default, or the place of one that is missing. -/
def paramDefault : Parser Expr :=
  (do let _ ← op .equal; self.expression) <|>
  faulty do
    let t ← op .equal
    ahead (op style.close <|> op .comma)
    abortAt t.row (Text.of "expected default value expression")

/-- A parameter with neither default nor end, whose type is read by `hint`. -/
def paramTyped (hint : Parser Expr) : Parser Param := spanned do
  let n ← nameToken
  let h ← if style.typed then opt (do let _ ← op .colon; hint) else pure none
  return fun s => .mk s n.nameText h none

/-- A parameter with neither default nor end. -/
def param : Parser Param := paramTyped style self.expression

/-- A parameter without a default. -/
def plainParam : Parser Param := do
  let p ← param self style
  paramEnd style
  return p

/-- A parameter with a default. -/
def defaultParam : Parser Param := do
  let p ← param self style
  let d ← paramDefault self style
  paramEnd style
  return p.withDefault (some d)

/-- A parameter that may have a default. -/
def eitherParam : Parser Param := do
  let p ← param self style
  let d ← opt (paramDefault self style)
  paramEnd style
  return p.withDefault d

/-- The mark that ends the parameters given by position only. -/
def slashMark : Parser Unit := do
  let _ ← op .slash
  paramEnd style

/-- Parameters without defaults that are given by position only. -/
def slashPlain : Parser (List Param) := do
  let ps ← many1 (plainParam self style)
  slashMark style
  return ps

/-- Parameters given by position only, of which the last have defaults. -/
def slashDefault : Parser (List Param) := do
  let ps ← many (plainParam self style)
  let ds ← many1 (defaultParam self style)
  slashMark style
  return ps ++ ds

/-- Parameters given by position only. -/
def slashParams : Parser (List Param) := slashPlain self style <|> slashDefault self style

/-- The faults of a parameter that takes the rest by name. -/
def faultyRestKeywords {α : Type} : Parser α := faulty <|
  (do
    let _ ← op .doubleStar
    let _ ← param self style
    let t ← op .equal
    abortAt t.row (Text.of "var-keyword argument cannot have default value")) <|>
  (do
    let _ ← op .doubleStar
    let _ ← param self style
    let _ ← op .comma
    let t ← peek
    let _ ← param self style
    abortAt t.row (Text.of "arguments cannot follow var-keyword argument")) <|>
  (do
    let _ ← op .doubleStar
    let _ ← param self style
    let _ ← op .comma
    let t ← op .star <|> op .doubleStar <|> op .slash
    abortAt t.row (Text.of "arguments cannot follow var-keyword argument"))

/-- The parameter that takes the rest by name. -/
def restKeywords : Parser Param :=
  faultyRestKeywords self style <|> do
    let _ ← op .doubleStar
    plainParam self style

/-- The faults of what follows the parameters given by position. -/
def faultyStarParams {α : Type} : Parser α := faulty <|
  (do
    let t ← op .star
    (do let _ ← op style.close) <|> do
      let _ ← op .comma
      let _ ← op style.close <|> op .doubleStar
    let message := Text.of "named arguments must follow bare *"
    if style.typed then abortAt t.row message else abortHere message) <|>
  (do
    let _ ← op .star
    let _ ← param self style
    let t ← op .equal
    abortAt t.row (Text.of "var-positional argument cannot have default value")) <|>
  (do
    let plainOrComma : Parser Unit :=
      (do let _ ← plainParam self style) <|> (do let _ ← op .comma)
    let _ ← op .star
    plainOrComma
    let _ ← many (eitherParam self style)
    let t ← op .star
    plainOrComma
    abortAt t.row (Text.of "* argument may appear only once"))

/-- The parameters after those given by position: the rest by position, those by name only, and the
rest by name. -/
def starParams : Parser (Option Param × List Param × Option Param) :=
  faultyStarParams self style <|>
  (do
    let _ ← op .star
    let p ← plainParam self style
    let ks ← many (eitherParam self style)
    return (some p, ks, ← opt (restKeywords self style))) <|>
  (do
    if !style.typed then failure
    let _ ← op .star
    let p ← paramTyped style self.starExpression
    paramEnd style
    let ks ← many (eitherParam self style)
    return (some p, ks, ← opt (restKeywords self style))) <|>
  (do
    let _ ← op .star
    let _ ← op .comma
    let ks ← many1 (eitherParam self style)
    return (none, ks, ← opt (restKeywords self style))) <|>
  (do return (none, [], some (← restKeywords self style)))

/-- Parameters from what comes before and after the star. -/
def paramsOf (positionalOnly positional : List Param)
    (star : Option (Option Param × List Param × Option Param)) : Params :=
  match star with
  | some (rest, keywordOnly, restKeywords) =>
    .mk positionalOnly positional rest keywordOnly restKeywords
  | none => .mk positionalOnly positional none [] none

/-- The faults of a parameter list. -/
def faultyParams {α : Type} : Parser α := faulty <|
  (do
    let _ ← many (plainParam self style)
    (do let _ ← slashDefault self style) <|> (do let _ ← many1 (defaultParam self style))
    let t ← peek
    let _ ← plainParam self style
    abortAt t.row (Text.of "non-default argument follows default argument")) <|>
  (do
    let _ ← many (plainParam self style)
    let t ← op .lpar
    if style.typed then
      let _ ← many1 (plainParam self style)
    else
      let _ ← sepBy1 (param self style) (op .comma)
    let _ ← opt (op .comma)
    let _ ← op .rpar
    abortAt t.row (Text.of "parameters cannot be parenthesized")) <|>
  (do
    let t ← op .slash
    let _ ← op .comma
    abortAt t.row (Text.of "at least one argument must precede /")) <|>
  (do
    let _ ← slashParams self style
    let _ ← many (eitherParam self style)
    let t ← op .slash
    abortAt t.row (Text.of "/ may appear only once")) <|>
  (do
    let _ ← opt (slashParams self style)
    let _ ← many (eitherParam self style)
    let _ ← op .star
    (do let _ ← op .comma) <|> (do let _ ← plainParam self style)
    let _ ← many (eitherParam self style)
    let t ← op .slash
    abortAt t.row (Text.of "/ must be ahead of *")) <|>
  (do
    let _ ← many1 (eitherParam self style)
    let _ ← op .slash
    let t ← op .star
    abortAt t.row (Text.of "expected comma between / and *"))

/-- **Parameter list**, which is not empty. -/
def params : Parser Params :=
  let star := opt (starParams self style)
  faultyParams self style <|>
  (do
    let ps ← slashPlain self style
    let qs ← many (plainParam self style)
    let ds ← many (defaultParam self style)
    return paramsOf ps (qs ++ ds) (← star)) <|>
  (do
    let ps ← slashDefault self style
    let ds ← many (defaultParam self style)
    return paramsOf ps ds (← star)) <|>
  (do
    let ps ← many1 (plainParam self style)
    let ds ← many (defaultParam self style)
    return paramsOf [] (ps ++ ds) (← star)) <|>
  (do
    let ds ← many1 (defaultParam self style)
    return paramsOf [] ds (← star)) <|>
  (do return paramsOf [] [] (some (← starParams self style)))

/-- A parameter list that may be empty. -/
def optParams : Parser Params := do return (← opt (params self style)).getD default

end Grammar
end ApiPage.Syntax
