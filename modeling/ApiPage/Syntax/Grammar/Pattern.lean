import ApiPage.Syntax.Grammar.Expression

/-!
# Patterns

The patterns of match statements: literals, values, captures, sequences, mappings, classes and
choices of those.
-/

namespace ApiPage.Syntax.Grammar

open ApiPage.Syntax.Parser

variable (self : Rules)

/-! ### Literals -/

/-- A number with its sign. -/
def signed (p : Parser Expr) : Parser Expr :=
  p <|> spanned do
    let _ ← op .minus
    let e ← p
    return fun s => .unary s .minus e

/-- The real part of a complex number. -/
def realNumber : Parser Expr := do
  let e ← number
  match e with
  | .constant _ (.imaginary _) => abortAt e.row (Text.of "real number required in complex literal")
  | _ => return e

/-- The imaginary part of a complex number. -/
def imaginaryNumber : Parser Expr := do
  let e ← number
  match e with
  | .constant _ (.imaginary _) => return e
  | _ => abortAt e.row (Text.of "imaginary number required in complex literal")

/-- A sum or a difference of a real and an imaginary number. -/
def complexNumber : Parser Expr := spanned do
  let re ← signed realNumber
  let o ← accept fun t => match t.kind with
    | .op .plus => some BinaryOp.add
    | .op .minus => some .sub
    | _ => none
  let im ← imaginaryNumber
  return fun s => .binary s re o im

/-- A number or a string that stands for itself. -/
def literalValue : Parser Expr :=
  (do
    let e ← signed number
    notAhead (op .plus <|> op .minus)
    return e) <|>
  complexNumber <|>
  self .strings

/-- A constant that is compared by identity. -/
def singleton : Parser Constant := accept fun t => match t.kind with
  | .word .None => some .none
  | .word .True => some (.bool true)
  | .word .False => some (.bool false)
  | _ => none

/-- A literal as the key of a mapping. -/
def literalKey : Parser Expr :=
  literalValue self <|> spanned do
    let c ← singleton
    return fun s => .constant s c

/-! ### Names -/

/-- A token that makes more of a name than a capture. -/
def nameGoesOn : Parser Unit := ahead (op .dot <|> op .lpar <|> op .equal)

/-- A name that captures. -/
def captureName : Parser Text := do
  notAhead (softWord "_")
  let n ← nameToken
  notAhead nameGoesOn
  return n.nameText

/-- A name with the members that follow it, `least` of them or more. -/
def dottedValue (least : Nat) : Parser Expr := do
  let start ← peek
  let e ← nameExpr .load
  let (e, n) ← grow (fun (e, n) => do return (← memberOf start e, n + 1)) (e, 0)
  if n < least then failure
  return e

/-! ### Patterns that end themselves -/

/-- An element of a sequence pattern. -/
def starOrPattern (pattern : Parser Pattern) : Parser Pattern := self .starPattern <|> pattern

/-- Elements of a sequence pattern with commas between. -/
def sequenceItems (pattern : Parser Pattern) : Parser (List Pattern) := do
  let ps ← sepBy1 (starOrPattern self pattern) (op .comma)
  optComma
  return ps

/-- Elements of a sequence pattern of which the first is followed by a comma. -/
def openSequence (pattern : Parser Pattern) : Parser (List Pattern) := do
  let p ← starOrPattern self pattern
  let _ ← op .comma
  let ps ← opt (sequenceItems self pattern)
  return p :: ps.getD []

/-- Patterns in brackets or parentheses. -/
def sequencePattern (pattern : Parser Pattern) : Parser Pattern :=
  (do
    let _ ← op .lsqb
    let ps ← opt (sequenceItems self pattern)
    let _ ← op .rsqb
    return .sequence (ps.getD [])) <|>
  (do
    let _ ← op .lpar
    let ps ← opt (openSequence self pattern)
    let _ ← op .rpar
    return .sequence (ps.getD []))

/-- The name that takes the rest of a mapping. -/
def restPattern : Parser Text := do
  let _ ← op .doubleStar
  captureName

/-- A key with the pattern of its value. -/
def keyPattern (pattern : Parser Pattern) : Parser (Expr × Pattern) := do
  let k ← literalKey self <|> dottedValue 1
  let _ ← op .colon
  return (k, ← pattern)

/-- Keys with patterns in braces. -/
def mappingPattern (pattern : Parser Pattern) : Parser Pattern :=
  let items := sepBy1 (keyPattern self pattern) (op .comma)
  (do
    let _ ← op .lbrace
    let _ ← op .rbrace
    return .mapping [] [] none) <|>
  (do
    let _ ← op .lbrace
    let r ← restPattern
    optComma
    let _ ← op .rbrace
    return .mapping [] [] (some r)) <|>
  (do
    let _ ← op .lbrace
    let ps ← items
    let _ ← op .comma
    let r ← restPattern
    optComma
    let _ ← op .rbrace
    return .mapping (ps.map (·.1)) (ps.map (·.2)) (some r)) <|>
  (do
    let _ ← op .lbrace
    let ps ← items
    optComma
    let _ ← op .rbrace
    return .mapping (ps.map (·.1)) (ps.map (·.2)) none)

/-- A member with the pattern of its value. -/
def keywordPattern (pattern : Parser Pattern) : Parser (Text × Pattern) := do
  let n ← nameToken
  let _ ← op .equal
  return (n.nameText, ← pattern)

/-- The pattern of a class with patterns for its members. -/
def classPattern (pattern : Parser Pattern) : Parser Pattern :=
  let items := sepBy1 pattern (op .comma)
  let keywords := sepBy1 (keywordPattern pattern) (op .comma)
  let opened : Parser Expr := do
    let e ← dottedValue 0
    let _ ← op .lpar
    return e
  let closed : Parser Unit := do
    optComma
    let _ ← op .rpar
  (do
    let e ← opened
    let _ ← op .rpar
    return .ofClass e [] []) <|>
  (do
    let e ← opened
    let ps ← items
    closed
    return .ofClass e ps []) <|>
  (do
    let e ← opened
    let ks ← keywords
    closed
    return .ofClass e [] ks) <|>
  (do
    let e ← opened
    let ps ← items
    let _ ← op .comma
    let ks ← keywords
    closed
    return .ofClass e ps ks) <|>
  faulty do
    let _ ← opened
    let _ ← opt (do let _ ← items; op .comma)
    let _ ← keywords
    let _ ← op .comma
    let t ← peek
    let _ ← items
    abortAt t.row (Text.of "positional patterns follow keyword patterns")

/-! ### Patterns that others join -/

/-- Patterns with bars between. -/
def orPattern : Parser Pattern := do
  let ps ← sepBy1 (self .closedPattern) (op .bar)
  match ps with
  | [p] => return p
  | ps => return .either ps

/-- The faults of the name that a pattern is given. -/
def faultyAsPattern {α : Type} : Parser α := faulty <|
  (do
    let _ ← orPattern self
    let _ ← word .as
    let t ← softWord "_"
    abortAt t.row (Text.of "cannot use '_' as a target")) <|>
  (do
    let _ ← orPattern self
    let _ ← word .as
    notAhead nameToken
    let e ← self.expression
    abortAt e.row (Text.of "invalid pattern target"))

/-- Patterns with bars between, which may get a name. -/
def pattern : Parser Pattern :=
  (do
    let p ← orPattern self
    let _ ← word .as
    return .capture (some p) (some (← captureName))) <|>
  faultyAsPattern self <|>
  orPattern self

/-- A pattern without bars. -/
def closedPattern : Parser Pattern :=
  (do return .value (← literalValue self)) <|>
  (do return .singleton (← singleton)) <|>
  (do return .capture none (some (← captureName))) <|>
  (do let _ ← softWord "_"; return .capture none none) <|>
  (do
    let e ← dottedValue 1
    notAhead nameGoesOn
    return .value e) <|>
  (do
    let _ ← op .lpar
    let p ← pattern self
    let _ ← op .rpar
    return p) <|>
  sequencePattern self (pattern self) <|>
  mappingPattern self (pattern self) <|>
  classPattern (pattern self)

/-- A pattern that takes the rest of a sequence. -/
def starPattern : Parser Pattern := do
  let _ ← op .star
  (do return .star (some (← captureName))) <|> (do let _ ← softWord "_"; return .star none)

/-- The patterns of a case: several with commas make a sequence. -/
def patterns : Parser Pattern :=
  (do return .sequence (← openSequence self (pattern self))) <|> pattern self

end ApiPage.Syntax.Grammar
