import ApiPage.Syntax.Grammar.Expression

/-!
# Targets

What an assignment, a loop or a deletion may name: a name, a member, an item, and lists and tuples
of targets.
-/

namespace ApiPage.Syntax.Grammar

open ApiPage.Syntax.Parser

variable (self : Rules)

/-- A token that goes on with a primary. -/
def primaryGoesOn : Parser Unit := ahead (op .lpar <|> op .lsqb <|> op .dot)

/-- A primary that goes on after its end. -/
def targetPrimary : Parser Expr := do
  let start ← peek
  let step (p : Parser Expr) : Parser Expr := do
    let e ← p
    primaryGoesOn
    return e
  let e ← step (atom self)
  grow (fun e =>
    step (memberOf start e) <|> step (itemOf self start e) <|>
    step (generatorCallOf self start e) <|> step (callOf self start e)) e

/-- A member or an item as a target. -/
def partTarget : Parser Expr :=
  (do
    let start ← peek
    let e ← self .targetPrimary
    let m ← memberOf start e
    notAhead primaryGoesOn
    return m) <|>
  (do
    let start ← peek
    let e ← self .targetPrimary
    let i ← itemOf self start e
    notAhead primaryGoesOn
    return i)

/-- Targets with commas between that are in parentheses. -/
def targetTuple : Parser (List Expr) :=
  (do
    let e ← self.starTarget
    let es ← many1 (do let _ ← op .comma; self.starTarget)
    optComma
    return e :: es) <|>
  (do
    let e ← self.starTarget
    let _ ← op .comma
    return [e])

/-- A name, or targets in brackets. -/
def bracketTarget : Parser Expr :=
  nameExpr .store <|>
  (do
    let _ ← op .lpar
    let e ← self .targetAtom
    let _ ← op .rpar
    return e) <|>
  (spanned do
    let _ ← op .lpar
    let es ← opt (targetTuple self)
    let _ ← op .rpar
    return fun s => .tuple s (es.getD [])) <|>
  (spanned do
    let _ ← op .lsqb
    let es ← opt do
      let es ← sepBy1 self.starTarget (op .comma)
      optComma
      return es
    let _ ← op .rsqb
    return fun s => .list s (es.getD []))

/-- A target without a star before it. -/
def targetAtom : Parser Expr := partTarget self <|> bracketTarget self

/-- A target that may take the rest. -/
def starTarget : Parser Expr :=
  (spanned do
    let _ ← op .star
    notAhead (op .star)
    let e ← self.starTarget
    return fun s => .starred s e) <|>
  self .targetAtom

/-- The target of an assignment that also computes. -/
def singleTarget : Parser Expr :=
  partTarget self <|> nameExpr .store <|> do
    let _ ← op .lpar
    let e ← self .singleTarget
    let _ ← op .rpar
    return e

/-- What is deleted. -/
def deleteTarget : Parser Expr :=
  let targets : Parser (List Expr) := do
    let es ← sepBy1 (self .deleteTarget) (op .comma)
    optComma
    return es
  partTarget self <|>
  nameExpr .delete <|>
  (do
    let _ ← op .lpar
    let e ← self .deleteTarget
    let _ ← op .rpar
    return e) <|>
  (spanned do
    let _ ← op .lpar
    let es ← opt targets
    let _ ← op .rpar
    return fun s => .tuple s (es.getD [])) <|>
  (spanned do
    let _ ← op .lsqb
    let es ← opt targets
    let _ ← op .rsqb
    return fun s => .list s (es.getD []))

/-- A display that a type is given to, which cannot have one. -/
def hintTarget : Parser Expr :=
  faulty <| list self <|> tuple self <|> do
    let _ ← op .lpar
    let e ← self .hintTarget
    let _ ← op .rpar
    return e

end ApiPage.Syntax.Grammar
