import ApiPage.Syntax.Printer.Expression

/-!
# Printed statements

Statements as source text. Every line begins with a newline and its indentation; a definition also
has an empty line before it.

## Main definitions

* `Stmt.toText`, `Expr.toText`: a statement and an expression as text of their own.
-/

namespace ApiPage.Syntax

namespace Printer

/-- A new line at an indentation of `indent` levels. -/
def fill (indent : Nat) (t : Text) : Text := '\n' :: List.replicate (4 * indent) ' ' ++ t

/-- A new line that opens with a word. -/
def fillWord (indent : Nat) (s : String) : Text := fill indent (Text.of s)

/-- A constant as a pattern or an operand of its own. -/
def testText (e : Expr) : Printed := exprText false .test e

/-- Expressions with commas between. -/
def testTexts (es : List Expr) : Printed := do return commas (← exprTexts false .test es)

/-- A word and an expression that may follow it. -/
def withText (word : String) : Option Expr → Printed
  | some e => do return Text.of word ++ (← testText e)
  | none => return []

/-- A name with the name it is given. -/
def aliasText (a : Alias) : Text :=
  match a.asName with
  | some n => a.name ++ Text.of " as " ++ n
  | none => a.name

/-- The targets of an assignment, each with its equals sign. -/
def targetsText : List Expr → Printed
  | [] => return []
  | e :: es => do
    let t ← exprText false .tuple e
    return t ++ Text.of " = " ++ (← targetsText es)

/-- Context managers with their targets. -/
def itemTexts : List (Expr × Option Expr) → Except PrintError (List Text)
  | [] => return []
  | (e, t) :: is => do
    let e ← testText e
    let t ← withText " as " t
    return (e ++ t) :: (← itemTexts is)

/-- The lines of decorators. -/
def decoratorsText (indent : Nat) : List Expr → Printed
  | [] => return []
  | e :: es => do
    let t ← testText e
    return fill indent ('@' :: t) ++ (← decoratorsText indent es)

/-- The code points of a statement that is a string. -/
def docCodes? : Stmt → Option (List Nat × Bool)
  | .expr _ (.constant _ (.str s marked)) => some (s, marked)
  | _ => none

/-- A docstring. -/
def docText (indent : Nat) (s : List Nat) (marked : Bool) : Text :=
  fill indent ((if marked then ['u'] else []) ++ plainLiteral tripleQuotes s)

/-! ### Patterns -/

/-- The key of a mapping pattern before its pattern. -/
def keyTexts : List Expr → Except PrintError (List Text)
  | [] => return []
  | k :: ks => do
    let t ← testText k
    return (t ++ [':', ' ']) :: (← keyTexts ks)

mutual

/-- **A pattern as text**. -/
def patternText (p : Precedence) : Pattern → Printed
  | .value e => testText e
  | .singleton c => constantText false c
  | .sequence items => return square (commas (← patternTexts .test items))
  | .mapping keys items rest => do
    let ks ← keyTexts keys
    let ps ← patternTexts .test items
    let pairs := List.zipWith (· ++ ·) ks ps
    return braced (commas (pairs ++ rest.toList.map (['*', '*'] ++ ·)))
  | .ofClass cls items keywords => do
    let c ← exprText false .atom cls
    let ps ← patternTexts .test items
    let ks ← keywordPatternTexts keywords
    return c ++ parensIf true (commas (ps ++ ks))
  | .star name => return '*' :: name.getD ['_']
  | .capture none name => return name.getD ['_']
  | .capture (some q) (some name) => do
    let t ← patternText .bitOr q
    return parensIf (Precedence.test < p) (t ++ Text.of " as " ++ name)
  | .capture (some _) none => return ['_']
  | .either items => do
    let ts ← patternTexts Precedence.bitOr.next items
    return parensIf (Precedence.bitOr < p) (Text.join (Text.of " | ") ts)

/-- Patterns one by one. -/
def patternTexts (p : Precedence) : List Pattern → Except PrintError (List Text)
  | [] => return []
  | q :: qs => do
    let t ← patternText p q
    return t :: (← patternTexts p qs)

/-- Patterns of members. -/
def keywordPatternTexts : List (Text × Pattern) → Except PrintError (List Text)
  | [] => return []
  | (n, q) :: qs => do
    let t ← patternText .test q
    return (n ++ '=' :: t) :: (← keywordPatternTexts qs)

end

/-! ### Statements -/

mutual

/-- **A statement as lines** at an indentation. -/
def stmtText (indent : Nat) : Stmt → Printed
  | .function _ isAsync name params body decorators returns => do
    let ds ← decoratorsText indent decorators
    let ps ← paramsText false params
    let r ← withText " -> " returns
    let b ← bodyText (indent + 1) true body
    return '\n' :: ds ++ fill indent (Text.of (if isAsync then "async def " else "def ") ++ name ++
      parensIf true ps ++ r ++ [':']) ++ b
  | .classDef _ name bases keywords body decorators => do
    let ds ← decoratorsText indent decorators
    let bs ← exprTexts false .test bases
    let ks ← keywordTexts false keywords
    let b ← bodyText (indent + 1) true body
    let items := bs ++ ks
    let header := if items.isEmpty then [] else parensIf true (commas items)
    return '\n' :: ds ++ fill indent (Text.of "class " ++ name ++ header ++ [':']) ++ b
  | .ret _ value => return fillWord indent "return" ++ (← withText " " value)
  | .delete _ targets => return fillWord indent "del " ++ (← testTexts targets)
  | .assign _ targets value _ => do
    let ts ← targetsText targets
    let v ← testText value
    return fill indent (ts ++ v)
  | .augAssign _ target o value => do
    let t ← testText target
    let v ← testText value
    return fill indent (t ++ ' ' :: binarySign o ++ Text.of "= " ++ v)
  | .annAssign _ target hint value simple _ => do
    let t ← testText target
    let h ← testText hint
    let v ← withText " = " value
    let isName := match target with
      | .name .. => true
      | _ => false
    return fill indent (parensIf (!simple && isName) t ++ Text.of ": " ++ h ++ v)
  | .forLoop _ isAsync target iter body orElse => do
    let t ← exprText false .tuple target
    let i ← testText iter
    let b ← bodyText (indent + 1) false body
    let e ← elseText indent orElse
    return fill indent (Text.of (if isAsync then "async for " else "for ") ++ t ++
      Text.of " in " ++ i ++
      [':']) ++ b ++ e
  | .whileLoop _ test body orElse => do
    let t ← testText test
    let b ← bodyText (indent + 1) false body
    let e ← elseText indent orElse
    return fillWord indent "while " ++ t ++ ':' :: b ++ e
  | .cond _ test body orElse => do
    let t ← testText test
    let b ← bodyText (indent + 1) false body
    let e ← elifText indent orElse
    return fillWord indent "if " ++ t ++ ':' :: b ++ e
  | .withBlock _ isAsync items body => do
    let is ← itemTexts items
    let b ← bodyText (indent + 1) false body
    return fillWord indent (if isAsync then "async with " else "with ") ++ commas is ++ ':' :: b
  | .matchOn _ subject cases => do
    let t ← testText subject
    return fillWord indent "match " ++ t ++ ':' :: (← casesText (indent + 1) cases)
  | .raise _ error cause => do
    match error with
    | none => return fillWord indent "raise"
    | some e => return fillWord indent "raise " ++ (← testText e) ++ (← withText " from " cause)
  | .tryBlock _ isGroup body handlers orElse finalBody => do
    let b ← bodyText (indent + 1) false body
    let hs ← handlersText indent isGroup handlers
    let e ← elseText indent orElse
    let f ← bodyText (indent + 1) false finalBody
    return fillWord indent "try:" ++ b ++ hs ++ e ++
      (if finalBody.isEmpty then [] else fillWord indent "finally:" ++ f)
  | .assert _ test message => do
    let t ← testText test
    return fillWord indent "assert " ++ t ++ (← withText ", " message)
  | .importNames _ names => return fillWord indent "import " ++ commas (names.map aliasText)
  | .importFrom _ path names level =>
    return fillWord indent "from " ++ List.replicate level '.' ++ path.getD [] ++
      Text.of " import " ++
      commas (names.map aliasText)
  | .globals _ names => return fillWord indent "global " ++ commas names
  | .nonlocals _ names => return fillWord indent "nonlocal " ++ commas names
  | .expr _ value => return fill indent (← exprText false .yield value)
  | .pass _ => return fillWord indent "pass"
  | .breakLoop _ => return fillWord indent "break"
  | .continueLoop _ => return fillWord indent "continue"

/-- The statements of a block. `documented` says that a string at its start is a docstring. -/
def bodyText (indent : Nat) (documented : Bool) : List Stmt → Printed
  | [] => return []
  | s :: ss => do
    let t ← match documented, docCodes? s with
      | true, some (codes, marked) => pure (docText indent codes marked)
      | _, _ => stmtText indent s
    return t ++ (← bodyText indent false ss)

/-- The block after `else`, if it has statements. -/
def elseText (indent : Nat) : List Stmt → Printed
  | [] => return []
  | s :: ss => do
    let t ← stmtText (indent + 1) s
    return fillWord indent "else:" ++ t ++ (← bodyText (indent + 1) false ss)

/-- The block after `else` of a condition; another condition that is alone there joins the first. -/
def elifText (indent : Nat) : List Stmt → Printed
  | [] => return []
  | [.cond _ test body orElse] => do
    let t ← testText test
    let b ← bodyText (indent + 1) false body
    let e ← elifText indent orElse
    return fillWord indent "elif " ++ t ++ ':' :: b ++ e
  | s :: ss => do
    let t ← stmtText (indent + 1) s
    return fillWord indent "else:" ++ t ++ (← bodyText (indent + 1) false ss)

/-- Handlers. -/
def handlersText (indent : Nat) (isGroup : Bool) : List Handler → Printed
  | [] => return []
  | .mk type name body :: hs => do
    let t ← withText " " type
    let n := match name with
      | some n => Text.of " as " ++ n
      | none => []
    let b ← bodyText (indent + 1) false body
    return fillWord indent (if isGroup then "except*" else "except") ++ t ++ n ++ ':' :: b ++
      (← handlersText indent isGroup hs)

/-- Cases. -/
def casesText (indent : Nat) : List Case → Printed
  | [] => return []
  | .mk pattern guard body :: cs => do
    let p ← patternText .test pattern
    let g ← withText " if " guard
    let b ← bodyText (indent + 1) false body
    return fillWord indent "case " ++ p ++ g ++ ':' :: b ++ (← casesText indent cs)

end

end Printer

/-- **A statement as text**, without a line end. -/
def Stmt.toText (s : Stmt) : Printer.Printed := do
  return (← Printer.stmtText 0 s).dropWhile (· == '\n')

/-- **An expression as text**. -/
def Expr.toText (e : Expr) : Printer.Printed := Printer.exprText false .test e

end ApiPage.Syntax
