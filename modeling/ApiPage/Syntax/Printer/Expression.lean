import ApiPage.Decimal.Shortest
import ApiPage.Syntax.Printer.Quotes

/-!
# Printed expressions

Expressions as source text in one canonical layout. Parentheses stand only where the precedence of
an operator asks for them.

## Conventions

Every printer takes the precedence that its place asks for; an expression that binds less tightly is
put into parentheses. Inside the field of a formatted string no backslash may stand, and the flag
`inField` makes literals avoid them.
-/

namespace ApiPage.Syntax.Printer

open Decimal (Binary64 FloatStyle)

/-- **Precedence**, from the loosest to the tightest. -/
abbrev Precedence := Nat

namespace Precedence

/-- A named expression. -/
def named : Precedence := 1

/-- Items without brackets. -/
def tuple : Precedence := 2

/-- What a generator yields. -/
def yield : Precedence := 3

/-- A conditional or a lambda expression. -/
def test : Precedence := 4

/-- Operands joined by `or`. -/
def or : Precedence := 5

/-- Operands joined by `and`. -/
def and : Precedence := 6

/-- A negation. -/
def not : Precedence := 7

/-- A comparison. -/
def compare : Precedence := 8

/-- Operands joined by bars. -/
def bitOr : Precedence := 9

/-- Operands joined by circumflexes. -/
def bitXor : Precedence := 10

/-- Operands joined by ampersands. -/
def bitAnd : Precedence := 11

/-- A shift. -/
def shift : Precedence := 12

/-- A sum. -/
def sum : Precedence := 13

/-- A product. -/
def term : Precedence := 14

/-- A signed operand. -/
def factor : Precedence := 15

/-- A power. -/
def power : Precedence := 16

/-- An awaited operand. -/
def await : Precedence := 17

/-- What needs no parentheses anywhere. -/
def atom : Precedence := 18

/-- The next tighter precedence. -/
def next (p : Precedence) : Precedence := min (p + 1) atom

end Precedence

/-- Why a tree cannot be printed. -/
inductive PrintError
  | backslashInField
  | integerTooLong
  deriving DecidableEq

/-- The wording of an error. -/
def PrintError.message : PrintError → Text
  | backslashInField => Text.of "Unable to avoid backslash in f-string expression part"
  | integerTooLong =>
    Text.of "Exceeds the limit (4300 digits) for integer string conversion; " ++
      Text.of "use sys.set_int_max_str_digits() to increase the limit"

/-- Text, or the reason why there is none. -/
abbrev Printed := Except PrintError Text

/-! ### Operators -/

/-- The sign of an operator. -/
def binarySign : BinaryOp → Text
  | .add => ['+']
  | .sub => ['-']
  | .mul => ['*']
  | .matMul => ['@']
  | .div => ['/']
  | .mod => ['%']
  | .pow => ['*', '*']
  | .shiftLeft => ['<', '<']
  | .shiftRight => ['>', '>']
  | .bitOr => ['|']
  | .bitXor => ['^']
  | .bitAnd => ['&']
  | .floorDiv => ['/', '/']

/-- The precedence of an operator. -/
def binaryPrecedence : BinaryOp → Precedence
  | .add | .sub => .sum
  | .mul | .matMul | .div | .mod | .floorDiv => .term
  | .pow => .power
  | .shiftLeft | .shiftRight => .shift
  | .bitOr => .bitOr
  | .bitXor => .bitXor
  | .bitAnd => .bitAnd

/-- The precedences that an operator asks of its operands. A power groups to the right. -/
def operandPrecedences (o : BinaryOp) : Precedence × Precedence :=
  let p := binaryPrecedence o
  if o = .pow then (p.next, p) else (p, p.next)

/-- The sign of a comparison. -/
def compareSign : CompareOp → Text
  | .eq => Text.of "=="
  | .notEq => Text.of "!="
  | .lt => Text.of "<"
  | .le => Text.of "<="
  | .gt => Text.of ">"
  | .ge => Text.of ">="
  | .same => Text.of "is"
  | .notSame => Text.of "is not"
  | .member => Text.of "in"
  | .notMember => Text.of "not in"

/-- The sign of an operator before its operand. -/
def unarySign : UnaryOp → Text
  | .invert => ['~']
  | .not => Text.of "not "
  | .plus => ['+']
  | .minus => ['-']

/-- The precedence of an operator before its operand. -/
def unaryPrecedence : UnaryOp → Precedence
  | .not => .not
  | _ => .factor

/-! ### Pieces of text -/

/-- `t` in parentheses if `c` holds. -/
def parensIf (c : Bool) (t : Text) : Text := if c then '(' :: t ++ [')'] else t

/-- `t` in square brackets. -/
def square (t : Text) : Text := '[' :: t ++ [']']

/-- `t` in braces. -/
def braced (t : Text) : Text := '\x7b' :: t ++ ['\x7d']

/-- Items with commas between. -/
def commas (ts : List Text) : Text := Text.join [',', ' '] ts

/-- Items with commas between; one item is followed by a comma. -/
def tupleItems : List Text → Text
  | [t] => t ++ [',']
  | ts => commas ts

/-- The literal of a number. An infinite one is written as one that is too large. -/
def numberText (style : FloatStyle) (x : Binary64) : Text :=
  x.toText { style with infinity := Text.of "1e309" }

/-- A constant. -/
def constantText (inField : Bool) : Constant → Printed
  | .none => return Text.of "None"
  | .bool true => return Text.of "True"
  | .bool false => return Text.of "False"
  | .ellipsis => return Text.of "..."
  | .int n => if n < Nat.pow 10 4300 then return Text.ofNat n else throw .integerTooLong
  | .real x => return numberText .real x
  | .imaginary x => return numberText .imaginary x ++ ['j']
  | .str s marked =>
    return (if marked then ['u'] else []) ++
      if inField then plainLiteral allQuotes s else Text.quote s
  | .bytes s => return Text.quoteBytes s

/-- An expression that a point must not follow at once. -/
def isInteger : Expr → Bool
  | .constant _ (.int _) => true
  | .constant _ (.bool _) => true
  | _ => false

/-- The items of an index that is a tuple with items, which needs no parentheses. -/
def indexParens : Expr → Precedence
  | .tuple _ (_ :: _) => .named
  | _ => .test

/-- A parameter list from its parts. -/
def paramsLayout (positionalOnly positional : List Text) (rest : Option Text)
    (keywordOnly : List Text)
    (restKeywords : Option Text) : Text :=
  let star := match rest with
    | some t => ['*' :: t]
    | none => if keywordOnly.isEmpty then [] else [['*']]
  commas (positionalOnly ++ (if positionalOnly.isEmpty then [] else [['/']]) ++ positional ++
    star ++
    keywordOnly ++ restKeywords.toList.map (['*', '*'] ++ ·))

/-! ### Expressions -/

mutual

/-- **An expression as text** at a place that asks for precedence `p`. -/
def exprText (inField : Bool) (p : Precedence) : Expr → Printed
  | .boolOp _ o values => do
    let own := match o with
      | .and => Precedence.and
      | .or => Precedence.or
    let sign := match o with
      | .and => Text.of " and "
      | .or => Text.of " or "
    return parensIf (own < p) (Text.join sign (← risingTexts inField own.next values))
  | .named _ target value => do
    let t ← exprText inField .atom target
    let v ← exprText inField .atom value
    return parensIf (Precedence.named < p) (t ++ Text.of " := " ++ v)
  | .binary _ left o right => do
    let (lp, rp) := operandPrecedences o
    let l ← exprText inField lp left
    let r ← exprText inField rp right
    return parensIf (binaryPrecedence o < p) (l ++ ' ' :: binarySign o ++ ' ' :: r)
  | .unary _ o operand => do
    let own := unaryPrecedence o
    return parensIf (own < p) (unarySign o ++ (← exprText inField own operand))
  | .lambda _ ps body => do
    let ps ← paramsText inField ps
    let b ← exprText inField .test body
    return parensIf (Precedence.test < p)
      (Text.of "lambda" ++ (if ps.isEmpty then [] else ' ' :: ps) ++ ':' :: ' ' :: b)
  | .conditional _ test body orElse => do
    let b ← exprText inField Precedence.test.next body
    let t ← exprText inField Precedence.test.next test
    let e ← exprText inField .test orElse
    return parensIf (Precedence.test < p) (b ++ Text.of " if " ++ t ++ Text.of " else " ++ e)
  | .dict _ items => return braced (commas (← dictTexts inField items))
  | .set _ items => do
    let ts ← exprTexts inField .test items
    return if items.isEmpty then braced (Text.of "*()") else braced (commas ts)
  | .listComp _ item clauses => do
    let t ← exprText inField .test item
    return square (t ++ (← clausesText inField clauses))
  | .setComp _ item clauses => do
    let t ← exprText inField .test item
    return braced (t ++ (← clausesText inField clauses))
  | .dictComp _ key value clauses => do
    let k ← exprText inField .test key
    let v ← exprText inField .test value
    return braced (k ++ ':' :: ' ' :: v ++ (← clausesText inField clauses))
  | .generator _ item clauses => do
    let t ← exprText inField .test item
    return parensIf true (t ++ (← clausesText inField clauses))
  | .await _ value => do
    let v ← exprText inField .atom value
    return parensIf (Precedence.await < p) (Text.of "await " ++ v)
  | .yield _ none => return parensIf (Precedence.yield < p) (Text.of "yield")
  | .yield _ (some value) => do
    let v ← exprText inField .atom value
    return parensIf (Precedence.yield < p) (Text.of "yield " ++ v)
  | .yieldFrom _ value => do
    let v ← exprText inField .atom value
    return parensIf (Precedence.yield < p) (Text.of "yield from " ++ v)
  | .compare _ left rest => do
    let l ← exprText inField Precedence.compare.next left
    return parensIf (Precedence.compare < p) (l ++ (← comparisonsText inField rest))
  | .call _ func args keywords => do
    let f ← exprText inField .atom func
    let as ← exprTexts inField .test args
    let ks ← keywordTexts inField keywords
    return f ++ parensIf true (commas (as ++ ks))
  | .joined _ parts => do
    if inField then
      return 'f' :: plainLiteral allQuotes (← partsCodes parts)
    else return 'f' :: formattedLiteral (← partPieces parts)
  | .constant _ c => constantText inField c
  | .attr _ value member => do
    let v ← exprText inField .atom value
    return v ++ (if isInteger value then [' '] else []) ++ '.' :: member
  | .subscript _ value index => do
    let v ← exprText inField .atom value
    return v ++ square (← exprText inField (indexParens index) index)
  | .starred _ value => return '*' :: (← exprText inField .bitOr value)
  | .name _ id _ => return id
  | .list _ items => return square (commas (← exprTexts inField .test items))
  | .tuple _ items => do
    let ts ← exprTexts inField .test items
    return parensIf (items.isEmpty || Precedence.tuple < p) (tupleItems ts)
  | .slice _ lower upper step => do
    let l ← optText inField lower
    let u ← optText inField upper
    let s ← match step with
      | some e => do pure (':' :: (← exprText inField .test e))
      | none => pure []
    return l ++ ':' :: u ++ s

/-- An expression that may be missing. -/
def optText (inField : Bool) : Option Expr → Printed
  | some e => exprText inField .test e
  | none => return []

/-- Expressions at places that ask for the same precedence. -/
def exprTexts (inField : Bool) (p : Precedence) : List Expr → Except PrintError (List Text)
  | [] => return []
  | e :: es => do
    let t ← exprText inField p e
    return t :: (← exprTexts inField p es)

/-- Expressions of which each asks for a tighter precedence than the one before. -/
def risingTexts (inField : Bool) (p : Precedence) : List Expr → Except PrintError (List Text)
  | [] => return []
  | e :: es => do
    let t ← exprText inField p e
    return t :: (← risingTexts inField p.next es)

/-- The items of a mapping. -/
def dictTexts (inField : Bool) : List (Option Expr × Expr) → Except PrintError (List Text)
  | [] => return []
  | (none, v) :: items => do
    let t ← exprText inField .bitOr v
    return ('*' :: '*' :: t) :: (← dictTexts inField items)
  | (some k, v) :: items => do
    let k ← exprText inField .test k
    let v ← exprText inField .test v
    return (k ++ ':' :: ' ' :: v) :: (← dictTexts inField items)

/-- Comparisons after the first operand. -/
def comparisonsText (inField : Bool) : List (CompareOp × Expr) → Printed
  | [] => return []
  | (o, e) :: rest => do
    let t ← exprText inField Precedence.compare.next e
    return ' ' :: compareSign o ++ ' ' :: t ++ (← comparisonsText inField rest)

/-- The clauses of a comprehension. -/
def clausesText (inField : Bool) : List Clause → Printed
  | [] => return []
  | .mk isAsync target iter conditions :: cs => do
    let t ← exprText inField .tuple target
    let i ← exprText inField Precedence.test.next iter
    let c ← conditionsText inField conditions
    return Text.of (if isAsync then " async for " else " for ") ++ t ++ Text.of " in " ++ i ++ c ++
      (← clausesText inField cs)

/-- The conditions of a clause. -/
def conditionsText (inField : Bool) : List Expr → Printed
  | [] => return []
  | e :: es => do
    let t ← exprText inField Precedence.test.next e
    return Text.of " if " ++ t ++ (← conditionsText inField es)

/-- Arguments by name. -/
def keywordTexts (inField : Bool) : List Keyword → Except PrintError (List Text)
  | [] => return []
  | .mk _ name value :: ks => do
    let v ← exprText inField .test value
    let t := match name with
      | some n => n ++ '=' :: v
      | none => '*' :: '*' :: v
    return t :: (← keywordTexts inField ks)

/-- A parameter. -/
def paramText (inField : Bool) : Param → Printed
  | .mk _ name hint default => do
    let h ← match hint with
      | some e => do pure (':' :: ' ' :: (← exprText inField .test e))
      | none => pure []
    let d ← match default with
      | some e => do pure ('=' :: (← exprText inField .test e))
      | none => pure []
    return name ++ h ++ d

/-- Parameters one by one. -/
def paramTexts (inField : Bool) : List Param → Except PrintError (List Text)
  | [] => return []
  | p :: ps => do
    let t ← paramText inField p
    return t :: (← paramTexts inField ps)

/-- **A parameter list**. -/
def paramsText (inField : Bool) : Params → Printed
  | .mk positionalOnly positional rest keywordOnly restKeywords => do
    let po ← paramTexts inField positionalOnly
    let ps ← paramTexts inField positional
    let r ← match rest with
      | some q => do pure (some (← paramText inField q))
      | none => pure none
    let ko ← paramTexts inField keywordOnly
    let rk ← match restKeywords with
      | some q => do pure (some (← paramText inField q))
      | none => pure none
    return paramsLayout po ps r ko rk

/-- The code points of a part of a formatted string. -/
def partCodes : Part → Except PrintError (List Nat)
  | .text codes => return doubleBraces codes
  | .field value conversion format => do
    let v ← exprText true Precedence.test.next value
    if v.contains '\\' then throw .backslashInField
    let c := match conversion with
      | some c => ['!', c]
      | none => []
    let f ← match format with
      | some parts => do pure (58 :: (← partsCodes parts))
      | none => pure []
    let gap : Text := if v.head? == some '\x7b' then [' '] else []
    return Text.codes ('\x7b' :: gap ++ v ++ c) ++ f ++ [125]

/-- The code points of some parts. -/
def partsCodes : List Part → Except PrintError (List Nat)
  | [] => return []
  | p :: ps => do
    let t ← partCodes p
    return t ++ (← partsCodes ps)

/-- The pieces of a formatted string. -/
def partPieces : List Part → Except PrintError (List Piece)
  | [] => return []
  | p :: ps => do
    let t ← partCodes p
    let isText := match p with
      | .text _ => true
      | .field .. => false
    return ⟨t, isText⟩ :: (← partPieces ps)

end

end ApiPage.Syntax.Printer
