import ApiPage.Syntax.Grammar.Statement

/-!
# Parsing

The rules of the grammar are tied together here and applied to source text.

## Main definitions

* `Grammar.rules`: the rules, by fuel.
* `parseModule`: the statements of a module source.
-/

namespace ApiPage.Syntax

open ApiPage.Syntax.Parser

namespace Grammar

/-- The token with its first row moved right by `cols`, if it lies on that row. -/
def shiftToken (row cols : Nat) (t : Token) : Token :=
  if t.endRow = row then { t with col := t.col + cols, endCol := t.endCol + cols } else t

/-- Reads the expression of a field of a formatted string. It stands in parentheses, of which the
first takes the place of the brace that opens the field. -/
def fieldExpression (self : Rules) : FieldReader := fun row col source _ i m =>
  let tokens := (tokenize row ('(' :: source ++ [')'])).map (shiftToken row col)
  match run (starExpressions self) tokens with
  | .ok e => .ok e i m
  | .error e => .abort e m

/-- What each rule reads. -/
def body (self : Rules) : Rules
  | .expression => expression self
  | .disjunction => disjunction self
  | .conjunction => conjunction self
  | .inversion => inversion self
  | .bitOr => bitOr self
  | .bitXor => bitXor self
  | .bitAnd => bitAnd self
  | .shift => shift self
  | .sum => sum self
  | .term => term self
  | .factor => factor self
  | .awaited => awaited self
  | .primary => primary self
  | .strings => stringsOf (fieldExpression self)
  | .starExpression => starExpression self
  | .arguments => arguments self
  | .namedFault => namedFault self
  | .starTarget => starTarget self
  | .targetAtom => targetAtom self
  | .targetPrimary => targetPrimary self
  | .deleteTarget => deleteTarget self
  | .singleTarget => singleTarget self
  | .hintTarget => hintTarget self
  | .closedPattern => closedPattern self
  | .starPattern => starPattern
  | .block => block self
  | .simpleStatement => simpleStatement self
  | .elifStatement => elifStatement self

/-- **The rules of the grammar**, which may call each other `n` deep. -/
def rules : Nat → Rules
  | 0 => fun _ => failure
  | n + 1 => fun r => if r.remembered then remember r (body (rules n) r) else body (rules n) r

/-- The depth that a source needs at most: between two tokens no rule calls itself. -/
def depthFor (source : Text) : Nat := (source.length + 10) * 40

end Grammar

/-- Why a source cannot be parsed. -/
inductive ParseError
  | nullCharacter
  | fault (f : Fault)
  deriving DecidableEq

/-- **The statements of a module**. -/
def parseModule (source : Text) : Except ParseError (List Stmt) :=
  if source.any (· == '\x00') then .error .nullCharacter
  else
    let rules := Grammar.rules (Grammar.depthFor source)
    match run (Grammar.moduleBody rules) (tokenize 1 source) with
    | .ok ss => .ok ss
    | .error f => .error (.fault f)

end ApiPage.Syntax
