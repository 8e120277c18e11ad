import ApiPage.Syntax.Lexer

/-!
# Grammar readers

The grammar is read by ordered choice with memory. A reader either takes tokens and gives a value,
or fails, or aborts with a fault that ends the whole reading.

A source is read twice at most. The first reading follows the grammar alone. If it fails, the second
also follows *fault rules*, constructs that are wrong in a known way and abort with an explanation.
Where neither explains the failure, the fault lies at the farthest token that the first reading
looked at.

## Conventions

Every function of this folder that takes `self` reaches the rules of the grammar through it; the
knot is tied once, in `ApiPage.Syntax.Parser`. The result of a rule that is remembered does not
depend on whether fault rules were followed when it was found.
-/

namespace ApiPage.Syntax

/-- The rules that call themselves or whose results are remembered. -/
inductive Rule
  | expression | disjunction | conjunction | inversion | bitOr | bitXor | bitAnd | shift | sum
  | term
  | factor | awaited | primary | strings | starExpression | arguments | namedFault | starTarget
  | targetAtom | targetPrimary | deleteTarget | singleTarget | hintTarget | closedPattern
  | starPattern | block | simpleStatement | elifStatement
  deriving DecidableEq

/-- The kind of value a rule gives. -/
abbrev Rule.Result : Rule → Type
  | arguments => List Expr × List Keyword
  | namedFault => Unit
  | closedPattern | starPattern => Pattern
  | block => List Stmt
  | simpleStatement | elifStatement => Stmt
  | _ => Expr

/-- The results of the rule are remembered at every place. -/
def Rule.remembered : Rule → Bool
  | singleTarget | hintTarget | elifStatement => false
  | _ => true

/-- **Input**: the tokens left, and where the last token that stands for text ended. -/
structure Input where
  tokens : List Token
  endRow : Nat
  endCol : Nat

/-- A remembered result: no value if the rule failed there. -/
structure Entry where
  rule : Rule
  result : Option (rule.Result × Input)

/-- **Memory** of a reading: the farthest token looked at, and the results of rules by place. -/
structure Memory where
  reach : Option Token
  table : Array (List Entry)

/-- The memory at the start of a reading of `n` tokens. -/
def Memory.fresh (n : Nat) : Memory := ⟨none, Array.replicate n []⟩

/-- The memory after a look at `t`. -/
def Memory.touch (m : Memory) (t : Token) : Memory :=
  match m.reach with
  | some r => if r.index < t.index then { m with reach := some t } else m
  | none => { m with reach := some t }

/-- The row of the farthest token looked at. -/
def Memory.reachRow (m : Memory) : Nat :=
  match m.reach with
  | some t => t.row
  | none => 0

/-- The remembered result of `r` among some entries. -/
def Entry.find? (r : Rule) : List Entry → Option (Option (r.Result × Input))
  | [] => none
  | e :: es => if h : e.rule = r then some (h ▸ e.result) else find? r es

/-- The remembered result of a rule at a place. -/
def Memory.recall (m : Memory) (r : Rule) (index : Nat) : Option (Option (r.Result × Input)) :=
  match m.table[index]? with
  | some es => Entry.find? r es
  | none => none

/-- The memory with one result more. -/
def Memory.record (m : Memory) (index : Nat) (e : Entry) : Memory :=
  { m with table := m.table.modify index (e :: ·) }

/-- **Outcome** of a reader. -/
inductive Outcome (α : Type)
  | ok (value : α) (input : Input) (memory : Memory)
  | fail (memory : Memory)
  | abort (fault : Fault) (memory : Memory)

/-- **Reader of a grammar**. The flag says whether fault rules are followed. -/
def Parser (α : Type) : Type := Bool → Input → Memory → Outcome α

/-- Access to the rules of the grammar. -/
abbrev Rules : Type := (r : Rule) → Parser r.Result

namespace Parser

variable {α β : Type}

/-- A reader goes on where the one before it ended. -/
instance : Monad Parser where
  pure a := fun _ i m => .ok a i m
  bind p f := fun faults i m => match p faults i m with
    | .ok a i m => f a faults i m
    | .fail m => .fail m
    | .abort e m => .abort e m

/-- Ordered choice: the second reader is tried where the first fails, at the same place. -/
instance : OrElse (Parser α) where
  orElse p q := fun faults i m => match p faults i m with
    | .fail m => q () faults i m
    | o => o

/-- The reader that always fails. -/
def failure : Parser α := fun _ _ m => .fail m

/-- Reads `p` and goes on with `f`, or reads `q` if `p` fails. A failure of `f` is final. -/
def commit (p : Parser β) (f : β → Parser α) (q : Parser α) : Parser α := fun faults i m =>
  match p faults i m with
  | .ok b i m => f b faults i m
  | .fail m => q faults i m
  | .abort e m => .abort e m

/-- Reads `p` if it can. -/
def opt (p : Parser α) : Parser (Option α) := fun faults i m =>
  match p faults i m with
  | .ok a i m => .ok (some a) i m
  | .fail m => .ok none i m
  | .abort e m => .abort e m

/-- Looks whether `p` can be read. -/
def ahead (p : Parser α) : Parser Unit := fun faults i m =>
  match p faults i m with
  | .ok _ _ m => .ok () i m
  | .fail m => .fail m
  | .abort e m => .abort e m

/-- Looks whether `p` cannot be read. -/
def notAhead (p : Parser α) : Parser Unit := fun faults i m =>
  match p faults i m with
  | .ok _ _ m => .fail m
  | .fail m => .ok () i m
  | .abort e m => .abort e m

/-- Applies `step` to `a` as long as it can be read, `n` times at most. -/
def iterate (step : α → Parser α) : Nat → α → Parser α
  | 0, a => pure a
  | n + 1, a => fun faults i m =>
    match step a faults i m with
    | .ok a i m => iterate step n a faults i m
    | .fail m => .ok a i m
    | .abort e m => .abort e m

/-- Applies `step` to `a` as long as it can be read. Every step takes a token. -/
def grow (step : α → Parser α) (a : α) : Parser α := fun faults i m =>
  iterate step i.tokens.length a faults i m

/-- Reads `p` as often as it can be read. -/
def many (p : Parser α) : Parser (List α) := do
  let rs ← grow (fun rs => do return (← p) :: rs) []
  return rs.reverse

/-- Reads `p` once or more. -/
def many1 (p : Parser α) : Parser (List α) := do
  let a ← p
  let rs ← grow (fun rs => do return (← p) :: rs) [a]
  return rs.reverse

/-- Reads `p` once or more with `sep` between. -/
def sepBy1 (p : Parser α) (sep : Parser β) : Parser (List α) := do
  let a ← p
  let rs ← grow (fun rs => do
    let _ ← sep
    return (← p) :: rs) [a]
  return rs.reverse

/-- Follows `p` only where fault rules are followed. -/
def faulty (p : Parser α) : Parser α := fun faults i m => if faults then p faults i m else .fail m

/-- Reads `p` without following fault rules. -/
def faultless (p : Parser α) : Parser α := fun _ i m => p false i m

/-- Ends the reading with a fault on a row. -/
def abortAt (row : Nat) (message : Text) : Parser α := fun _ _ m => .abort ⟨row, message⟩ m

/-- Ends the reading with a fault on the row of the farthest token looked at. -/
def abortHere (message : Text) : Parser α := fun _ _ m => .abort ⟨m.reachRow, message⟩ m

/-! ### Tokens -/

/-- The next token, which is not taken. A fault of the source aborts. -/
def peek : Parser Token := fun _ i m =>
  match i.tokens with
  | [] => .fail m
  | t :: _ =>
    match t.kind with
    | .fault e => .abort e.fault (m.touch t)
    | _ => .ok t i (m.touch t)

/-- Takes the next token. -/
def advance : Parser Unit := fun _ i m =>
  match i.tokens with
  | [] => .fail m
  | t :: r => .ok () (if t.isSolid then ⟨r, t.endRow, t.endCol⟩ else { i with tokens := r }) m

/-- Takes the next token if `f` gives a value for it. -/
def accept (f : Token → Option α) : Parser α := do
  let t ← peek
  match f t with
  | some a => advance; return a
  | none => failure

/-- Takes a token of the given kind. -/
def kind (k : TokenKind) : Parser Token := accept fun t => if t.kind = k then some t else none

/-- Takes an operator. -/
def op (o : Op) : Parser Token := kind (.op o)

/-- Takes a reserved word. -/
def word (w : Word) : Parser Token := kind (.word w)

/-- Takes a name and gives its token. -/
def nameToken : Parser Token := accept fun t => match t.kind with
  | .name _ => some t
  | _ => none

/-- Takes a name that is spelled as given, a word reserved only in its place. -/
def softWord (s : String) : Parser Token := accept fun t => match t.kind with
  | .name n => if n = Text.of s then some t else none
  | _ => none

/-- Takes a string literal. -/
def stringToken : Parser Token := accept fun t => match t.kind with
  | .string _ => some t
  | _ => none

/-- Takes an operator that must come next. -/
def forced (o : Op) (shown : String) : Parser Token := do
  let t ← peek
  if t.kind = .op o then advance; return t
  else abortAt t.row (Text.of "expected '" ++ Text.of shown ++ ['\''])

/-! ### Spans -/

/-- The span from a token to the last text taken. -/
def spanFrom (start : Token) : Parser Span := fun _ i m =>
  .ok ⟨start.row, start.col, i.endRow, i.endCol⟩ i m

/-- Reads `p` and gives it the span of what it took. -/
def spanned (p : Parser (Span → α)) : Parser α := do
  let start ← peek
  let f ← p
  return f (← spanFrom start)

/-- Remembers the results of `p` as those of a rule. -/
def remember (r : Rule) (p : Parser r.Result) : Parser r.Result := fun faults i m =>
  match peek faults i m with
  | .fail m => .fail m
  | .abort e m => .abort e m
  | .ok t _ m =>
    match m.recall r t.index with
    | some (some (a, i)) => .ok a i m
    | some none => .fail m
    | none =>
      match p faults i m with
      | .ok a i m => .ok a i (m.record t.index ⟨r, some (a, i)⟩)
      | .fail m => .fail (m.record t.index ⟨r, none⟩)
      | .abort e m => .abort e m

/-! ### A whole reading -/

/-- The fault that is reported for `e`, which the grammar met. A source that cannot be read to its
end has that fault instead: always if it is definite, else if it is an open bracket before the
farthest token looked at. -/
def reported (tokens : List Token) (m : Memory) (e : Fault) : Fault :=
  match tokens.getLast?, m.reach with
  | some last, some t =>
    if t.index = last.index then e
    else match last.kind with
      | .fault ⟨f, true, _⟩ => f
      | .fault ⟨_, false, some row⟩ =>
        if row < t.row then ⟨row, Text.of "bracket was never closed"⟩ else e
      | _ => e
  | _, _ => e

/-- **Reads tokens** with `p`: once, and a second time for an explanation if that fails. -/
def run (p : Parser α) (tokens : List Token) : Except Fault α :=
  let input : Input := ⟨tokens, 0, 0⟩
  let start := Memory.fresh tokens.length
  match p false input start with
  | .ok a _ _ => .ok a
  | .abort e m => .error (reported tokens m e)
  | .fail m =>
    let again := p true input { start with reach := m.reach }
    match again with
    | .abort e m => .error (reported tokens m e)
    | .ok _ _ m' | .fail m' =>
      match m.reach with
      | some t =>
        if t.kind = .indent || t.kind = .dedent then
          .error ⟨m'.reachRow, Text.of "unexpected indent"⟩
        else .error (reported tokens m' ⟨t.row, Text.of "invalid syntax"⟩)
      | none => .error ⟨0, Text.of "invalid syntax"⟩

end Parser

/-! ### The rules that are reached through themselves -/

namespace Rules

/-- The rule of expressions. -/
def expression (self : Rules) : Parser Expr := self .expression
/-- The rule of operands joined by `or`. -/
def disjunction (self : Rules) : Parser Expr := self .disjunction
/-- The rule of operands joined by a bar. -/
def bitOr (self : Rules) : Parser Expr := self .bitOr
/-- The rule of signed operands. -/
def factor (self : Rules) : Parser Expr := self .factor
/-- The rule of expressions that a star may mark. -/
def starExpression (self : Rules) : Parser Expr := self .starExpression
/-- The rule of the arguments of a call. -/
def arguments (self : Rules) : Parser (List Expr × List Keyword) := self .arguments
/-- The rule of targets that a star may mark. -/
def starTarget (self : Rules) : Parser Expr := self .starTarget
/-- The rule of blocks. -/
def block (self : Rules) : Parser (List Stmt) := self .block

end Rules
end ApiPage.Syntax
