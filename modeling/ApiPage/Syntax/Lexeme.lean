import ApiPage.Syntax.Token
import ApiPage.Text.Letter

/-!
# Lexemes

The pieces of source as they are written, with comments and line ends. Reading them is lenient: a
character that begins nothing is a piece of its own, and brackets need not match. Only an unfinished
statement, an unfinished string and an indentation that fits no outer one are errors.

## Conventions

Lines end at `\n` alone. Rows count from one, columns count characters from zero.

## Main definitions

* `Lexeme`: a piece with its place.
* `lexemes`: the pieces of a text.
-/

namespace ApiPage.Syntax

/-- What a piece of source is. `newline` ends a statement and `lineBreak` does not; `stray` begins
nothing. -/
inductive LexemeKind
  | name | number | string | op | comment | newline | lineBreak | indent | dedent | stray | endMark
  deriving DecidableEq, Inhabited

/-- **Lexeme**: a piece of source with its first row and column and its last row. -/
structure Lexeme where
  kind : LexemeKind
  text : Text
  row : Nat
  col : Nat
  endRow : Nat
  deriving DecidableEq, Inhabited

/-- Why a text has no lexemes. -/
inductive LexError
  | openStatement (row : Nat)
  | openString (row col : Nat)
  | badDedent (row : Nat)
  deriving DecidableEq

/-- The wording of an error. -/
def LexError.message : LexError → Text
  | openStatement row =>
    Text.of "('EOF in multi-line statement', (" ++ Text.ofNat row ++ Text.of ", 0))"
  | openString row col =>
    Text.of "('EOF in multi-line string', (" ++ Text.ofNat row ++ Text.of ", " ++ Text.ofNat col ++
      Text.of "))"
  | badDedent row =>
    Text.of "unindent does not match any outer indentation level (<tokenize>, line " ++
      Text.ofNat row ++ [')']

namespace Lexer

/-! ### Numbers -/

/-- The length of a run of `p` in which single underscores may stand between. -/
def runLength (p : Char → Bool) : Text → Nat
  | [] => 0
  | '_' :: c :: t => if p c then runLength p t + 2 else 0
  | c :: t => if p c then runLength p t + 1 else 0

/-- A decimal digit. -/
def isDigit (c : Char) : Bool := '0' ≤ c && c ≤ '9'

/-- The length of digits that begin with a digit. -/
def digitsLength : Text → Nat
  | c :: t => if isDigit c then runLength isDigit t + 1 else 0
  | [] => 0

/-- The length of an exponent. -/
def exponentLength : Text → Nat
  | e :: t =>
    if e == 'e' || e == 'E' then
      let signed := match t with
        | '+' :: _ | '-' :: _ => 1
        | _ => 0
      match digitsLength (t.drop signed) with
      | 0 => 0
      | n => n + signed + 1
    else 0
  | [] => 0

/-- The length with an imaginary mark, if there is one. -/
def withImaginary (n : Nat) (t : Text) : Nat :=
  match t.drop n with
  | 'j' :: _ | 'J' :: _ => n + 1
  | _ => n

/-- The length of a number in a base that a letter names. -/
def radixLength (p : Char → Bool) (t : Text) : Option Nat :=
  match runLength p t with
  | 0 => none
  | n => some (n + 2)

/-- The length of a whole number. -/
def wholeLength : Text → Nat
  | '0' :: t =>
    let zeros := runLength (· == '0') t + 1
    let based := match t with
      | c :: r =>
        if c == 'x' || c == 'X' then
          radixLength (fun d => isDigit d || ('a' ≤ d && d ≤ 'f') || ('A' ≤ d && d ≤ 'F')) r
        else if c == 'b' || c == 'B' then radixLength (fun d => d == '0' || d == '1') r
        else if c == 'o' || c == 'O' then radixLength (fun d => '0' ≤ d && d ≤ '7') r
        else none
      | [] => none
    based.getD zeros
  | t => digitsLength t

/-- The length of the number at the start of a text; zero if there is none. -/
def numberLength (t : Text) : Nat :=
  let n := digitsLength t
  match n, t.drop n with
  | 0, '.' :: r =>
    match digitsLength r with
    | 0 => 0
    | m => withImaginary (m + 1 + exponentLength (r.drop m)) t
  | 0, _ => 0
  | n, '.' :: r =>
    let m := digitsLength r
    withImaginary (n + 1 + m + exponentLength (r.drop m)) t
  | n, r =>
    match exponentLength r with
    | 0 => if withImaginary n t = n then wholeLength t else n + 1
    | m => withImaginary (n + m) t

/-! ### Strings -/

/-- The letters that may stand before a quote, in lower case. -/
def stringLetters : List Text := ["", "b", "r", "u", "f", "br", "rb", "fr", "rf"].map Text.of

/-- The length of the letters before the quote of a string, if the text starts with one. -/
def lettersLength? (t : Text) : Option Nat :=
  let letters := (t.take 3).takeWhile fun c => c != '\'' && c != '"'
  let quoted := match t.drop letters.length with
    | c :: _ => c == '\'' || c == '"'
    | [] => false
  if quoted && stringLetters.contains (letters.map Char.toLower) then some letters.length else none

/-- The length of a string of one quote up to its end, which may be an escaped line end instead. -/
def singleLength (q : Char) : Text → Option Nat
  | [] => none
  | '\\' :: '\n' :: _ => some 2
  | '\\' :: '\r' :: '\n' :: _ => some 3
  | '\\' :: _ :: t => (singleLength q t).map (· + 2)
  | c :: t =>
    if c == q then some 1
    else if c == '\n' || c == '\\' then none
    else (singleLength q t).map (· + 1)

/-- The length of the rest of a string up to and with its closing quotes, on one line. -/
def restLength (q : Char) (triple : Bool) : Text → Option Nat
  | [] => none
  | '\\' :: c :: t => if c == '\n' then none else (restLength q triple t).map (· + 2)
  | c :: t =>
    if c == '\\' then none
    else if c == q then
      if !triple then some 1
      else if [q, q].isPrefixOf t then some 3
      else (restLength q triple t).map (· + 1)
    else (restLength q triple t).map (· + 1)

/-! ### Pieces of a line -/

/-- **Piece of a line** by its kind and length. `joint` joins the next line. The last two leave a
string open. -/
inductive Piece
  | lexeme (kind : LexemeKind) (size : Nat)
  | joint (size : Nat)
  | opened (q : Char) (triple : Bool)
  | nothing

/-- The length of the operator at the start of a text. -/
def opLength : Text → Option Nat
  | a :: b :: c :: _ =>
    if (Op.ofThree? a b c).isSome then some 3
    else if isOpPair a b then some 2
    else (Op.ofOne? a).map fun _ => 1
  | [a, b] => if isOpPair a b then some 2 else (Op.ofOne? a).map fun _ => 1
  | [a] => (Op.ofOne? a).map fun _ => 1
  | [] => none
where
  /-- Two characters are an operator that is used. -/
  isOpPair (a b : Char) : Bool :=
    match Op.ofTwo? a b with
    | some .lessGreater => false
    | some _ => true
    | none => false

/-- The string at the start of a text. -/
def stringPiece (t : Text) : Option Piece :=
  match lettersLength? t with
  | none => none
  | some n =>
    match t.drop n with
    | q :: r =>
      if [q, q].isPrefixOf r then
        some (match restLength q true (r.drop 2) with
          | some m => .lexeme .string (n + 3 + m)
          | none => .opened q true)
      else (singleLength q r).map fun m =>
        if (r.take m).getLast? == some '\n' then .opened q false else .lexeme .string (n + 1 + m)
    | [] => none

/-- The piece at the start of what is left of a line, which begins with no blank. -/
def pieceAt (t : Text) : Piece :=
  match t with
  | [] => .nothing
  | '\\' :: '\n' :: _ => .joint 2
  | '\\' :: '\r' :: '\n' :: _ => .joint 3
  | '#' :: r => .lexeme .comment (1 + (r.takeWhile fun c => c != '\r' && c != '\n').length)
  | '\n' :: _ => .lexeme .newline 1
  | '\r' :: '\n' :: _ => .lexeme .newline 2
  | c :: _ =>
    match stringPiece t with
    | some p => p
    | none =>
      match numberLength t with
      | n + 1 => .lexeme .number (n + 1)
      | 0 =>
        match opLength t with
        | some n => .lexeme .op n
        | none =>
          match (t.takeWhile fun c => Text.isWord c.toNat).length with
          | 0 => .lexeme .stray 1
          | n => .lexeme (if Text.isNameStart c.toNat then .name else .op) n

/-! ### Lines -/

/-- **String that is open** at the end of a line: its text so far, its place, and its quote. -/
structure OpenString where
  text : Text
  row : Nat
  col : Nat
  quote : Char
  triple : Bool

/-- **State between lines**: the nesting of brackets, whether the last line is joined to the next,
the open string, whether a line end must be escaped inside a string, the indentations, and the
lexemes so far, last first. -/
structure State where
  nesting : Int
  joined : Bool
  openString : Option OpenString
  strict : Bool
  indents : List Nat
  found : List Lexeme

/-- The state with one lexeme more. -/
def State.push (s : State) (l : Lexeme) : State := { s with found := l :: s.found }

/-- A blank between pieces. -/
def isGap (c : Char) : Bool := c == ' ' || c == '\t' || c == '\x0c'

/-- What a bracket adds to the nesting. -/
def nestingOf : Text → Int
  | ['('] | ['['] | ['\x7b'] => 1
  | [')'] | [']'] | ['\x7d'] => -1
  | _ => 0

/-- Reads what is left of a line from column `col`. The first argument bounds the steps. -/
def scan (row : Nat) : Nat → (col : Nat) → Text → State → State
  | 0, _, _, s => s
  | fuel + 1, col, t, s =>
    let gap := (t.takeWhile isGap).length
    let r := t.drop gap
    let start := col + gap
    match pieceAt r with
    | .nothing => s
    | .joint n => scan row fuel (start + n) (r.drop n) { s with joined := true }
    | .opened q triple =>
      { s with
        openString := some ⟨r, row, start, q, triple⟩
        strict := s.strict || !triple }
    | .lexeme .stray _ =>
      scan row fuel (col + 1) (t.drop 1) (s.push ⟨.stray, t.take 1, row, col, row⟩)
    | .lexeme kind n =>
      let text := r.take n
      let kind := if kind = .newline && 0 < s.nesting then .lineBreak else kind
      let s := if kind = .op then { s with nesting := s.nesting + nestingOf text } else s
      scan row fuel (start + n) (r.drop n) (s.push ⟨kind, text, row, start, row⟩)

/-- Reads what is left of a line. -/
def scanRest (row col : Nat) (t : Text) (s : State) : State := scan row (t.length + 1) col t s

/-- The width of blanks, with tabs to multiples of eight. -/
def widthOf (width : Nat) : Text → Nat
  | [] => width
  | c :: t =>
    if c == ' ' then widthOf (width + 1) t
    else if c == '\t' then widthOf ((width / 8 + 1) * 8) t
    else widthOf 0 t

/-- Closes the indentations wider than `width`, of which the innermost come first. -/
def closeIndents (row col width : Nat) : List Nat → State → Except LexError State
  | [], s => .ok { s with indents := [] }
  | i :: is, s =>
    if width < i then
      if is.contains width then closeIndents row col width is (s.push ⟨.dedent, [], row, col, row⟩)
      else .error (.badDedent row)
    else .ok { s with indents := i :: is }

/-- Reads a line that begins a statement. The flag says that the text ends with it. -/
def readStatement (row : Nat) (line : Text) (s : State) : Except LexError (State × Bool) :=
  let blanks := line.takeWhile isGap
  let col := blanks.length
  match line.drop col with
  | [] => .ok (s, true)
  | '#' :: r =>
    let comment := Text.dropEnd (fun c => c == '\r' || c == '\n') ('#' :: r)
    let s := s.push ⟨.comment, comment, row, col, row⟩
    let stop := col + comment.length
    .ok (s.push ⟨.lineBreak, line.drop stop, row, stop, row⟩, false)
  | c :: r =>
    if c == '\r' || c == '\n' then .ok (s.push ⟨.lineBreak, c :: r, row, col, row⟩, false)
    else
      let width := widthOf 0 blanks
      let current := s.indents.headD 0
      if current < width then
        let s := { s with indents := width :: s.indents }
        .ok (scanRest row col (c :: r) (s.push ⟨.indent, blanks, row, 0, row⟩), false)
      else do
        let s ← closeIndents row col width s.indents s
        return (scanRest row col (c :: r) s, false)

/-- Reads a line inside an open string. -/
def readString (row : Nat) (line : Text) (o : OpenString) (s : State) : State :=
  match restLength o.quote o.triple line with
  | some n =>
    let s := s.push ⟨.string, o.text ++ line.take n, o.row, o.col, row⟩
    scanRest row n (line.drop n) { s with openString := none, strict := false }
  | none =>
    let escaped := Text.endsWith line ['\\', '\n'] || Text.endsWith line ['\\', '\r', '\n']
    if s.strict && !escaped then
      { s.push ⟨.stray, o.text ++ line, o.row, o.col, row⟩ with openString := none }
    else { s with openString := some { o with text := o.text ++ line } }

/-- The lexemes at the end of a text: the end of its last statement if the last line has none, and
the ends of its indentations. -/
def finish (row : Nat) (last : Text) (s : State) : List Lexeme :=
  let ends := match last.getLast? with
    | none => true
    | some c => c == '\r' || c == '\n' || (Text.strip last).head? == some '#'
  let s := if ends then s else s.push ⟨.newline, [], row - 1, last.length, row - 1⟩
  let s := (s.indents.filter (0 < ·)).foldl (fun s _ => s.push ⟨.dedent, [], row, 0, row⟩) s
  (s.push ⟨.endMark, [], row, 0, row⟩).found.reverse

/-- Reads the lines from a row on; `last` is the line before them. -/
def readLines : (row : Nat) → (last : Text) → List Text → State → Except LexError (List Lexeme)
  | row, last, [], s =>
    match s.openString with
    | some o => .error (.openString o.row o.col)
    | none =>
      if s.nesting = 0 && !s.joined then .ok (finish row last s)
      else .error (.openStatement row)
  | row, last, line :: lines, s =>
    match s.openString with
    | some o => readLines (row + 1) line lines (readString row line o s)
    | none =>
      if s.nesting = 0 && !s.joined then
        match readStatement row line s with
        | .error e => .error e
        | .ok (s, true) => .ok (finish row last s)
        | .ok (s, false) => readLines (row + 1) line lines s
      else readLines (row + 1) line lines (scanRest row 0 line { s with joined := false })

end Lexer

/-- **The lexemes of a text**. -/
def lexemes (t : Text) : Except LexError (List Lexeme) :=
  Lexer.readLines 1 [] (Text.linesWithEnds t) ⟨0, false, none, false, [0], []⟩

end ApiPage.Syntax
