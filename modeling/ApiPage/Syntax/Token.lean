import ApiPage.Text.Basic
import ApiPage.Text.Identifier

/-!
# Tokens of module source

What the grammar reads: names, keywords, numbers, strings, operators, and the marks of line ends and
indentation. A stream of tokens always ends, either in an end mark or in a fault; a fault is met
only by a reader that goes so far.

## Main definitions

* `Fault`: a syntax error with the row it is reported on.
* `Token`: a token with its place and the number of brackets open after it.
-/

namespace ApiPage.Syntax

/-- The reserved words. -/
inductive Word
  | False | None | True | and | as | assert | async | await | break | classWord | continue
  | defWord | del | elif | else | except | finally | for | from | global | if | import | in | is
  | lambda | nonlocal | not | or | pass | raise | return | try | while | with | yield
  deriving DecidableEq, Inhabited

/-- The spellings of the reserved words. -/
def Word.spellings : List (Text × Word) :=
  [("False", False), ("None", None), ("True", True), ("and", and), ("as", as), ("assert", assert),
    ("async", async), ("await", await), ("break", «break»), ("class", classWord),
    ("continue", «continue»), ("def", defWord), ("del", del), ("elif", elif), ("else", «else»),
    ("except", except), ("finally", «finally»), ("for", «for»), ("from", «from»),
    ("global", global), ("if", «if»), ("import", «import»), ("in", «in»), ("is", is),
    ("lambda", lambda), ("nonlocal", nonlocal), ("not", not), ("or", or), ("pass", pass),
    ("raise", raise), ("return", «return»), ("try", «try»), ("while", «while»), ("with", «with»),
    ("yield", yield)].map fun (s, w) => (Text.of s, w)

/-- The reserved word that a text spells. -/
def Word.ofText? (t : Text) : Option Word := Word.spellings.lookup t

/-- The operators and delimiters. `lessGreater` is read but belongs to no expression. -/
inductive Op
  | lpar | rpar | lsqb | rsqb | lbrace | rbrace | colon | comma | semi | plus | minus | star | slash
  | bar | amper | less | greater | equal | dot | percent | eqEqual | notEqual | lessGreater
  | lessEqual | greaterEqual | tilde | circumflex | leftShift | rightShift | doubleStar | plusEqual
  | minusEqual | starEqual | slashEqual | percentEqual | amperEqual | barEqual | circumflexEqual
  | leftShiftEqual | rightShiftEqual | doubleStarEqual | doubleSlash | doubleSlashEqual | at
  | atEqual | arrow | ellipsis | colonEqual
  deriving DecidableEq, Inhabited

/-- The operator of three characters. -/
def Op.ofThree? : Char → Char → Char → Option Op
  | '*', '*', '=' => some .doubleStarEqual
  | '.', '.', '.' => some .ellipsis
  | '/', '/', '=' => some .doubleSlashEqual
  | '<', '<', '=' => some .leftShiftEqual
  | '>', '>', '=' => some .rightShiftEqual
  | _, _, _ => none

/-- The operator of two characters. -/
def Op.ofTwo? : Char → Char → Option Op
  | '!', '=' => some .notEqual
  | '%', '=' => some .percentEqual
  | '&', '=' => some .amperEqual
  | '*', '*' => some .doubleStar
  | '*', '=' => some .starEqual
  | '+', '=' => some .plusEqual
  | '-', '=' => some .minusEqual
  | '-', '>' => some .arrow
  | '/', '/' => some .doubleSlash
  | '/', '=' => some .slashEqual
  | ':', '=' => some .colonEqual
  | '<', '<' => some .leftShift
  | '<', '=' => some .lessEqual
  | '<', '>' => some .lessGreater
  | '=', '=' => some .eqEqual
  | '>', '=' => some .greaterEqual
  | '>', '>' => some .rightShift
  | '@', '=' => some .atEqual
  | '^', '=' => some .circumflexEqual
  | '|', '=' => some .barEqual
  | _, _ => none

/-- The operator of one character. -/
def Op.ofOne? : Char → Option Op
  | '%' => some .percent
  | '&' => some .amper
  | '(' => some .lpar
  | ')' => some .rpar
  | '*' => some .star
  | '+' => some .plus
  | ',' => some .comma
  | '-' => some .minus
  | '.' => some .dot
  | '/' => some .slash
  | ':' => some .colon
  | ';' => some .semi
  | '<' => some .less
  | '=' => some .equal
  | '>' => some .greater
  | '@' => some .at
  | '[' => some .lsqb
  | ']' => some .rsqb
  | '^' => some .circumflex
  | '\x7b' => some .lbrace
  | '|' => some .bar
  | '\x7d' => some .rbrace
  | '~' => some .tilde
  | _ => none

/-- **Fault** of source: the row it is reported on and what is wrong. -/
structure Fault where
  row : Nat
  message : Text
  deriving DecidableEq, Inhabited

/-- How reading the source ends at a fault. A *definite* fault is an error wherever reading has come
to; any other is one only for a grammar that needs the token. `openRow` is the row of the innermost
bracket that is open there. -/
structure Ending where
  fault : Fault
  definite : Bool
  openRow : Option Nat
  deriving DecidableEq, Inhabited

/-- What a token is. `stray` is a printable character that no construct uses. -/
inductive TokenKind
  | name (text : Text)
  | word (w : Word)
  | number (text : Text)
  | string (text : Text)
  | op (o : Op)
  | stray
  | newline
  | indent
  | dedent
  | endMark
  | fault (e : Ending)
  deriving DecidableEq, Inhabited

/-- **Token** with its place in the stream, its span, and the brackets open after it. -/
structure Token where
  kind : TokenKind
  index : Nat
  row : Nat
  col : Nat
  endRow : Nat
  endCol : Nat
  depth : Nat
  deriving Inhabited

/-- The token stands for text, not for the layout around it. -/
def Token.isSolid (t : Token) : Bool :=
  match t.kind with
  | .newline | .indent | .dedent | .endMark => false
  | _ => true

end ApiPage.Syntax
