import ApiPage.Syntax.Tree
import ApiPage.Text.Quoted

/-!
# Quotes of printed strings

How a string is quoted where escapes are to be kept few: in formatted strings, in their fields and
in docstrings. Of the quotes that fit, the first is taken; one that the text ends in comes last.

## Main definitions

* `literalForm`: the text between the quotes, and the quotes that fit.
* `formattedLiteral`: a formatted string from its pieces.
-/

namespace ApiPage.Syntax.Printer

open Text (escapeCode)

/-- Quotes of one character. -/
def singleQuotes : List Text := [['\''], ['"']]

/-- Quotes of three characters. -/
def tripleQuotes : List Text := [['"', '"', '"'], ['\'', '\'', '\'']]

/-- All quotes, in the order in which they are preferred. -/
def allQuotes : List Text := singleQuotes ++ tripleQuotes

/-- **Form of a literal**: the text between the quotes, and the quotes that may enclose it. -/
structure LiteralForm where
  body : Text
  quotes : List Text

/-- One code point of a literal. Newlines and tabs are escaped only if `escapeLayout` says so. -/
def literalCode (escapeLayout : Bool) (n : Nat) : Text :=
  if (n = 10 || n = 9) && !escapeLayout then [Char.ofNat n]
  else if n = 92 || !Text.isPrintable n then escapeCode n
  else [Char.ofNat n]

/-- A literal that none of `quotes` can enclose without escapes. -/
def escapedForm (quotes : List Text) (s : List Nat) : LiteralForm :=
  let r := Text.quote s
  let q := Text.quoteFor s
  ⟨(r.drop 1).dropLast, [(quotes.find? (·.contains q)).getD [q]]⟩

/-- **The form of a string** among some quotes. -/
def literalForm (quotes : List Text) (escapeLayout : Bool) (s : List Nat) : LiteralForm :=
  let body := s.flatMap (literalCode escapeLayout)
  let fits := quotes.filter fun q =>
    (q.length = 3 || !body.contains '\n') && !Text.hasInfix body q
  match body.getLast? with
  | none => if fits.isEmpty then escapedForm quotes s else ⟨body, fits⟩
  | some c =>
    let ends (q : Text) : Bool := q.head? == some c
    match fits.filter (!ends ·) ++ fits.filter ends with
    | [] => escapedForm quotes s
    | q :: qs => ⟨if ends q then body.dropLast ++ ['\\', c] else body, q :: qs⟩

/-- The literal of a string with few escapes. -/
def plainLiteral (quotes : List Text) (s : List Nat) : Text :=
  let form := literalForm quotes false s
  let q := form.quotes.headD []
  q ++ form.body ++ q

/-- Code points of text with its braces doubled. -/
def doubleBraces (s : List Nat) : List Nat :=
  s.flatMap fun n => if n = 123 || n = 125 then [n, n] else [n]

/-- **Piece** of a formatted string: its code points, and whether it is text rather than a field. -/
structure Piece where
  codes : List Nat
  isText : Bool

/-- The pieces in one form, if some of `quotes` enclose them all. -/
def joinPieces : (quotes : List Text) → List Piece → Option LiteralForm
  | quotes, [] => some ⟨[], quotes⟩
  | quotes, p :: ps =>
    let form := literalForm quotes p.isText p.codes
    if form.quotes.all fun q => !quotes.contains q then none
    else (joinPieces form.quotes ps).map fun rest => { rest with body := form.body ++ rest.body }

/-- One piece in apostrophes, fully escaped. -/
def escapedPiece (p : Piece) : Text := ((Text.quote (34 :: p.codes)).drop 2).dropLast

/-- **A formatted string** without its letter. -/
def formattedLiteral (ps : List Piece) : Text :=
  match joinPieces allQuotes ps with
  | some form =>
    let q := form.quotes.headD []
    q ++ form.body ++ q
  | none =>
    let q := Text.of "'''"
    q ++ ps.flatMap escapedPiece ++ q

end ApiPage.Syntax.Printer
