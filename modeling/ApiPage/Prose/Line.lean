import ApiPage.Html
import ApiPage.Prose.Url

/-!
# Links inside a line of prose

URLs link to themselves, references to an RFC link to its text, and names are offered to a resolver.
A name is offered only where the characters around it make a reference likely, and never after an
odd number of quotation marks: a missed link is better than a false one.

## Main definitions

* `convertQuotes`: doubled backticks and apostrophes as quotation marks.
* `pieces`: a converted line as plain text, links and offered names.
* `formatLine`: the HTML of a line.
-/

namespace ApiPage.Prose

/-! ### Quotation marks -/

/-- Doubled backticks become an opening quotation mark. -/
def openQuotes : Text → Text
  | '\x60' :: '\x60' :: r => '“' :: openQuotes r
  | c :: r => c :: openQuotes r
  | [] => []

/-- Doubled apostrophes become a closing quotation mark. -/
def closeQuotes : Text → Text
  | '\'' :: '\'' :: r => '”' :: closeQuotes r
  | c :: r => c :: closeQuotes r
  | [] => []

/-- **Converted quotes** of a text. -/
def convertQuotes (t : Text) : Text := closeQuotes (openQuotes t)

/-- A quotation mark that opens or closes a quoted span. -/
def isQuote (c : Char) : Bool := c == '"' || c == '“' || c == '”'

/-- The number of quotation marks in a text. -/
def countQuotes (t : Text) : Nat := t.countP isQuote

/-! ### Pieces of a line -/

/-- **Piece** of a line: plain text, a link of its own, or a name that is offered for linking. -/
inductive Piece
  | plain (text : Text)
  | link (href label : Text)
  | name (word : Text)
  deriving DecidableEq, Inhabited

/-- The text that a piece shows. -/
def Piece.shown : Piece → Text
  | plain t => t
  | link _ label => label
  | name w => w

/-- The characters a name may follow; NUL stands for the start of the line. -/
def nameMayFollow (c : Char) : Bool := (Text.of "\x00 \t()[]*\n").contains c

/-- The characters a name may precede; NUL stands for the end of the line. -/
def nameMayPrecede (c : Char) : Bool := (Text.of "\x00 \t()[]:;,.'\n").contains c

/-- Where the text of an RFC is found. -/
def rfcUrl (number : Text) : Text :=
  Text.of "https://rfc-editor.org/rfc/rfc" ++ number ++ Text.of ".html"

/-- The link of a reference to an RFC. -/
def rfcPiece (w : Text) : Piece :=
  match rfcFields w with
  | _ :: number :: _ :: part :: _ => .link (rfcUrl number ++ Text.of "#section-" ++ part) w
  | _ :: number :: _ => .link (rfcUrl number) w
  | _ => .plain w

/-- The reference at the start of a text: its piece and its length. `before` is the plain character
it follows, and `quotes` the number of quotation marks before it. -/
def reference? (before : Char) (quotes : Nat) (t : Text) : Option (Piece × Nat) :=
  match urlLength? t with
  | some n =>
    let url := trimUrl (t.take n)
    some (.link url url, url.length)
  | none =>
    match rfcLength? t with
    | some n => some (rfcPiece (t.take n), n)
    | none =>
      match nameLength? t with
      | some n =>
        let w := t.take n
        let after := (t.drop n).head?.getD '\x00'
        if nameMayFollow before && nameMayPrecede after && quotes % 2 = 0 then some (.name w, n)
        else some (.plain w, n)
      | none => none

/-- The pieces of a text, of which the first `skip` characters are already placed. `before` is the
last character that belongs to no reference. -/
def piecesFrom (before : Char) (quotes : Nat) : Nat → Text → List Piece
  | _, [] => []
  | skip + 1, c :: r => piecesFrom before (quotes + countQuotes [c]) skip r
  | 0, c :: r =>
    match reference? before quotes (c :: r) with
    | some (p, n + 1) => p :: piecesFrom before (quotes + countQuotes [c]) n r
    | _ => .plain [c] :: piecesFrom c (quotes + countQuotes [c]) 0 r

/-- **Pieces** of a line whose quotes are converted. -/
def pieces (t : Text) : List Piece := piecesFrom '\x00' 0 0 t

/-- The names of a line that are offered for linking. -/
def offeredNames (t : Text) : List Text :=
  (pieces (convertQuotes t)).filterMap fun
    | .name w => some w
    | _ => none

/-! ### HTML -/

/-- The HTML of a piece. Names go through `resolve` if there is one. -/
def Piece.html (resolve : Option (Text → Text)) : Piece → Text
  | plain t => Html.escape t
  | link href label => Html.link href label
  | name w => match resolve with
    | some f => f w
    | none => Html.escape w

/-- **HTML of a line**. Without a resolver names are plain text; URLs and RFCs are linked anyway. -/
def formatLine (resolve : Option (Text → Text)) (line : Text) : Text :=
  (pieces (convertQuotes line)).flatMap (Piece.html resolve)

/-- The HTML of some lines, a newline after each. -/
def formatLines (resolve : Option (Text → Text)) (ls : List Text) : Text :=
  ls.flatMap fun l => formatLine resolve l ++ ['\n']

end ApiPage.Prose
