import ApiPage.Text.Basic

/-!
# Pieces of example code

Example code is cut into comments, strings and the rest, for display. What cuts it is a lexer of the
language, and which one that is does not matter here: examples are displayed by any lexer, and what
is relied on is said of the lexer.

## Main definitions

* `Lexer`: a way to cut texts into pieces.
* `Lexer.Concatenates`: the pieces make up the text.
* `Lexer.Cuts`: they do, and none is empty.
* `Lexer.TakesCommentLines`: each line that is a comment is one piece.
-/

namespace ApiPage.Example

/-- **Shade**: what a piece of code is shown as. -/
inductive Shade
  | comment | string | other
  deriving DecidableEq, Inhabited

/-- **Piece** of example code. -/
structure Piece where
  shade : Shade
  text : Text
  deriving DecidableEq, Inhabited

/-- **Lexer**: a way to cut texts into pieces. -/
abbrev Lexer := Text → List Piece

/-! ### What lexers promise -/

/-- The texts of the comments among pieces. -/
def commentTexts (ps : List Piece) : List Text :=
  (ps.filter (·.shade = .comment)).map Piece.text

/-- **A lexer that loses nothing**: the pieces make up the text. -/
def Lexer.Concatenates (lexer : Lexer) : Prop := ∀ t, (lexer t).flatMap Piece.text = t

/-- **A lexer that cuts texts**: the pieces make up the text, and none of them is empty. -/
structure Lexer.Cuts (lexer : Lexer) : Prop where
  concatenates : lexer.Concatenates
  text_ne (t : Text) : ∀ p ∈ lexer t, p.text ≠ []

/-- A comment that takes all of its line. -/
def IsCommentLine (l : Text) : Prop := ∃ w, l = '#' :: w ∧ '\n' ∉ w

/-- **A lexer that takes comments by the line**: of lines that are comments, each is one piece. -/
def Lexer.TakesCommentLines (lexer : Lexer) : Prop :=
  ∀ ls : List Text, (∀ l ∈ ls, IsCommentLine l) → commentTexts (lexer (Text.joinLines ls)) = ls

end ApiPage.Example
