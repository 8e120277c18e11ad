import ApiPage.Syntax.Lexeme

/-!
# Comments of a module

The comments of module source by row, and the rows that hold code.

## Main definitions

* `Comments.ofText`: the comments of a source text.
* `Comments.leading`: the comments directly above a row.
* `Comments.trailing?`: the comment that shares a row with code.
-/

namespace ApiPage

open Syntax (Lexeme LexemeKind LexError lexemes)

/-- **Comments** by row, and the rows that hold code. -/
structure Comments where
  entries : List (Nat × Text)
  codeRows : List Nat
  deriving DecidableEq, Inhabited

namespace Comments

/-- The lexeme is code: neither a comment nor layout. -/
def isCode (l : Lexeme) : Bool :=
  match l.kind with
  | .comment | .lineBreak | .newline | .indent | .dedent | .endMark => false
  | _ => true

/-- `entries` with the comment of a row set. -/
def setRow (row : Nat) (t : Text) : List (Nat × Text) → List (Nat × Text)
  | [] => [(row, t)]
  | (r, u) :: es => if r = row then (r, t) :: es else (r, u) :: setRow row t es

/-- The comments by row; the last of a row counts. -/
def entriesOf (ls : List Lexeme) : List (Nat × Text) :=
  ls.foldl (fun es l => if l.kind = .comment then setRow l.row l.text es else es) []

/-- The rows of some lexemes that come after `last`. Lexemes come in the order of their rows. -/
def codeRowsFrom : (last : Nat) → List Lexeme → List Nat
  | _, [] => []
  | last, l :: ls =>
    if isCode l then
      let first := max l.row (last + 1)
      List.range' first (l.endRow + 1 - first) ++ codeRowsFrom (max last l.endRow) ls
    else codeRowsFrom last ls

/-- The comments among some lexemes. -/
def ofLexemes (ls : List Lexeme) : Comments := ⟨entriesOf ls, codeRowsFrom 0 ls⟩

/-- **The comments of a source text**. -/
def ofText (t : Text) : Except LexError Comments := do return ofLexemes (← lexemes t)

/-- The comment of a row. -/
def at? (cs : Comments) (row : Nat) : Option Text := cs.entries.lookup row

/-- The row holds code. -/
def hasCode (cs : Comments) (row : Nat) : Bool := cs.codeRows.contains row

/-- A comment that speaks to tools and belongs to no documentation. -/
def isDirective (t : Text) : Bool :=
  Text.startsWith t ['#', '!'] || Text.hasInfix t (Text.of "-*- coding")

/-- The comments above row `n + 1`, the lowest first. -/
def above (cs : Comments) : (n : Nat) → List Text
  | 0 => []
  | n + 1 =>
    match cs.at? (n + 1) with
    | some t => if cs.hasCode (n + 1) || isDirective t then [] else t :: above cs n
    | none => []

/-- **The comments directly above a row**, from the top. -/
def leading (cs : Comments) (row : Nat) : List Text := (cs.above (row - 1)).reverse

/-- **The comment that shares a row with code**. -/
def trailing? (cs : Comments) (row : Nat) : Option Text :=
  if cs.hasCode row then cs.at? row else none

/-- The text of a comment: what follows its mark, a documentation sign and one space. -/
def textOf (comment : Text) : Text :=
  let t := comment.drop 1
  let t := match t with
    | ':' :: r => r
    | t => t
  let t := match t with
    | ' ' :: r => r
    | t => t
  Text.stripEnd t

end Comments
end ApiPage
