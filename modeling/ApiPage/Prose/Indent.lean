import ApiPage.Text.Basic

/-!
# Indentation

Removing the indentation that lines share. Two rules are in use: comments lose the longest common
run of spaces and tabs of their lines (`unindent`), and documentation strings lose the least
indentation of the lines after the first, tabs having become spaces (`cleanDoc`).
-/

namespace ApiPage.Prose

/-- The spaces and tabs a line begins with. -/
def indentOf (l : Text) : Text := l.takeWhile Text.isBlankChar

/-- **Indented**: the line begins with a space or a tab. -/
def isIndented : Text → Bool
  | [] => false
  | c :: _ => Text.isBlankChar c

/-- The longest text that both texts begin with. -/
def commonStart : Text → Text → Text
  | c :: s, d :: t => if c == d then c :: commonStart s t else []
  | _, _ => []

/-- The longest indentation shared by the lines that are not blank; `none` if all are blank. -/
def commonIndent? : List Text → Option Text
  | [] => none
  | l :: ls =>
    if Text.isBlank l then commonIndent? ls
    else match commonIndent? ls with
      | none => some (indentOf l)
      | some p => some (commonStart (indentOf l) p)

/-- **Unindenting**: every line loses the common indentation, and a blank line becomes empty. -/
def unindent (ls : List Text) : List Text :=
  let n := ((commonIndent? ls).getD []).length
  ls.map fun l => if Text.isBlank l then [] else l.drop n

/-- A text with its tabs replaced by spaces up to the next multiple of eight columns. -/
def expandTabs (col : Nat) : Text → Text
  | [] => []
  | c :: r =>
    if c == '\t' then List.replicate (8 - col % 8) ' ' ++ expandTabs (col + (8 - col % 8)) r
    else c :: expandTabs (if c == '\n' || c == '\r' then 0 else col + 1) r

/-- The white space a line begins with, counted. -/
def margin (l : Text) : Nat := (l.takeWhile Text.isSpaceChar).length

/-- The least margin of the lines that are not blank. -/
def leastMargin? : List Text → Option Nat
  | [] => none
  | l :: ls =>
    if Text.isBlank l then leastMargin? ls
    else match leastMargin? ls with
      | none => some (margin l)
      | some n => some (min (margin l) n)

/-- **Documentation text** of a string: tabs expanded, the first line without its margin, the others
without their least margin, and no empty lines at either end. -/
def cleanDoc (doc : Text) : Text :=
  match Text.lines (expandTabs 0 doc) with
  | [] => []
  | first :: rest =>
    let n := (leastMargin? rest).getD 0
    let ls := first.dropWhile Text.isSpaceChar :: rest.map (·.drop n)
    Text.joinLines ((ls.dropWhile List.isEmpty).reverse.dropWhile List.isEmpty).reverse

end ApiPage.Prose
