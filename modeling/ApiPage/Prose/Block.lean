import ApiPage.Prose.Indent
import ApiPage.Text.Letter
import ApiPage.Text.Case

/-!
# Blocks of a doc comment

A doc comment is cut into headings, paragraphs and preformatted blocks in one pass over its
unindented lines.

* A blank line ends a paragraph.
* A run of indented lines is preformatted, with the blank lines inside it but not those at its end.
* A line of its own, between blank lines and followed by prose, is a heading if it reads as a title.
* Every other line belongs to a paragraph.

## Main definitions

* `Block.ofText`: the blocks of a text.
* `title?`: the grammar of titles.
-/

namespace ApiPage.Prose

/-- **Block** of a doc comment. -/
inductive Block
  | heading (title : Text)
  | paragraph (lines : List Text)
  | preformat (lines : List Text)
  deriving DecidableEq, Inhabited

/-! ### Titles -/

/-- The characters that no title holds. -/
def titleBarred : Text := Text.of ";:!?+*/=[]\x7b\x7d_^°&§~%#@<\">\\"

/-- Every apostrophe is a possessive: an `s` follows it, and after that a space or the end. -/
def possessivesOnly : Text → Bool
  | [] => true
  | '\'' :: r =>
    (match r with
      | ['s'] => true
      | 's' :: ' ' :: _ => true
      | _ => false) && possessivesOnly r
  | _ :: r => possessivesOnly r

/-- Every period is inside a word: a character other than a space follows it. -/
def periodsInside : Text → Bool
  | [] => true
  | '.' :: r =>
    (match r with
      | [] => false
      | c :: _ => c != ' ') && periodsInside r
  | _ :: r => periodsInside r

/-- **Title**: the stripped line, if it begins with a capital, ends in a letter or digit, holds no
barred character, and uses apostrophes and periods as words do. -/
def title? (line : Text) : Option Text :=
  let t := Text.strip line
  match t, t.getLast? with
  | c :: _, some z =>
    if Text.isAlpha c.toNat && Text.isUpper c.toNat &&
        (Text.isAlpha z.toNat || Text.isDigit z.toNat) &&
        !t.any titleBarred.contains && possessivesOnly t && periodsInside t
    then some t else none
  | _, _ => none

/-! ### Segmentation -/

/-- What segmentation remembers: the lines of the open paragraph, in reverse, whether a blank line
came since the last line of prose, and whether the last block is a heading. -/
structure Segmenter where
  para : List Text
  blank : Bool
  heading : Bool

/-- The open paragraph as a block, if it has lines. -/
def Segmenter.close (s : Segmenter) : List Block :=
  if s.para.isEmpty then [] else [.paragraph s.para.reverse]

/-- The lines without the blank lines at the end. -/
def dropBlankEnd (ls : List Text) : List Text :=
  (ls.reverse.dropWhile Text.isBlank).reverse

/-- The lines of the preformatted block that starts with the first of `ls`. -/
def preformatRun (ls : List Text) : List Text :=
  dropBlankEnd (ls.takeWhile fun l => Text.isBlank l || isIndented l)

/-- The lines after a heading: a blank line, then a line of prose. -/
def proseFollows : List Text → Bool
  | b :: l :: _ => Text.isBlank b && !Text.isBlank l && !isIndented l
  | _ => false

/-- The blocks of the unindented lines after the first `skip` of them, which are already placed. -/
def segment (s : Segmenter) : Nat → List Text → List Block
  | _, [] => s.close
  | skip + 1, _ :: rest => segment s skip rest
  | 0, l :: rest =>
    if Text.isBlank l then s.close ++ segment { s with para := [], blank := true } 0 rest
    else if isIndented l then
      let run := preformatRun (l :: rest)
      s.close ++ .preformat (unindent run) ::
        segment { s with para := [], heading := false } (run.length - 1) rest
    else
      let title := if s.blank && !s.heading && proseFollows rest then title? l else none
      match title with
      | some t => s.close ++ .heading t :: segment ⟨[], s.blank, true⟩ 1 rest
      | none => segment ⟨l :: s.para, false, false⟩ 0 rest

/-- **Blocks of a text**. A heading is never the first. -/
def Block.ofText (t : Text) : List Block :=
  segment ⟨[], false, false⟩ 0 (unindent (Text.lines (Text.stripOf (· == '\n') t)))

end ApiPage.Prose
