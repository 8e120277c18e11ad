import ApiPage.Error
import ApiPage.Example.Piece
import ApiPage.Example.Token
import ApiPage.Html
import ApiPage.Log.Basic

/-!
# Examples

Example code as it is displayed, and the output that it declares. Code may be wrapped in the
function of the example; then only the body is shown, without its indentation. A comment that
announces the output ends what is displayed. Comments and strings are told apart by a lexer.

## Main definitions

* `segments`: the displayed code in segments.
* `expectedOutput`: the output that code declares.
* `Example.html`: an example as HTML.
-/

namespace ApiPage

/-- **Example** with the output that its code declares. -/
structure Example where
  code : Option Text
  name : Text
  suffix : Text
  doc : Text
  output : Text
  isUnordered : Bool

namespace Example

/-! ### The wrapping function -/

/-- What follows the end of a line, if nothing but blanks stands before it. -/
def afterLineEnd? (t : Text) : Option Text :=
  match t.dropWhile Text.isBlankChar with
  | '\n' :: r => some r
  | _ => none

/-- What follows the first colon that ends a line, on the line at hand. -/
def afterColon? : Text → Option Text
  | [] => none
  | ':' :: r => afterLineEnd? r <|> afterColon? r
  | c :: r => if c == '\n' then none else afterColon? r

/-- What follows the line of a function's head, from behind its parameters on. -/
def afterParameters? (t : Text) : Option Text :=
  match t.drop (spaceLength t) with
  | '-' :: '>' :: r => afterColon? r
  | ':' :: r => afterLineEnd? r
  | _ => none

/-- What follows the line of a function's head, from inside its parameters on. -/
def afterHead? : Text → Option Text
  | [] => none
  | ')' :: r => afterParameters? r <|> afterHead? r
  | _ :: r => afterHead? r

/-- What follows a word and the white space behind it. -/
def afterSpacedWord? (w : String) (t : Text) : Option Text :=
  match Text.dropPrefix? t (Text.of w) with
  | some r => if spaceLength r = 0 then none else some (r.drop (spaceLength r))
  | none => none

/-- **The body of the function that wraps a text**, if it begins with one. -/
def wrapped? (t : Text) : Option Text :=
  match afterSpacedWord? "def" ((afterSpacedWord? "async" t).getD t) with
  | none => none
  | some r =>
    let n := wordLength r
    let r := r.drop n
    match r.drop (spaceLength r) with
    | '(' :: r => if n = 0 then none else afterHead? r
    | _ => none

/-- A text without newlines at its ends. -/
def stripNewlines (t : Text) : Text := Text.stripOf (· == '\n') t

/-- The displayed part of code. -/
def shownPart (code : Text) : Text :=
  let t := stripNewlines code
  match wrapped? t with
  | some body => stripNewlines body
  | none => t

/-! ### Segments -/

/-- **Segment** of displayed code: a comment, or what stands between comments. -/
structure Segment where
  text : Text
  isComment : Bool
  deriving DecidableEq, Inhabited

/-- `t` with the indentation `indent` taken away after each newline; `skip` characters are yet to
go. -/
def unindentFrom (indent : Text) : (skip : Nat) → Text → Text
  | _, [] => []
  | skip + 1, _ :: r => unindentFrom indent skip r
  | 0, c :: r =>
    if c == '\n' && Text.startsWith r indent then c :: unindentFrom indent indent.length r
    else c :: unindentFrom indent 0 r

/-- `t` with the indentation `indent` taken away after each newline. -/
def unindent (indent t : Text) : Text := unindentFrom indent 0 t

/-- What follows the announcement of an output, and whether the output has no order. -/
def outputMark? (comment : Text) : Option (Text × Bool) :=
  let lower (t : Text) : Text := t.map fun c => if c.toNat < 128 then c.toLower else c
  let after? (w : String) (t : Text) : Option Text :=
    if lower (t.take w.length) = Text.of w then some (t.drop w.length) else none
  match comment with
  | '#' :: r =>
    let r := r.dropWhile Text.isSpaceChar
    match after? "unordered output:" r with
    | some rest => some (rest, true)
    | none => (after? "output:" r).map (·, false)
  | _ => none

/-- **Progress** of segmenting: the segments, the last first; the texts between comments so far; and
the texts of the code at their end, whose indentation is yet to be taken away. -/
structure Progress where
  segments : List Segment
  pending : List Text
  code : List Text

/-- Ends the code. -/
def Progress.endCode (indent : Text) (p : Progress) : Progress :=
  if p.code.isEmpty then p
  else { p with pending := p.pending ++ [unindent indent p.code.flatten], code := [] }

/-- Ends the text between comments. -/
def Progress.flush (indent : Text) (p : Progress) : Progress :=
  let p := p.endCode indent
  if p.pending.isEmpty then p
  else { p with segments := ⟨p.pending.flatten, false⟩ :: p.segments, pending := [] }

/-- The segments of some pieces, the last first. Strings keep their indentation, and what comes
after the announcement of an output is left out. -/
def segmentPieces (indent : Text) (p : Progress) : List Piece → List Segment
  | [] => (p.flush indent).segments
  | ⟨.comment, t⟩ :: ps =>
    let p := p.flush indent
    if (outputMark? t).isSome then p.segments
    else segmentPieces indent { p with segments := ⟨t, true⟩ :: p.segments } ps
  | ⟨.string, t⟩ :: ps =>
    let p := p.endCode indent
    segmentPieces indent { p with pending := p.pending ++ [t] } ps
  | ⟨.other, t⟩ :: ps => segmentPieces indent { p with code := p.code ++ [t] } ps

/-- A blank or a newline. -/
def isLayoutChar (c : Char) : Bool := c == '\n' || Text.isBlankChar c

/-- `t` without the blank lines at its end. -/
def trimBlankLines (t : Text) : Text :=
  let tail := t.reverse.takeWhile isLayoutChar
  t.take (t.length - tail.length) ++ tail.reverse.takeWhile (· ≠ '\n')

/-- Segments, the last first, without blank lines at the end of the last if it is code. -/
def trimLast : List Segment → List Segment
  | ⟨t, false⟩ :: ss =>
    let t := trimBlankLines t
    if t.isEmpty then ss else ⟨t, false⟩ :: ss
  | ss => ss

/-- **The segments of code**. The indentation of its first line is taken away from all lines. -/
def segments (lexer : Lexer) (code : Option Text) : Except Failure (List Segment) :=
  match code with
  | none => .error .noCode
  | some code =>
    if Text.isBlank code then .error .noCode
    else
      let t := shownPart code
      let indent := t.takeWhile Text.isBlankChar
      .ok (trimLast (segmentPieces indent ⟨[], [], []⟩ (lexer (t.drop indent.length)))).reverse

/-! ### Output -/

/-- The line of output that a comment holds. -/
def outputLine (comment : Text) : Text :=
  match comment.drop 1 with
  | ' ' :: r => r
  | r => r

/-- The lines of output in the comments that follow its announcement. -/
def outputLines : List Piece → List Text
  | [] => []
  | ⟨.comment, t⟩ :: ps => outputLine t :: outputLines ps
  | ⟨_, t⟩ :: ps => if Text.isBlank t then outputLines ps else []

/-- The output that some pieces declare. -/
def outputOf : List Piece → Text × Bool
  | [] => ([], false)
  | ⟨shade, t⟩ :: ps =>
    match (if shade = .comment then outputMark? t else none) with
    | some (first, isUnordered) =>
      let out := stripNewlines (Text.joinLines (Text.strip first :: outputLines ps))
      (if out.isEmpty then [] else out ++ ['\n'], isUnordered)
    | none => outputOf ps

/-- **The output that code declares**, and whether it has no order. -/
def expectedOutput (lexer : Lexer) (code : Option Text) : Text × Bool :=
  match code.getD [] with
  | [] => ([], false)
  | c :: r => outputOf (lexer (c :: r))

/-- The example of some code. -/
def ofCode (lexer : Lexer) (code : Option Text) (name suffix doc : Text) : Example :=
  let (output, isUnordered) := expectedOutput lexer code
  { code, name, suffix, doc, output, isUnordered }

/-! ### HTML -/

/-- A segment as HTML. -/
def Segment.html (s : Segment) : Text :=
  if s.isComment then Html.comment (Html.escape s.text) else Html.escape s.text

/-- The HTML of displayed code around its contents. -/
def box (contents : Text) : Text :=
  Text.of "<pre class=\"Documentation-exampleCode\">" ++ contents ++ Text.of "</pre>"

/-- Segments as HTML. -/
def segmentsHtml (ss : List Segment) : Text := box (ss.flatMap Segment.html)

/-- What stands for an example without code. -/
def placeholder : Text := box (Text.of "Error rendering example code.")

/-- The event of an example that is not rendered. -/
def notRenderedEvent (name : Text) : Log.Event :=
  ⟨.warning, Text.of "examples", Text.of "Example not rendered",
    [(Text.of "code", .text ErrorKind.example.code), (Text.of "example", .text name)]⟩

/-- **An example as HTML**, and the events of rendering it. -/
def html (lexer : Lexer) (e : Option Example) : Text × List Log.Event :=
  match segments lexer (e.bind Example.code) with
  | .ok ss => (segmentsHtml ss, [])
  | .error _ => (placeholder, [notRenderedEvent ((e.map Example.name).getD [])])

end Example
end ApiPage
