import ApiPage.Page.Occurrence
import ApiPage.Page.Options

/-!
# Annotated declarations

The text of a declaration as HTML, line by line. Comments are marked, names are linked, and a name
that defines an anchor leaves it on its line. Then the anchors of a line are moved to the top of the
comments directly above it, and each line is put into the marks of its anchors.

## Conventions

The text is cut at its lexemes. What lies between them is escaped and belongs to the line it stands
on.

## Main definitions

* `annotate`: the lines of a text.
* `hoist`: the lines with their anchors moved up.
* `emit`: the lines as HTML.
-/

namespace ApiPage

open Syntax (Lexeme LexemeKind LexError lexemes)

namespace Page

/-- **Line**: its HTML in fragments, the anchors defined on it, and whether it holds code or
comments. -/
structure Line where
  fragments : List Text
  anchors : List Anchor
  hasCode : Bool
  hasComment : Bool
  deriving Inhabited

namespace Line

/-- A line without anything. -/
def empty : Line := ⟨[], [], false, false⟩

/-- The HTML of a line. -/
def html (l : Line) : Text := l.fragments.flatten

/-- The line holds nothing but comments. -/
def isComment (l : Line) : Bool := l.hasComment && !l.hasCode

/-- The line with fragments at its end. -/
def addFragments (fs : List Text) (l : Line) : Line := { l with fragments := l.fragments ++ fs }

/-- The line with one anchor more. -/
def addAnchor (a : Option Anchor) (l : Line) : Line := { l with anchors := l.anchors ++ a.toList }

end Line

/-! ### Cutting the text -/

/-- The text in pieces, each but the last with its newline. -/
def piecesOf (t : Text) : List Text :=
  let ls := Text.lines t
  ls.dropLast.map (· ++ ['\n']) ++ [ls.getLast?.getD []]

/-- Adds pieces of text to the lines from `n` on; one that comes before the first line goes there.
-/
def addPieces : (n : Int) → List Text → List Line → List Line
  | _, [], ls => ls
  | n, p :: ps, ls =>
    let ls := if p.isEmpty then ls else ls.modify n.toNat (Line.addFragments [Html.escape p])
    addPieces (n + 1) ps ls

/-- Adds text whose end stands on line `line`. -/
def addText (t : Text) (line : Nat) (ls : List Line) : List Line :=
  let ps := piecesOf t
  addPieces ((line : Int) - ps.length + 1) ps ls

/-- The offsets at which lines start, the first of which is `n`. -/
def startsFrom (n : Nat) : Text → List Nat
  | [] => [n]
  | t => n :: rest n t
where
  /-- The offsets after each newline. -/
  rest (n : Nat) : Text → List Nat
    | [] => []
    | c :: t => if c == '\n' then (n + 1) :: rest (n + 1) t else rest (n + 1) t

/-- **Progress of annotation**: the lines, and the offset up to which the text is placed. -/
structure Progress where
  lines : List Line
  last : Nat

/-- The text between two offsets. -/
def between (t : Text) (a b : Nat) : Text := (t.drop a).take (b - a)

/-- The offset of a place in the text. -/
def offsetOf (t : Text) (starts : List Nat) (row col : Nat) : Nat :=
  match starts[row - 1]? with
  | some n => min (n + col) t.length
  | none => t.length

/-- Marks the lines from `first` to `last` as holding code or comments. -/
def markLines (code : Bool) (first last : Nat) (ls : List Line) : List Line :=
  ls.mapIdx fun i l =>
    if first ≤ i + 1 && i + 1 ≤ last then
      if code then { l with hasCode := true } else { l with hasComment := true }
    else l

/-- Layout that holds neither code nor comments. -/
def isLayout (k : LexemeKind) : Bool :=
  match k with
  | .lineBreak | .newline | .indent | .dedent | .endMark => true
  | _ => false

/-- Progress by one lexeme. -/
def step (t : Text) (starts : List Nat) (find : Nat → Nat → Option Occurrence)
    (comment : Text → Text) (p : Progress) (l : Lexeme) : Progress :=
  let line := min l.row p.lines.length - 1
  let off := offsetOf t starts l.row l.col
  let ls := addText (between t p.last off) line p.lines
  let last := max p.last off
  if isLayout l.kind then ⟨ls, last⟩
  else
    let (ls, last) : List Line × Nat :=
      match l.kind with
      | .comment =>
        (ls.modify line (Line.addFragments [Html.openComment, comment l.text, Html.closeSpan]),
          off + l.text.length)
      | .name =>
        match find l.row l.col with
        | some o =>
          let ls := ls.modify line (Line.addAnchor o.anchor)
          match o.href with
          | some href =>
            (ls.modify line (Line.addFragments [Html.link href l.text]), off + l.text.length)
          | none => (ls, last)
        | none => (ls, last)
      | _ => (ls, last)
    ⟨markLines (l.kind ≠ .comment) l.row l.endRow ls, last⟩

/-- The occurrence at a place. -/
def occurrenceAt? (os : List Occurrence) (row col : Nat) : Option Occurrence :=
  os.find? fun o => o.row = row && o.col = col

/-- **The lines of a text** with the occurrences of its identifiers. `comment` gives the HTML of a
comment. -/
def annotate (t : Text) (os : List Occurrence) (comment : Text → Text) :
    Except LexError (List Line) := do
  let starts := startsFrom 0 t
  let start : Progress := ⟨starts.map fun _ => Line.empty, 0⟩
  let p := (← lexemes t).foldl (step t starts (occurrenceAt? os) comment) start
  return addText (t.drop p.last) (p.lines.length - 1) p.lines

/-! ### Moving anchors -/

/-- The next line defines anchors of its own. -/
def anchorsFollow : List Line → Bool
  | l :: _ => !l.anchors.isEmpty
  | [] => false

/-- Exchanges the anchors of `l` and of the topmost of the comments directly above it. The lines
above come last first. -/
def lift (above : List Line) (l : Line) : List Line :=
  match (above.takeWhile Line.isComment).length with
  | 0 => l :: above
  | k + 1 =>
    let top := (above[k]?.getD Line.empty).anchors
    { l with anchors := top } :: above.modify k fun c => { c with anchors := l.anchors }

/-- Moves the anchors of the lines left; those above come last first. -/
def hoistFrom : (above : List Line) → List Line → List Line
  | above, [] => above.reverse
  | above, l :: ls =>
    if anchorsFollow ls then hoistFrom (l :: above) ls else hoistFrom (lift above l) ls

/-- **The lines with anchors moved up** to the top of the comments directly above them. A line keeps
its anchors if the next one has some too. -/
def hoist (ls : List Line) : List Line := hoistFrom [] ls

/-! ### HTML -/

/-- One line in the marks of its anchors. -/
def emitLine (o : Options) (hasReceiver : Bool) (l : Line) : Text :=
  let marked := l.anchors.filter fun a => o.wraps a.kind hasReceiver
  (marked.flatMap fun a => Html.openAnchor a.id a.kind.name) ++ l.html ++
    marked.flatMap fun _ => Html.closeSpan

/-- **The lines as HTML**. -/
def emit (o : Options) (hasReceiver : Bool) (ls : List Line) : Text :=
  ls.flatMap (emitLine o hasReceiver)

end Page
end ApiPage
