import ApiPage.Proofs.Markup
import ApiPage.Proofs.Places

/-!
# Annotated lines

What the lines of an annotated text hold. Annotation goes from lexeme to lexeme and places the text
up to each; a line of the text is complete when the last place is behind it. What a line holds is
here said line by line: its text is escaped, with a mark in the place of each comment and of each
name that is linked, its anchors are those of the names on it, and it holds code or comments if a
lexeme of that kind covers it.

## Main definitions

* `Page.markOf`: what stands in the place of a lexeme.
* `Page.fillLine`: a line of text with such marks.
* `Page.Annotates`: what an annotated line holds.

## Main results

* `Page.adds_step`, `Page.adds_foldl_step`: what one lexeme adds to a line, and what all do.
* `Page.annotates_annotate`: the lines of an annotated text.
-/

namespace ApiPage.Page

open Syntax (Lexeme LexemeKind LexError lexemes)

/-- The line at an index; one without anything past the last. -/
def lineAt (ls : List Line) (k : Nat) : Line := ls.getD k Line.empty

/-- Where one line is changed the others stay. -/
theorem lineAt_modify {ls : List Line} {n k : Nat} (hk : k < ls.length) (f : Line → Line) :
    lineAt (ls.modify n f) k = if n = k then f (lineAt ls k) else lineAt ls k := by
  simp only [lineAt, List.getD_eq_getElem?_getD, List.getElem?_modify, List.getElem?_eq_getElem hk]
  split <;> simp

/-! ### Adding text -/

/-- Pieces are added to lines that are there. -/
theorem length_addPieces (n : Int) (ps : List Text) (ls : List Line) :
    (addPieces n ps ls).length = ls.length := by
  induction ps generalizing n ls with
  | nil => rfl
  | cons p ps ih =>
    rw [addPieces, ih]
    split
    · rfl
    · simp

/-- **Additions to a line**: HTML at its end, anchors, and whether there is now code or comments on
it. -/
structure Adds (h : Text) (as : List Anchor) (code comment : Bool) (l l' : Line) : Prop where
  html : l'.html = l.html ++ h
  anchors : l'.anchors = l.anchors ++ as
  hasCode : l'.hasCode = (l.hasCode || code)
  hasComment : l'.hasComment = (l.hasComment || comment)

/-- Text that is added to a line, and nothing else. -/
abbrev AddsText (h : Text) (l l' : Line) : Prop := Adds h [] false false l l'

namespace Adds

/-- Nothing is added. -/
theorem nil (l : Line) : AddsText [] l l := ⟨by simp, by simp, by simp, by simp⟩

/-- One fragment is added. -/
theorem fragment (h : Text) (l : Line) : AddsText h l (l.addFragments [h]) :=
  ⟨by simp [Line.addFragments, Line.html], by simp [Line.addFragments],
    by simp [Line.addFragments], by simp [Line.addFragments]⟩

/-- Additions one after another. -/
theorem trans {g h : Text} {as bs : List Anchor} {c c' d d' : Bool} {l m n : Line}
    (hg : Adds g as c d l m) (hh : Adds h bs c' d' m n) :
    Adds (g ++ h) (as ++ bs) (c || c') (d || d') l n :=
  ⟨by rw [hh.html, hg.html, List.append_assoc], by rw [hh.anchors, hg.anchors, List.append_assoc],
    by rw [hh.hasCode, hg.hasCode, Bool.or_assoc],
    by rw [hh.hasComment, hg.hasComment, Bool.or_assoc]⟩

end Adds

/-- Pieces are escaped and put behind the lines from `n` on. -/
theorem adds_addPieces {n k : Nat} {ls : List Line} (hk : k < ls.length) (ps : List Text) :
    AddsText (if n ≤ k then Html.escape (ps.getD (k - n) []) else []) (lineAt ls k)
      (lineAt (addPieces n ps ls) k) := by
  induction ps generalizing n ls with
  | nil => simpa [addPieces, Html.escape] using Adds.nil (lineAt ls k)
  | cons p ps ih =>
    set ls' := if p.isEmpty then ls else ls.modify n (Line.addFragments [Html.escape p]) with hls'
    have hstep : AddsText (if n = k then Html.escape p else []) (lineAt ls k) (lineAt ls' k) := by
      rw [hls']
      by_cases hp : p = []
      · simpa [hp, Html.escape] using Adds.nil (lineAt ls k)
      · have hp' : ¬p.isEmpty = true := by simpa using hp
        rw [if_neg hp', lineAt_modify hk]
        split
        · exact Adds.fragment _ _
        · exact Adds.nil _
    have hk' : k < ls'.length := by
      rw [hls']
      split <;> simpa using hk
    have hrest : AddsText ((if n = k then Html.escape p else []) ++
        if n + 1 ≤ k then Html.escape (ps.getD (k - (n + 1)) []) else []) (lineAt ls k)
        (lineAt (addPieces ↑(n + 1) ps ls') k) := hstep.trans (ih hk')
    rw [addPieces, Int.toNat_natCast, ← hls', ← Int.natCast_succ]
    convert hrest using 1
    rcases Nat.lt_trichotomy n k with hlt | rfl | hgt
    · obtain ⟨d, rfl⟩ := Nat.exists_eq_add_of_lt hlt
      have h₁ : n ≤ n + d + 1 := by omega
      have h₂ : n ≠ n + d + 1 := by omega
      have h₃ : n + 1 ≤ n + d + 1 := by omega
      have h₄ : n + d + 1 - n = d + 1 := by omega
      have h₅ : n + d + 1 - (n + 1) = d := by omega
      simp [h₁, h₂, h₃, h₄, h₅]
    · have h : ¬n + 1 ≤ n := by omega
      simp [h]
    · have h₁ : ¬n ≤ k := by omega
      have h₂ : n ≠ k := by omega
      have h₃ : ¬n + 1 ≤ k := by omega
      simp [h₁, h₂, h₃]

/-- **The text between two places is escaped and added line by line.** -/
theorem adds_addText {t : Text} {row col row' col' k : Nat} {ls : List Line}
    (h : InText t row col) (h' : InText t row' col')
    (hle : row < row' ∨ row = row' ∧ col ≤ col') (hk : k < ls.length) :
    AddsText (Html.escape (slice (piecesOf t) k (cursor (piecesOf t) row col k)
        (cursor (piecesOf t) row' col' k)))
      (lineAt ls k)
      (lineAt (addText (between t (offset (piecesOf t) row col)
        (offset (piecesOf t) row' col')) row' ls) k) := by
  obtain ⟨hlen, hget⟩ := piecesOf_between h h' hle
  have hfirst : (row' : Int) - (piecesOf (between t (offset (piecesOf t) row col)
      (offset (piecesOf t) row' col'))).length + 1 = row := by
    rw [hlen]
    omega
  rw [addText, hfirst]
  have hadds := adds_addPieces (n := row) hk (piecesOf (between t
    (offset (piecesOf t) row col) (offset (piecesOf t) row' col')))
  rw [hget] at hadds
  by_cases hrow : row ≤ k
  · rwa [if_pos hrow, Nat.add_sub_cancel' hrow] at hadds
  · rw [if_neg hrow] at hadds
    rwa [slice_above (Nat.lt_of_not_le hrow) (by omega)]

/-- Text is added to lines that are there. -/
theorem length_addText (t : Text) (n : Nat) (ls : List Line) :
    (addText t n ls).length = ls.length := length_addPieces _ _ _

/-! ### Steps -/

variable {t : Text} {find : Nat → Nat → Option Occurrence} {comment : Text → Text}

/-- **Mark of a lexeme**: the HTML that stands in its place, if its text is not just escaped. -/
def markOf (find : Nat → Nat → Option Occurrence) (comment : Text → Text) (l : Lexeme) :
    Option Text :=
  match l.kind with
  | .comment => some (Html.comment (comment l.text))
  | .name => ((find l.row l.col).bind (·.href)).map (Html.link · l.text)
  | _ => none

/-- A lexeme that is no comment has its link as its mark. -/
theorem link_of_markOf {l : Lexeme} {m : Text} (hl : l.kind ≠ .comment)
    (h : markOf find comment l = some m) :
    l.kind = .name ∧ ∃ href, (find l.row l.col).bind (·.href) = some href ∧
      Html.link href l.text = m := by
  rw [markOf] at h
  split at h
  · next hc => exact absurd hc hl
  · next hname => exact ⟨hname, Option.map_eq_some_iff.mp h⟩
  · cases h

/-- A lexeme that is no comment has the same mark however comments are written. -/
theorem markOf_congr {l : Lexeme} (hl : l.kind ≠ .comment) (comment comment' : Text → Text) :
    markOf find comment l = markOf find comment' l := by
  rw [markOf, markOf]
  split
  · next hc => exact absurd hc hl
  · rfl
  · rfl

/-- The anchor that a lexeme defines. -/
def anchorOf (find : Nat → Nat → Option Occurrence) (l : Lexeme) : Option Anchor :=
  match l.kind with
  | .name => (find l.row l.col).bind (·.anchor)
  | _ => none

/-- **Line of text with marks** from a column on: text is written by `write`, and the marks of
lexemes stand in their places. -/
def fillLine (write : Text → Text) (mark : Lexeme → Option Text) :
    (col : Nat) → Text → List Lexeme → Text
  | _, rest, [] => write rest
  | col, rest, l :: ls =>
    match mark l with
    | none => fillLine write mark col rest ls
    | some h =>
      write (rest.take (l.col - col)) ++ h ++
        fillLine write mark (l.col + l.text.length) (rest.drop (l.col + l.text.length - col)) ls

/-- A lexeme covers line `k`. -/
def Covers (l : Lexeme) (k : Nat) : Prop := l.row ≤ k + 1 ∧ k + 1 ≤ l.endRow

instance (l : Lexeme) (k : Nat) : Decidable (Covers l k) := inferInstanceAs (Decidable (_ ∧ _))

/-- What a lexeme with a mark adds to its line: the mark, and its anchor. -/
def addMark (find : Nat → Nat → Option Occurrence) (comment : Text → Text) (l : Lexeme)
    (line : Line) : Line :=
  { line with
    fragments := line.fragments ++
      match l.kind with
      | .comment => [Html.openComment, comment l.text, Html.closeSpan]
      | .name => (((find l.row l.col).bind (·.href)).map (Html.link · l.text)).toList
      | _ => []
    anchors := line.anchors ++ (anchorOf find l).toList }

/-- Without fragments a line stays. -/
@[simp] theorem addFragments_nil : Line.addFragments [] = id := by
  funext line
  simp [Line.addFragments]

/-- Without an anchor a line stays. -/
@[simp] theorem addAnchor_none : Line.addAnchor none = id := by
  funext line
  simp [Line.addAnchor]

/-- Layout marks nothing. -/
theorem addMark_eq_id {l : Lexeme} (h : l.isSpelled = false) : addMark find comment l = id := by
  obtain ⟨kind, text, row, col, endRow⟩ := l
  funext line
  cases kind <;> simp_all [Lexeme.isSpelled, addMark, anchorOf]

/-- **A comment is marked** by a span around what stands for its text. -/
theorem addMark_comment {l : Lexeme} (h : l.kind = .comment) :
    addMark find comment l =
      Line.addFragments [Html.openComment, comment l.text, Html.closeSpan] := by
  funext line
  simp [addMark, anchorOf, h, Line.addFragments]

/-- **A name is marked** by the link and the anchor of its occurrence. -/
theorem addMark_name {l : Lexeme} (h : l.kind = .name) :
    addMark find comment l =
      Line.addFragments (((find l.row l.col).bind (·.href)).map (Html.link · l.text)).toList ∘
        Line.addAnchor ((find l.row l.col).bind (·.anchor)) := by
  funext line
  simp [addMark, anchorOf, h, Line.addFragments, Line.addAnchor]

/-- **A step**: the text before the lexeme is added, then what the lexeme adds to its line, and last
the lines that it covers are marked. -/
theorem step_eq (p : Progress) (l : Lexeme) :
    step t (startsFrom 0 t) find comment p l =
      let off := offsetOf t (startsFrom 0 t) l.row l.col
      let line := min l.row p.lines.length - 1
      let ls := (addText (between t p.last off) line p.lines).modify line (addMark find comment l)
      ⟨if isLayout l.kind then ls else markLines (l.kind ≠ .comment) l.row l.endRow ls,
        if (markOf find comment l).isSome then off + l.text.length else max p.last off⟩ := by
  obtain ⟨kind, text, row, col, endRow⟩ := l
  cases kind with
  | lineBreak | newline | indent | dedent | endMark | number | string | op | stray =>
    rw [addMark_eq_id rfl]
    simp [step, isLayout, markOf]
  | comment =>
    rw [addMark_comment rfl]
    simp [step, isLayout, markOf]
  | name =>
    rw [addMark_name rfl]
    cases hf : find row col with
    | none => simp [step, isLayout, markOf, hf]
    | some o =>
      cases hh : o.href with
      | none => simp [step, isLayout, markOf, hf, hh]
      | some href =>
        simp [step, isLayout, markOf, hf, hh, List.modify_modify_eq]

/-! ### Lines with marks -/

section FillLine

variable {write : Text → Text} {mark : Lexeme → Option Text}

/-- A lexeme without a mark leaves its text to be written. -/
theorem fillLine_cons_none {l : Lexeme} (h : mark l = none) (col : Nat) (rest : Text)
    (ls : List Lexeme) : fillLine write mark col rest (l :: ls) = fillLine write mark col rest ls := by
  rw [fillLine, h]

/-- A mark stands behind the text before its lexeme, in the place of the lexeme. -/
theorem fillLine_cons_some {l : Lexeme} {m : Text} (h : mark l = some m) (col : Nat) (rest : Text)
    (ls : List Lexeme) : fillLine write mark col rest (l :: ls) =
      write (rest.take (l.col - col)) ++ m ++
        fillLine write mark (l.col + l.text.length) (rest.drop (l.col + l.text.length - col)) ls := by
  rw [fillLine, h]

/-- **Text before all marks can be written first.** -/
theorem fillLine_advance (hw : ∀ u v, write (u ++ v) = write u ++ write v) {col col' : Nat}
    (hle : col ≤ col') (rest : Text) {ls : List Lexeme} (hls : ∀ l ∈ ls, col' ≤ l.col) :
    fillLine write mark col rest ls =
      write (rest.take (col' - col)) ++
        fillLine write mark col' (rest.drop (col' - col)) ls := by
  induction ls with
  | nil => rw [fillLine, fillLine, ← hw, List.take_append_drop]
  | cons l ls ih =>
    cases hm : mark l with
    | none =>
      rw [fillLine_cons_none hm, fillLine_cons_none hm]
      exact ih fun m hmem => hls m (List.mem_cons_of_mem l hmem)
    | some h =>
      have hl := hls l List.mem_cons_self
      have htake : rest.take (l.col - col) =
          rest.take (col' - col) ++ (rest.drop (col' - col)).take (l.col - col') := by
        rw [← List.take_add]
        congr 1
        omega
      have hdrop : (rest.drop (col' - col)).drop (l.col + l.text.length - col') =
          rest.drop (l.col + l.text.length - col) := by
        rw [List.drop_drop]
        congr 1
        omega
      rw [fillLine_cons_some hm, fillLine_cons_some hm, htake, hw, hdrop]
      simp only [List.append_assoc]

end FillLine

/-! ### What a step adds -/

/-- A lexeme makes the lines that it covers lines of code. -/
def isCode (l : Lexeme) : Bool := !isLayout l.kind && l.kind ≠ .comment

/-- The line with the mark of a lexeme that covers it. -/
def flag (l : Lexeme) (k : Nat) (line : Line) : Line :=
  { line with
    hasCode := line.hasCode || (isCode l && decide (Covers l k))
    hasComment := line.hasComment || (decide (l.kind = .comment) && decide (Covers l k)) }

/-- Marking lines adds none. -/
theorem length_markLines (code : Bool) (first last : Nat) (ls : List Line) :
    (markLines code first last ls).length = ls.length := by
  simp [markLines]

/-- The lines from the first to the last are marked, as code or as comments. -/
theorem lineAt_markLines {code : Bool} {first last k : Nat} {ls : List Line} (hk : k < ls.length) :
    lineAt (markLines code first last ls) k =
      if first ≤ k + 1 ∧ k + 1 ≤ last then
        if code then { lineAt ls k with hasCode := true }
        else { lineAt ls k with hasComment := true }
      else lineAt ls k := by
  simp [lineAt, markLines, List.getD_eq_getElem?_getD, List.getElem?_eq_getElem hk]

/-- Layout marks no lines, and every other lexeme marks those that it covers. -/
theorem lineAt_flag {l : Lexeme} {k : Nat} {ls : List Line} (hk : k < ls.length) :
    lineAt (if isLayout l.kind then ls else markLines (l.kind ≠ .comment) l.row l.endRow ls) k =
      flag l k (lineAt ls k) := by
  by_cases hl : isLayout l.kind = true
  · have hc : l.kind ≠ .comment := fun hc => by simp [hc, isLayout] at hl
    simp [hl, hc, flag, isCode]
  · rw [if_neg hl, lineAt_markLines hk]
    by_cases hcov : Covers l k
    · by_cases hc : l.kind = .comment
      · simp [flag, isCode, hcov, hc, show l.row ≤ k + 1 ∧ k + 1 ≤ l.endRow from hcov]
      · simp [flag, isCode, hcov, hc, hl, show l.row ≤ k + 1 ∧ k + 1 ≤ l.endRow from hcov]
    · have hno : ¬(l.row ≤ k + 1 ∧ k + 1 ≤ l.endRow) := hcov
      rw [if_neg hno]
      simp [flag, hcov]

/-- **Progress is at a place**: there is a line for every line of the text, and the text up to the
place is placed. -/
structure Progress.At (t : Text) (row col : Nat) (p : Progress) : Prop where
  length : p.lines.length = (piecesOf t).length
  inText : InText t row col
  last : p.last = offset (piecesOf t) row col

variable {l : Lexeme} {p : Progress} {row col k : Nat}

/-- The column up to which a lexeme has the text placed. -/
def markedTo (find : Nat → Nat → Option Occurrence) (comment : Text → Text) (t : Text)
    (l : Lexeme) : Nat :=
  if (markOf find comment l).isSome then stopOf t l else colOf t l

/-- A lexeme with a mark is spelled in the text. -/
theorem isSpelled_of_markOf (h : (markOf find comment l).isSome) : l.isSpelled := by
  obtain ⟨kind, text, row, col, endRow⟩ := l
  cases kind <;> simp_all [markOf, Lexeme.isSpelled]

/-- A lexeme has the text placed no further than it ends. -/
theorem markedTo_le_stopOf (l : Lexeme) : markedTo find comment t l ≤ stopOf t l := by
  unfold markedTo stopOf
  split <;> omega

/-- The end of a lexeme, if it has a mark, and else its start lie in the text. -/
theorem inText_markedTo (hl : l.Sits (Text.lines t)) :
    InText t (rowOf t l) (markedTo find comment t l) := by
  unfold markedTo
  split
  · exact inText_stopOf hl
  · exact inText_of_sits hl

/-- A step adds no lines. -/
theorem length_step (p : Progress) (l : Lexeme) :
    (step t (startsFrom 0 t) find comment p l).lines.length = p.lines.length := by
  rw [step_eq]
  dsimp only
  split
  · rw [List.length_modify, length_addText]
  · rw [length_markLines, List.length_modify, length_addText]

/-- **A step goes on to the place of its lexeme**, or to its end if it has a mark. -/
theorem Progress.At.step (h : p.At t row col) (hl : l.Sits (Text.lines t))
    (hle : PlaceLE row col (rowOf t l) (colOf t l)) :
    (Page.step t (startsFrom 0 t) find comment p l).At t (rowOf t l)
      (markedTo find comment t l) := by
  refine ⟨by rw [length_step, h.length], inText_markedTo hl, ?_⟩
  · rw [step_eq]
    dsimp only
    rw [offsetOf_eq_offset hl, markedTo]
    split
    · next hm => simp [offset, stopOf, isSpelled_of_markOf hm, Nat.add_assoc]
    · rw [h.last]
      exact Nat.max_eq_right (offset_le h.inText hle)

/-- The mark of a lexeme adds its HTML and its anchor. -/
theorem adds_addMark (line : Line) :
    Adds ((markOf find comment l).getD []) (anchorOf find l).toList false false line
      (addMark find comment l line) := by
  refine ⟨?_, rfl, by simp [addMark], by simp [addMark]⟩
  obtain ⟨kind, text, row, col, endRow⟩ := l
  cases kind with
  | name => cases h : (find row col).bind (·.href) <;> simp [addMark, markOf, Line.html, h]
  | comment => simp [addMark, markOf, Line.html, Html.comment]
  | _ => simp [addMark, markOf, Line.html]

/-- A lexeme marks the lines that it covers, and adds nothing else. -/
theorem adds_flag (k : Nat) (line : Line) :
    Adds [] [] (isCode l && decide (Covers l k)) (decide (l.kind = .comment) && decide (Covers l k))
      line (flag l k line) :=
  ⟨by simp [flag, Line.html], by simp [flag], rfl, rfl⟩

/-- **What a step adds to a line**: the text between the two places, on its own line the mark of the
lexeme and its anchor, and on the lines that it covers what they hold. -/
theorem adds_step (h : p.At t row col) (hl : l.Sits (Text.lines t))
    (hle : PlaceLE row col (rowOf t l) (colOf t l)) (hk : k < (piecesOf t).length) :
    Adds (Html.escape (slice (piecesOf t) k (cursor (piecesOf t) row col k)
          (cursor (piecesOf t) (rowOf t l) (colOf t l) k)) ++
        if rowOf t l = k then (markOf find comment l).getD [] else [])
      (if rowOf t l = k then (anchorOf find l).toList else [])
      (isCode l && decide (Covers l k)) (decide (l.kind = .comment) && decide (Covers l k))
      (lineAt p.lines k) (lineAt (step t (startsFrom 0 t) find comment p l).lines k) := by
  have hkp : k < p.lines.length := h.length ▸ hk
  have htext := adds_addText h.inText (inText_of_sits hl) hle hkp
  rw [← h.last] at htext
  set ls := addText (between t p.last (offset (piecesOf t) (rowOf t l) (colOf t l))) (rowOf t l)
    p.lines with hls
  have hlen : k < ls.length := by rwa [hls, length_addText]
  have hlines : (step t (startsFrom 0 t) find comment p l).lines =
      if isLayout l.kind then ls.modify (rowOf t l) (addMark find comment l)
      else markLines (l.kind ≠ .comment) l.row l.endRow
        (ls.modify (rowOf t l) (addMark find comment l)) := by
    rw [step_eq, offsetOf_eq_offset hl, h.length]
    rfl
  rw [hlines, lineAt_flag (by rwa [List.length_modify]), lineAt_modify hlen]
  by_cases hr : rowOf t l = k
  · simpa [hr] using (htext.trans (adds_addMark _)).trans (adds_flag k _)
  · simpa [hr] using htext.trans (adds_flag k _)

/-! ### Runs -/

/-- The lines with the rest of the text. -/
def finish (t : Text) (p : Progress) : List Line :=
  addText (t.drop p.last) (p.lines.length - 1) p.lines

/-- **Lexemes ahead of a place**: they stand in the text in order, and none comes before the
place. -/
structure Ahead (t : Text) (row col : Nat) (ls : List Lexeme) : Prop where
  sits : ∀ l ∈ ls, l.Sits (Text.lines t)
  ordered : ls.Pairwise Lexeme.Precedes
  after : ∀ l ∈ ls, PlaceLE row col (rowOf t l) (colOf t l)

/-- Places further left in a row come no later. -/
theorem PlaceLE.mono {r c r' c' r'' c'' : Nat} (h : PlaceLE r c r' c') (h' : c'' ≤ c)
    (hr : r'' = r) : PlaceLE r'' c'' r' c' := by
  subst hr
  rcases h with h | ⟨h, hc⟩
  · exact .inl h
  · exact .inr ⟨h, h'.trans hc⟩

/-- After a step the other lexemes are ahead. -/
theorem Ahead.tail {ls : List Lexeme} (h : Ahead t row col (l :: ls)) :
    Ahead t (rowOf t l) (markedTo find comment t l) ls := by
  refine ⟨fun m hm => h.sits m (List.mem_cons_of_mem l hm), h.ordered.of_cons, fun m hm => ?_⟩
  have hprec := placeLE_of_precedes (h.sits l List.mem_cons_self)
    (h.sits m (List.mem_cons_of_mem l hm)) (List.rel_of_pairwise_cons h.ordered hm)
  exact hprec.mono (markedTo_le_stopOf l) rfl

/-- The lexemes of a row that are ahead of a place are behind its cursor in their row. -/
theorem Ahead.cursor_le {ls : List Lexeme} (h : Ahead t row col ls) (hin : InText t row col)
    (hk : k < (piecesOf t).length) :
    ∀ m ∈ ls.filter (·.row = k + 1), cursor (piecesOf t) row col k ≤ m.col := by
  intro m hm
  obtain ⟨hmem, hrow⟩ : m ∈ ls ∧ m.row = k + 1 := by simpa using hm
  have hle := Page.cursor_le hin (h.after m hmem) k
  have hr : rowOf t m = k := by
    unfold rowOf
    omega
  have hc : colOf t m = m.col := if_pos (by omega)
  rwa [hr, cursor_self, hc] at hle

/-- What is left of line `k` behind a place, with the marks of the lexemes ahead. -/
def lineAhead (find : Nat → Nat → Option Occurrence) (comment : Text → Text) (t : Text)
    (row col k : Nat) (ls : List Lexeme) : Text :=
  fillLine Html.escape (markOf find comment) (cursor (piecesOf t) row col k)
    (((piecesOf t).getD k []).drop (cursor (piecesOf t) row col k)) (ls.filter (·.row = k + 1))

/-- A place further on, before all marks. -/
theorem lineAhead_advance {row' col' : Nat} {ls : List Lexeme} (hin : InText t row col)
    (hle : PlaceLE row col row' col')
    (hls : ∀ m ∈ ls.filter (·.row = k + 1), cursor (piecesOf t) row' col' k ≤ m.col) :
    lineAhead find comment t row col k ls =
      Html.escape (slice (piecesOf t) k (cursor (piecesOf t) row col k)
        (cursor (piecesOf t) row' col' k)) ++ lineAhead find comment t row' col' k ls := by
  have hcur := Page.cursor_le hin hle k
  rw [lineAhead, fillLine_advance Html.escape_append hcur _ hls, List.drop_drop,
    Nat.add_sub_cancel' hcur, slice, List.drop_take]
  rfl

/-- A lexeme without a mark in line `k` adds nothing there. -/
theorem lineAhead_skip {ls : List Lexeme} (h : l.row = k + 1 → markOf find comment l = none) :
    lineAhead find comment t row col k (l :: ls) = lineAhead find comment t row col k ls := by
  by_cases hrow : l.row = k + 1
  · simp only [lineAhead, List.filter_cons, hrow, decide_true, if_true, fillLine_cons_none (h hrow)]
  · simp only [lineAhead, List.filter_cons, hrow, decide_false, Bool.false_eq_true, if_false]

/-- **What a step adds to a line is what its text begins with.** -/
theorem lineAhead_cons {ls : List Lexeme} (hin : InText t row col)
    (h : Ahead t row col (l :: ls)) (hk : k < (piecesOf t).length) :
    lineAhead find comment t row col k (l :: ls) =
      (Html.escape (slice (piecesOf t) k (cursor (piecesOf t) row col k)
          (cursor (piecesOf t) (rowOf t l) (colOf t l) k)) ++
        if rowOf t l = k then (markOf find comment l).getD [] else []) ++
      lineAhead find comment t (rowOf t l) (markedTo find comment t l) k ls := by
  have hl := h.sits l List.mem_cons_self
  have hle := h.after l List.mem_cons_self
  have hpos := hl.row_pos
  have htail : Ahead t (rowOf t l) (markedTo find comment t l) ls := h.tail
  have hcur := Page.cursor_le hin hle k
  by_cases hmark : rowOf t l = k ∧ (markOf find comment l).isSome
  · obtain ⟨rfl, hs⟩ := hmark
    obtain ⟨m, hm⟩ := Option.isSome_iff_exists.mp hs
    have hsp := isSpelled_of_markOf hs
    have hrow := row_le_of_isSpelled hl hsp
    have hr : l.row = rowOf t l + 1 := by
      unfold rowOf
      omega
    have hc : colOf t l = l.col := if_pos hrow
    have hstop : markedTo find comment t l = l.col + l.text.length := by
      rw [markedTo, if_pos hs, stopOf, if_pos hsp, hc]
    rw [cursor_self, hc] at hcur ⊢
    rw [if_pos rfl, hm, hstop, lineAhead, List.filter_cons, if_pos (by simpa using hr),
      fillLine_cons_some hm, lineAhead, cursor_self, List.drop_drop, slice, List.drop_take]
    rw [Nat.add_sub_cancel' (by omega)]
    rfl
  · have hnone : rowOf t l = k → markOf find comment l = none := by
      intro hr
      simpa [hr] using hmark
    have hsame : cursor (piecesOf t) (rowOf t l) (markedTo find comment t l) k =
        cursor (piecesOf t) (rowOf t l) (colOf t l) k := by
      by_cases hr : rowOf t l = k
      · rw [markedTo, hnone hr, Option.isSome_none, if_neg (by simp)]
      · simp only [cursor, Ne.symm hr, if_false]
    have hskip : l.row = k + 1 → markOf find comment l = none := by
      intro hr
      refine hnone ?_
      unfold rowOf
      omega
    have hbehind := htail.cursor_le (inText_markedTo hl) hk
    rw [hsame] at hbehind
    rw [lineAhead_skip hskip, lineAhead_advance hin hle hbehind]
    have hnil : (if rowOf t l = k then (markOf find comment l).getD [] else []) = [] := by
      split
      · next hr => rw [hnone hr, Option.getD_none]
      · rfl
    rw [hnil, List.append_nil, lineAhead, lineAhead, hsame]

/-- A run adds no lines. -/
theorem length_foldl_step (p : Progress) (ls : List Lexeme) :
    (ls.foldl (step t (startsFrom 0 t) find comment) p).lines.length = p.lines.length := by
  induction ls generalizing p with
  | nil => rfl
  | cons l ls ih => rw [List.foldl_cons, ih, length_step]

/-- **A run places the rest of the text** line by line, with the marks and anchors of its lexemes.
-/
theorem adds_foldl_step (find : Nat → Nat → Option Occurrence) (comment : Text → Text)
    {ls : List Lexeme} (hp : p.At t row col) (h : Ahead t row col ls)
    (hk : k < (piecesOf t).length) :
    Adds (lineAhead find comment t row col k ls)
      ((ls.filter (rowOf t · = k)).filterMap (anchorOf find))
      (ls.any fun l => isCode l && decide (Covers l k))
      (ls.any fun l => decide (l.kind = .comment) && decide (Covers l k))
      (lineAt p.lines k)
      (lineAt (finish t (ls.foldl (step t (startsFrom 0 t) find comment) p)) k) := by
  induction ls generalizing p row col with
  | nil =>
    have htext := adds_addText hp.inText (inText_end t) (placeLE_end hp.inText)
      (hp.length ▸ hk : k < p.lines.length)
    have hrest : between t (offset (piecesOf t) row col) t.length =
        t.drop (offset (piecesOf t) row col) := List.take_of_length_le (by simp)
    rw [offset_end, hrest, ← hp.last, cursor_end hk, slice, List.take_length, ← hp.length] at htext
    exact htext
  | cons l ls ih =>
    have hl := h.sits l List.mem_cons_self
    have hle := h.after l List.mem_cons_self
    have hstep : (step t (startsFrom 0 t) find comment p l).At t (rowOf t l)
        (markedTo find comment t l) := hp.step hl hle
    have hadds := (adds_step hp hl hle hk).trans (ih hstep h.tail)
    rw [← lineAhead_cons hp.inText h hk] at hadds
    have hanchors : ((l :: ls).filter (rowOf t · = k)).filterMap (anchorOf find) =
        (if rowOf t l = k then (anchorOf find l).toList else []) ++
          (ls.filter (rowOf t · = k)).filterMap (anchorOf find) := by
      by_cases hr : rowOf t l = k
      · cases ha : anchorOf find l <;> simp [hr, ha]
      · simp [hr]
    rw [hanchors]
    exact hadds

/-! ### All of a text -/

/-- The line `k` of an annotated text whose lexemes are `ls`. -/
structure Annotates (find : Nat → Nat → Option Occurrence) (comment : Text → Text) (t : Text)
    (ls : List Lexeme) (k : Nat) (line : Line) : Prop where
  html : line.html = fillLine Html.escape (markOf find comment) 0 ((piecesOf t).getD k [])
    (ls.filter (·.row = k + 1))
  anchors : line.anchors = (ls.filter (rowOf t · = k)).filterMap (anchorOf find)
  hasCode : line.hasCode = ls.any fun l => isCode l && decide (Covers l k)
  hasComment : line.hasComment = ls.any fun l => decide (l.kind = .comment) && decide (Covers l k)

/-- **Annotated lines** are the lines of the text, each with the marks, anchors and kinds of its
lexemes. -/
theorem annotates_annotate {os : List Occurrence} {lines : List Line}
    (h : annotate t os comment = .ok lines) :
    ∃ ls, lexemes t = .ok ls ∧ lines.length = (piecesOf t).length ∧
      ∀ k < (piecesOf t).length, Annotates (occurrenceAt? os) comment t ls k (lineAt lines k) := by
  cases hlex : lexemes t with
  | error e => simp [annotate, hlex, bind, Except.bind] at h
  | ok ls =>
    set start : Progress := ⟨(startsFrom 0 t).map fun _ => Line.empty, 0⟩ with hstart
    have hlines : lines = finish t (ls.foldl (step t (startsFrom 0 t) (occurrenceAt? os) comment)
        start) := by
      rw [annotate, hlex] at h
      exact (Except.ok.inj h).symm
    have hp : start.At t 0 0 := ⟨by simp [hstart, length_startsFrom], inText_start t, rfl⟩
    have hahead : Ahead t 0 0 ls := by
      refine ⟨Syntax.sits_of_lexemes hlex, Syntax.pairwise_precedes_lexemes hlex, fun l _ => ?_⟩
      by_cases hr : rowOf t l = 0
      · exact .inr ⟨hr.symm, Nat.zero_le _⟩
      · exact .inl (Nat.pos_of_ne_zero hr)
    refine ⟨ls, rfl, ?_, fun k hk => ?_⟩
    · rw [hlines, finish, length_addText, length_foldl_step, hp.length]
    · have hadds := adds_foldl_step (occurrenceAt? os) comment hp hahead hk
      have hempty : lineAt start.lines k = Line.empty := by simp [lineAt, hstart]
      have hcursor : cursor (piecesOf t) 0 0 k = 0 := by simp [cursor]
      rw [hempty, lineAhead, hcursor, List.drop_zero, ← hlines] at hadds
      exact ⟨hadds.html, hadds.anchors, hadds.hasCode.trans (Bool.false_or _),
        hadds.hasComment.trans (Bool.false_or _)⟩

end ApiPage.Page
