import ApiPage.Proofs.Displayed

/-!
# Rendered lines

Each line of a text is rendered on its own. The line is cut at the comments in it and at the names
that are linked. Each of these stands at its column as it is spelled and is replaced by its mark, and
what lies between is escaped.

## Main definitions

* `Page.Rendered`: a line of text and its HTML, cut at the lexemes with marks.
* `Page.RendersLine`: all that a line holds, by the lexemes of the text.

## Main results

* `Page.rendered_fillLine`: a line filled with marks is rendered.
* `Page.annotate_rendersLines`: a text with lexemes is rendered line by line.
-/

namespace ApiPage.Page

open Syntax (Lexeme LexemeKind lexemes)

variable {find : Nat → Nat → Option Occurrence} {comment : Text → Text} {t p : Text}
  {ls : List Lexeme} {line : Line} {col k : Nat}

/-- **Rendered text** of a line from a column on. A lexeme with a mark stands in the text at its
column, and its mark stands in its place; all other text is escaped. -/
inductive Rendered (mark : Lexeme → Option Text) : (col : Nat) → Text → List Lexeme → Text → Prop
  | rest (col : Nat) (u : Text) : Rendered mark col u [] (Html.escape u)
  | plain {col : Nat} {u h : Text} {l : Lexeme} {ls : List Lexeme} :
      mark l = none → Rendered mark col u ls h → Rendered mark col u (l :: ls) h
  | marked {col : Nat} {u v m h : Text} {l : Lexeme} {ls : List Lexeme} :
      mark l = some m → l.col = col + u.length →
      Rendered mark (l.col + l.text.length) v ls h →
      Rendered mark col (u ++ l.text ++ v) (l :: ls) (Html.escape u ++ m ++ h)

/-- The names of a row. -/
def namesOn (ls : List Lexeme) (row : Nat) : List Lexeme :=
  (ls.filter (·.row = row)).filter (·.kind = .name)

/-- **Line `k` of a text rendered**. The line is `p`, and the lexemes of the text are `ls`. -/
structure RendersLine (find : Nat → Nat → Option Occurrence) (comment : Text → Text)
    (ls : List Lexeme) (k : Nat) (p : Text) (line : Line) : Prop where
  html : Rendered (markOf find comment) 0 p (ls.filter (·.row = k + 1)) line.html
  hasCode : line.hasCode ↔ ∃ l ∈ ls, isCode l ∧ Covers l k
  hasComment : line.hasComment ↔ ∃ l ∈ ls, l.kind = .comment ∧ l.row = k + 1
  anchors : line.anchors =
    (namesOn ls (k + 1)).filterMap fun l => (find l.row l.col).bind (·.anchor)
  ordered : (namesOn ls (k + 1)).Pairwise fun l m => l.col + l.text.length ≤ m.col
  bare : line.isComment → line.anchors = []

/-- **A line filled with marks is rendered.** -/
theorem rendered_fillLine (h : InRow p col ls) (hcol : ∀ l ∈ ls, l.isSpelled → l.col ≤ p.length) :
    Rendered (markOf find comment) col (p.drop col) ls
      (fillLine Html.escape (markOf find comment) col (p.drop col) ls) := by
  induction ls generalizing col with
  | nil => exact .rest col _
  | cons l ls ih =>
    obtain ⟨hl, hcol⟩ := List.forall_mem_cons.mp hcol
    cases hm : markOf find comment l with
    | none =>
      rw [fillLine_cons_none hm]
      exact .plain hm (ih h.skip hcol)
    | some m =>
      have hs := isSpelled_of_markOf (by rw [hm]; rfl)
      have hle := h.after l List.mem_cons_self
      have hstop : l.stop = l.col + l.text.length := by simp [Lexeme.stop, hs]
      have hlength : ((p.drop col).take (l.col - col)).length = l.col - col := by
        have hbound := hl hs
        rw [List.length_take, List.length_drop]
        omega
      have hrest := ih h.tail hcol
      rw [hstop] at hrest
      have hmarked : Rendered (markOf find comment) col
          ((p.drop col).take (l.col - col) ++ l.text ++ p.drop (l.col + l.text.length)) (l :: ls)
          (Html.escape ((p.drop col).take (l.col - col)) ++ m ++
            fillLine Html.escape (markOf find comment) (l.col + l.text.length)
              (p.drop (l.col + l.text.length)) ls) :=
        .marked hm (by omega) hrest
      rw [fillLine_cons_some hm, List.drop_drop, Nat.add_sub_cancel' (by omega)]
      rwa [h.cut hs] at hmarked

/-- A name or a comment stands in a line of the text, and not past its end. -/
theorem col_le_of_lexemes (h : lexemes t = .ok ls) (k : Nat) :
    ∀ l ∈ ls.filter (·.row = k + 1), l.isSpelled → l.col ≤ ((piecesOf t).getD k []).length := by
  intro l hl hs
  obtain ⟨hmem, hrow⟩ : l ∈ ls ∧ l.row = k + 1 := by simpa using hl
  have hsits := Syntax.sits_of_lexemes h l hmem
  obtain ⟨-, content, hcontent, -⟩ := hsits.spelled hs
  have hle := hsits.col_le content hcontent
  rw [hrow, Nat.add_sub_cancel] at hcontent
  exact hle.trans (isPrefix_piecesOf hcontent).length_le

/-- The row of a name or a comment is that of the line in which it stands. -/
theorem row_eq_iff_of_isSpelled {l : Lexeme} (h : l.Sits (Text.lines t)) (hs : l.isSpelled) :
    rowOf t l = k ↔ l.row = k + 1 := by
  have hpos := h.row_pos
  have hle := row_le_of_isSpelled h hs
  rw [rowOf]
  omega

/-- The lexemes that define anchors are the names. -/
theorem filterMap_namesOn (h : lexemes t = .ok ls) (k : Nat) :
    (ls.filter (rowOf t · = k)).filterMap (anchorOf find) =
      (namesOn ls (k + 1)).filterMap fun l => (find l.row l.col).bind (·.anchor) := by
  rw [namesOn, List.filterMap_filter, List.filterMap_filter, List.filterMap_filter]
  refine List.filterMap_congr fun l hl => ?_
  by_cases hname : l.kind = .name
  · have hs : l.isSpelled := by simp [Lexeme.isSpelled, hname]
    simp [anchorOf, hname, row_eq_iff_of_isSpelled (Syntax.sits_of_lexemes h l hl) hs]
  · have hnone : anchorOf find l = none := by
      rw [anchorOf]
      split
      · next hk => exact absurd hk hname
      · rfl
    simp [hnone, hname]

/-- The names of a row come one after another. -/
theorem pairwise_namesOn (h : lexemes t = .ok ls) (k : Nat) :
    (namesOn ls (k + 1)).Pairwise fun l m => l.col + l.text.length ≤ m.col := by
  refine ((inRow_of_lexemes h k).ordered.filter _).imp_of_mem ?_
  intro l m hl _ hle
  have hname : l.kind = .name := by simpa using (List.mem_filter.mp hl).2
  have hs : l.isSpelled := by simp [Lexeme.isSpelled, hname]
  simpa [Lexeme.stop, hs] using hle

/-- What is said of an annotated line by its parts is said of it as rendered. -/
theorem Annotates.rendersLine (h : Annotates find comment t ls k line) (hlex : lexemes t = .ok ls) :
    RendersLine find comment ls k ((piecesOf t).getD k []) line := by
  refine ⟨?_, ?_, ?_, ?_, pairwise_namesOn hlex k, anchors_eq_nil_of_isComment hlex h⟩
  · rw [h.html]
    exact rendered_fillLine (inRow_of_lexemes hlex k) (col_le_of_lexemes hlex k)
  · rw [h.hasCode]
    simp
  · rw [h.hasComment, List.any_eq_true]
    constructor
    · rintro ⟨l, hl, hcov⟩
      obtain ⟨hk, hfirst, hlast⟩ : l.kind = .comment ∧ Covers l k := by simpa using hcov
      have hs : l.isSpelled := by simp [Lexeme.isSpelled, hk]
      obtain ⟨hend, -⟩ := (Syntax.sits_of_lexemes hlex l hl).spelled hs
      exact ⟨l, hl, hk, by omega⟩
    · rintro ⟨l, hl, hk, hrow⟩
      have hs : l.isSpelled := by simp [Lexeme.isSpelled, hk]
      obtain ⟨hend, -⟩ := (Syntax.sits_of_lexemes hlex l hl).spelled hs
      have hcov : Covers l k := ⟨by omega, by omega⟩
      exact ⟨l, hl, by simp [hk, hcov]⟩
  · rw [h.anchors, filterMap_namesOn hlex]

/-- **A text with lexemes is rendered line by line**: it is annotated whatever its occurrences are
and however comments are written, each line of the text gives one line, and no mark is lost, as
every name and every comment stands in a line. -/
theorem annotate_rendersLines (os : List Occurrence) (comment : Text → Text)
    (h : lexemes t = .ok ls) :
    ∃ lines, annotate t os comment = .ok lines ∧ lines.length = (piecesOf t).length ∧
      (∀ k < lines.length, RendersLine (occurrenceAt? os) comment ls k ((piecesOf t).getD k [])
        (lineAt lines k)) ∧
      ∀ l ∈ ls, (l.kind = .name ∨ l.kind = .comment) → ∃ k < lines.length, l.row = k + 1 := by
  obtain ⟨lines, hann⟩ : ∃ lines, annotate t os comment = .ok lines := by
    rw [annotate, h]
    exact ⟨_, rfl⟩
  obtain ⟨ls', hlex, hlen, hlines⟩ := annotates_annotate hann
  obtain rfl : ls = ls' := by simpa [h] using hlex
  refine ⟨lines, hann, hlen, fun k hk => (hlines k (hlen ▸ hk)).rendersLine h, fun l hl hkind => ?_⟩
  have hs : l.isSpelled := by simpa [Lexeme.isSpelled] using hkind
  have hsits := Syntax.sits_of_lexemes h l hl
  have hpos := hsits.row_pos
  have hle := row_le_of_isSpelled hsits hs
  exact ⟨l.row - 1, by omega, by omega⟩

/-- A name with an anchor, a linked name and a comment. -/
def linkedField : Text := Text.of "x: int # n\n"

/-- The lexemes of the field. -/
def linkedFieldLexemes : List Lexeme :=
  [⟨.name, Text.of "x", 1, 0, 1⟩, ⟨.op, Text.of ":", 1, 1, 1⟩, ⟨.name, Text.of "int", 1, 3, 1⟩,
    ⟨.comment, Text.of "# n", 1, 7, 1⟩, ⟨.newline, Text.of "\n", 1, 10, 1⟩, ⟨.endMark, [], 2, 0, 2⟩]

/-- The occurrences of the names of the field. -/
def linkedFieldOccurrences : List Occurrence :=
  [⟨Text.of "x", 1, 0, some ⟨Text.of "x", .variable⟩, none⟩,
    ⟨Text.of "int", 1, 3, none, some (Text.of "/builtins#int")⟩]

/-- A field with an anchor, a linked type and a comment. -/
theorem annotate_rendersLines_linkedField :
    lexemes linkedField = .ok linkedFieldLexemes ∧
      ∃ lines, annotate linkedField linkedFieldOccurrences id = .ok lines ∧ lines.length = 2 ∧
        ∀ k < lines.length, RendersLine (occurrenceAt? linkedFieldOccurrences) id
          linkedFieldLexemes k ((piecesOf linkedField).getD k []) (lineAt lines k) := by
  have hlex : lexemes linkedField = .ok linkedFieldLexemes := by decide +kernel
  obtain ⟨lines, hann, hlen, hlines, -⟩ := annotate_rendersLines linkedFieldOccurrences id hlex
  exact ⟨hlex, lines, hann, hlen, hlines⟩

end ApiPage.Page
