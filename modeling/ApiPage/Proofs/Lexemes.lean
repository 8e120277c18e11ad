import Mathlib
import ApiPage.Syntax.Lexeme

/-!
# Lexemes in order

Where the lexemes of a text stand. Each begins inside a line of the text or past its last line, a
name and a comment stand in the text as they are spelled, and none begins before the one in front of
it ends.

## Conventions

A lexeme *ends* after its spelling if it is a name or a comment. Of all others only the beginning is
kept track of: what lies behind it, up to the next lexeme, is text that belongs to no name and no
comment.

## Main definitions

* `Lexeme.Sits`: the lexeme stands in some lines.
* `Lexeme.Precedes`: the lexeme ends before another begins.

## Main results

* `sits_of_lexemes`, `pairwise_precedes_lexemes`: the lexemes of a text stand in its lines, in
  order.
-/

namespace ApiPage

/-! ### Lines with their ends -/

namespace Text

/-- A line with its end: the newline, unless the line is the last. -/
def EndsLine (content line : Text) : Prop :=
  '\n' ∉ content ∧ (line = content ++ ['\n'] ∨ line = content)

/-- A text has at least one piece. -/
theorem splitBy_ne_nil (p : Char → Bool) (t : Text) : splitBy p t ≠ [] := by
  cases t with
  | nil => simp [splitBy]
  | cons c r =>
    rw [splitBy]
    split
    · simp
    · split <;> simp

/-- The pieces on both sides of a character that divides. -/
theorem splitBy_append {p : Char → Bool} {c : Char} (hc : p c = true) (t u : Text) :
    splitBy p (t ++ c :: u) = splitBy p t ++ splitBy p u := by
  induction t with
  | nil => simp [splitBy, hc]
  | cons d t ih =>
    rw [List.cons_append, splitBy, splitBy, ih]
    split
    · rfl
    · obtain ⟨q, qs, hqs⟩ := List.exists_cons_of_ne_nil (splitBy_ne_nil p t)
      rw [hqs]
      rfl

/-- A newline ends an empty line. -/
theorem lines_newline (t : Text) : lines ('\n' :: t) = [] :: lines t := by
  simp [lines, splitBy]

/-- Another character begins the first line. -/
theorem lines_cons {c : Char} (h : c ≠ '\n') (t : Text) :
    ∃ q qs, lines t = q :: qs ∧ lines (c :: t) = (c :: q) :: qs := by
  obtain ⟨q, qs, hq⟩ := List.exists_cons_of_ne_nil (splitBy_ne_nil (· == '\n') t)
  exact ⟨q, qs, hq, by simp [lines, splitBy, h, hq]⟩

/-- A line holds no newline. -/
theorem newline_not_mem_lines {t l : Text} (h : l ∈ lines t) : '\n' ∉ l := by
  induction t generalizing l with
  | nil =>
    obtain rfl : l = [] := by simpa [lines, splitBy] using h
    simp
  | cons c t ih =>
    by_cases hc : c = '\n'
    · subst hc
      rw [lines_newline, List.mem_cons] at h
      rcases h with rfl | h
      · simp
      · exact ih h
    · obtain ⟨q, qs, hq, hcq⟩ := lines_cons hc t
      rw [hcq, List.mem_cons] at h
      rcases h with rfl | h
      · have hq' : '\n' ∉ q := ih (by simp [hq])
        simp [Ne.symm hc, hq']
      · exact ih (by simp [hq, h])

/-- **The lines with their ends are the lines**, each with its newline; an empty last line is left
out. -/
theorem lines_eq_of_linesWithEnds (t : Text) :
    ∃ ls last, lines t = ls ++ [last] ∧
      linesWithEnds t = ls.map (· ++ ['\n']) ++ if last = [] then [] else [last] := by
  induction t with
  | nil => exact ⟨[], [], rfl, rfl⟩
  | cons c t ih =>
    obtain ⟨ls, last, hl, he⟩ := ih
    by_cases hc : c = '\n'
    · subst hc
      exact ⟨[] :: ls, last, by simp [lines_newline, hl], by simp [linesWithEnds, he]⟩
    · obtain ⟨q, qs, hq, hcq⟩ := lines_cons hc t
      rw [hl] at hq
      cases ls with
      | nil =>
        obtain ⟨rfl, rfl⟩ : last = q ∧ [] = qs := by simpa using hq
        refine ⟨[], c :: last, by simp [hcq], ?_⟩
        by_cases hlast : last = []
        · simp [linesWithEnds, hc, he, hlast]
        · simp [linesWithEnds, hc, he, hlast]
      | cons l ls =>
        obtain ⟨rfl, rfl⟩ : l = q ∧ ls ++ [last] = qs := by simpa using hq
        exact ⟨(c :: l) :: ls, last, by simp [hcq], by simp [linesWithEnds, hc, he]⟩

/-- A line with its end is the line of its row. -/
theorem exists_line_of_linesWithEnds {t line : Text} {i : Nat}
    (h : (linesWithEnds t)[i]? = some line) :
    ∃ content, (lines t)[i]? = some content ∧ EndsLine content line := by
  obtain ⟨ls, last, hl, he⟩ := lines_eq_of_linesWithEnds t
  rw [he] at h
  by_cases hi : i < ls.length
  · rw [List.getElem?_append_left (by simpa using hi), List.getElem?_map,
      List.getElem?_eq_getElem hi] at h
    have hmem : ls[i] ∈ lines t := by simp [hl]
    refine ⟨ls[i], ?_, newline_not_mem_lines hmem, .inl ?_⟩
    · rw [hl, List.getElem?_append_left hi, List.getElem?_eq_getElem hi]
    · simpa using h.symm
  · rw [List.getElem?_append_right (by simpa using hi), List.length_map] at h
    by_cases hlast : last = []
    · simp [hlast] at h
    · rw [if_neg hlast, List.getElem?_singleton] at h
      obtain ⟨hi', rfl⟩ : i - ls.length = 0 ∧ last = line := by simpa using h
      have hi : i = ls.length := by omega
      have hmem : last ∈ lines t := by simp [hl]
      exact ⟨last, by simp [hl, hi], newline_not_mem_lines hmem, .inr rfl⟩

end Text

namespace Syntax

namespace Lexeme

/-! ### Places of lexemes -/

/-- The lexeme is a name or a comment. -/
def isSpelled (l : Lexeme) : Bool := l.kind = .name || l.kind = .comment

/-- The column after a name or a comment; the first column of any other lexeme. -/
def stop (l : Lexeme) : Nat := l.col + if l.isSpelled then l.text.length else 0

/-- **The lexeme stands in some lines**: in one of them, where a name and a comment are spelled out,
or past the last. -/
structure Sits (lines : List Text) (l : Lexeme) : Prop where
  row_pos : 0 < l.row
  col_le : ∀ line ∈ lines[l.row - 1]?, l.col ≤ line.length
  spelled : l.isSpelled →
    l.endRow = l.row ∧ ∃ line ∈ lines[l.row - 1]?, l.text <+: line.drop l.col

/-- The lexeme ends at a place or before it. -/
def EndsBy (l : Lexeme) (row col : Nat) : Prop := l.row < row ∨ l.row = row ∧ l.stop ≤ col

/-- **The lexeme ends before another begins**. -/
def Precedes (l m : Lexeme) : Prop := l.EndsBy m.row m.col

/-- What ends by a place ends by a later one. -/
theorem EndsBy.mono {l : Lexeme} {row col row' col' : Nat} (h : l.EndsBy row col)
    (hle : row < row' ∨ row = row' ∧ col ≤ col') : l.EndsBy row' col' := by
  unfold EndsBy at *
  omega

/-- A lexeme ends inside its line. -/
theorem Sits.stop_le {lines : List Text} {l : Lexeme} (h : l.Sits lines) {line : Text}
    (hline : lines[l.row - 1]? = some line) : l.stop ≤ line.length := by
  have hcol := h.col_le line hline
  by_cases hs : l.isSpelled
  · obtain ⟨-, line', hline', hpre⟩ := h.spelled hs
    obtain rfl : line = line' := by simpa [hline] using hline'
    have hlen := hpre.length_le
    rw [List.length_drop] at hlen
    simp only [stop, hs, if_true]
    omega
  · simpa [stop, hs] using hcol

end Lexeme

namespace Lexer

/-- Lexemes found so far, last first: they stand in the lines, in order, and end by a place. -/
structure Placed (lines : List Text) (row col : Nat) (found : List Lexeme) : Prop where
  sits : ∀ l ∈ found, l.Sits lines
  ends : ∀ l ∈ found, l.EndsBy row col
  ordered : found.Pairwise fun m l => l.Precedes m

namespace Placed

variable {lines : List Text} {row col row' col' : Nat} {found : List Lexeme}

/-- No lexemes are placed. -/
theorem nil : Placed lines row col [] := ⟨by simp, by simp, List.Pairwise.nil⟩

/-- Lexemes placed up to one place are placed up to a later one. -/
theorem mono (h : Placed lines row col found) (hle : row < row' ∨ row = row' ∧ col ≤ col') :
    Placed lines row' col' found :=
  ⟨h.sits, fun l hl => (h.ends l hl).mono hle, h.ordered⟩

/-- A lexeme at the place or after it may be put in front. -/
theorem push {l : Lexeme} (h : Placed lines l.row l.col found) (hl : l.Sits lines)
    (hcol : l.stop ≤ col') : Placed lines l.row col' (l :: found) where
  sits := List.forall_mem_cons.mpr ⟨hl, h.sits⟩
  ends := by
    refine List.forall_mem_cons.mpr ⟨.inr ⟨rfl, hcol⟩, fun m hm => (h.ends m hm).mono ?_⟩
    have hstop : l.col ≤ l.stop := Nat.le_add_right _ _
    exact .inr ⟨rfl, by omega⟩
  ordered := List.pairwise_cons.mpr ⟨h.ends, h.ordered⟩

/-- A lexeme that is neither name nor comment may be put in front. -/
theorem pushMark {kind : LexemeKind} {text : Text} {endRow : Nat}
    (h : Placed lines row col found) (hkind : kind ≠ .name ∧ kind ≠ .comment) (hrow : 0 < row)
    (hline : ∀ l ∈ lines[row - 1]?, col ≤ l.length) (hcol : col ≤ col') :
    Placed lines row col' (⟨kind, text, row, col, endRow⟩ :: found) := by
  have hs : (⟨kind, text, row, col, endRow⟩ : Lexeme).isSpelled = false := by
    simp [Lexeme.isSpelled, hkind]
  have hsits : (⟨kind, text, row, col, endRow⟩ : Lexeme).Sits lines :=
    ⟨hrow, hline, fun hspelled => absurd hspelled (by simp [hs])⟩
  refine push h hsits ?_
  simpa [Lexeme.stop, hs] using hcol

end Placed

/-! ### Pieces of a line -/

/-- A newline is no word character. -/
theorem isWord_newline : Text.isWord ('\n' : Char).toNat = false := by decide

/-- A quoted piece is a string, or opens one. -/
theorem kind_of_stringPiece {t : Text} {kind : LexemeKind} {n : Nat}
    (h : stringPiece t = some (.lexeme kind n)) : kind = .string := by
  unfold stringPiece at h
  split at h
  · exact absurd h (by simp)
  · split at h
    · split at h
      · split at h
        · exact (Piece.lexeme.inj (Option.some.inj h)).1.symm
        · exact absurd h (by simp)
      · obtain ⟨m, -, hm⟩ := Option.map_eq_some_iff.mp h
        split at hm
        · exact absurd hm (by simp)
        · exact (Piece.lexeme.inj hm).1.symm
    · exact absurd h (by simp)

/-- A name and a comment hold no newline. -/
theorem newline_not_mem_of_pieceAt {t : Text} {kind : LexemeKind} {n : Nat}
    (h : pieceAt t = .lexeme kind n) (hk : kind = .name ∨ kind = .comment) :
    '\n' ∉ t.take n := by
  unfold pieceAt at h
  split at h
  · exact absurd h (by simp)
  · exact absurd h (by simp)
  · exact absurd h (by simp)
  · next r =>
    obtain ⟨rfl, rfl⟩ : LexemeKind.comment = kind ∧
        1 + (r.takeWhile fun c => c != '\r' && c != '\n').length = n := by simpa using h
    rw [Nat.add_comm, List.take_succ_cons,
      ← List.prefix_iff_eq_take.mp (List.takeWhile_prefix fun c => c != '\r' && c != '\n')]
    intro hmem
    rcases List.mem_cons.mp hmem with heq | hmem
    · exact absurd heq (by decide)
    · exact absurd (List.mem_takeWhile_imp hmem) (by decide)
  · obtain ⟨rfl, -⟩ : LexemeKind.newline = kind ∧ 1 = n := by simpa using h
    exact absurd hk (by simp)
  · obtain ⟨rfl, -⟩ : LexemeKind.newline = kind ∧ 2 = n := by simpa using h
    exact absurd hk (by simp)
  · next c r _ _ _ _ _ =>
    split at h
    · next p hp =>
      subst h
      exact absurd hk (by simp [kind_of_stringPiece hp])
    · split at h
      · obtain ⟨rfl, -⟩ := Piece.lexeme.inj h
        exact absurd hk (by simp)
      · split at h
        · obtain ⟨rfl, -⟩ := Piece.lexeme.inj h
          exact absurd hk (by simp)
        · split at h
          · obtain ⟨rfl, -⟩ := Piece.lexeme.inj h
            exact absurd hk (by simp)
          · next k hlen =>
            obtain ⟨-, rfl⟩ := Piece.lexeme.inj h
            rw [← List.prefix_iff_eq_take.mp (List.takeWhile_prefix _)]
            intro hmem
            have hword := List.mem_takeWhile_imp hmem
            rw [isWord_newline] at hword
            exact absurd hword (by simp)

/-! ### Reading lines -/

/-- What is taken from a line with its end, and holds no newline, is taken from the line. -/
theorem take_isPrefix_of_endsLine {content line : Text} {col n : Nat}
    (hline : Text.EndsLine content line) (hcol : col ≤ content.length)
    (hn : '\n' ∉ (line.drop col).take n) : (line.drop col).take n <+: content.drop col := by
  obtain ⟨-, rfl | rfl⟩ := hline
  · rw [List.drop_append_of_le_length hcol] at hn ⊢
    by_cases hle : n ≤ (content.drop col).length
    · rw [List.take_append_of_le_length hle]
      exact List.take_prefix n _
    · obtain ⟨k, hk⟩ := Nat.exists_eq_add_of_lt (Nat.sub_pos_of_lt (Nat.lt_of_not_le hle))
      rw [List.take_append, hk, Nat.zero_add] at hn
      exact absurd (List.mem_append_right _ List.mem_cons_self) hn
  · exact List.take_prefix n _

/-- **State before a row**: the lexemes so far end by the row above it, and by the start of the
string that is open. -/
def Ready (lines : List Text) (row : Nat) (s : State) : Prop :=
  match s.openString with
  | none => ∃ col, Placed lines (row - 1) col s.found
  | some o => 0 < o.row ∧ o.row < row ∧ (∀ l ∈ lines[o.row - 1]?, o.col ≤ l.length) ∧
      Placed lines o.row o.col s.found

section Row

variable {lines : List Text} {row : Nat} {content line : Text}

/-- A column of a line where text is left lies in the line. -/
theorem col_le_of_drop_ne_nil (hline : Text.EndsLine content line) {col : Nat}
    (h : line.drop col ≠ []) : col ≤ content.length := by
  have hlt : col < line.length := by simpa using h
  obtain ⟨-, rfl | rfl⟩ := hline
  · simpa [Nat.lt_succ_iff] using hlt
  · exact hlt.le

/-- **Reading the rest of a line** puts lexemes in order behind those that are placed. -/
theorem ready_scan (hrow : 0 < row) (hat : lines[row - 1]? = some content)
    (hline : Text.EndsLine content line) {fuel col : Nat} {s : State}
    (hopen : s.openString = none) (hs : Placed lines row col s.found) :
    Ready lines (row + 1) (scan row fuel col (line.drop col) s) := by
  induction fuel generalizing col s with
  | zero =>
    simp only [scan, Ready, hopen]
    exact ⟨col, hs⟩
  | succ fuel ih =>
    have hcols : ∀ {c : Nat}, line.drop c ≠ [] → ∀ l ∈ lines[row - 1]?, c ≤ l.length := by
      intro c hc l hl
      obtain rfl : content = l := by simpa [hat] using hl
      exact col_le_of_drop_ne_nil hline hc
    rw [scan]
    set gap := ((line.drop col).takeWhile isGap).length with hgap
    have hdrop : (line.drop col).drop gap = line.drop (col + gap) := List.drop_drop
    have hafter : ∀ n, (line.drop (col + gap)).drop n = line.drop (col + gap + n) :=
      fun n => List.drop_drop
    have hmove : ∀ n, Placed lines row (col + gap + n) s.found :=
      fun n => hs.mono (.inr ⟨rfl, by omega⟩)
    simp only [hdrop, hafter]
    split
    · simp only [Ready, hopen]
      exact ⟨col, hs⟩
    · next n hp => exact ih hopen (hmove n)
    · next q triple hp =>
      have hne : line.drop (col + gap) ≠ [] := by
        intro hnil
        simp [hnil, pieceAt] at hp
      exact ⟨hrow, Nat.lt_succ_self row, hcols hne, hmove 0⟩
    · next n hp =>
      have hne : line.drop col ≠ [] := by
        intro hnil
        simp [← hdrop, hnil, pieceAt] at hp
      have hd : (line.drop col).drop 1 = line.drop (col + 1) := List.drop_drop
      rw [hd]
      exact ih hopen (hs.pushMark (by simp) hrow (hcols hne) (by omega))
    · next kind n hkind hp =>
      have hne : line.drop (col + gap) ≠ [] := by
        intro hnil
        simp [hnil, pieceAt] at hp
      set kind' := if kind = .newline && 0 < s.nesting then LexemeKind.lineBreak else kind
        with hkind'
      have hpush : Placed lines row (col + gap + n)
          (⟨kind', (line.drop (col + gap)).take n, row, col + gap, row⟩ :: s.found) := by
        by_cases hspelled : kind = .name ∨ kind = .comment
        · have hk : kind' = kind := by grind
          have hpre := take_isPrefix_of_endsLine hline (col_le_of_drop_ne_nil hline hne)
            (newline_not_mem_of_pieceAt hp hspelled)
          have hsits : Lexeme.Sits lines
              ⟨kind', (line.drop (col + gap)).take n, row, col + gap, row⟩ :=
            ⟨hrow, hcols hne, fun _ => ⟨rfl, content, hat, hpre⟩⟩
          have hlen := List.length_take_le n (line.drop (col + gap))
          refine (hmove 0).push hsits ?_
          simp only [Lexeme.stop]
          split <;> omega
        · exact (hmove 0).pushMark (by grind) hrow (hcols hne) (by omega)
      have hnext : ∀ s' : State, s'.openString = none → s'.found = s.found →
          Ready lines (row + 1) (scan row fuel (col + gap + n) (line.drop (col + gap + n))
            (s'.push ⟨kind', (line.drop (col + gap)).take n, row, col + gap, row⟩)) := by
        intro s' hopen' hfound
        refine ih hopen' ?_
        rw [State.push, hfound]
        exact hpush
      refine hnext _ ?_ ?_
      · split <;> exact hopen
      · split <;> rfl

/-- Placed lexemes stay in order while the indentations that a line ends are closed. -/
theorem placed_closeIndents (hrow : 0 < row) {col width : Nat}
    (hcol : ∀ l ∈ lines[row - 1]?, col ≤ l.length) {indents : List Nat} {s s' : State}
    (hs : Placed lines row col s.found) (h : closeIndents row col width indents s = .ok s') :
    s'.openString = s.openString ∧ Placed lines row col s'.found := by
  induction indents generalizing s with
  | nil =>
    obtain rfl := Except.ok.inj h
    exact ⟨rfl, hs⟩
  | cons i is ih =>
    rw [closeIndents] at h
    split at h
    · split at h
      · obtain ⟨hopen, hp⟩ := ih (hs.pushMark (by simp) hrow hcol le_rfl) h
        exact ⟨hopen, hp⟩
      · exact absurd h (by simp)
    · obtain rfl := Except.ok.inj h
      exact ⟨rfl, hs⟩

/-- A comment that is alone on its line stands in the line. -/
theorem dropEnd_isPrefix_of_endsLine (hline : Text.EndsLine content line) {col : Nat}
    (hcol : col ≤ content.length) :
    Text.dropEnd (fun c => c == '\r' || c == '\n') (line.drop col) <+: content.drop col := by
  have hpre : ∀ t : Text, Text.dropEnd (fun c => c == '\r' || c == '\n') t <+: t := by
    intro t
    rw [Text.dropEnd, ← List.reverse_suffix, List.reverse_reverse]
    exact List.dropWhile_suffix _
  obtain ⟨-, rfl | rfl⟩ := hline
  · rw [List.drop_append_of_le_length hcol]
    have hend : Text.dropEnd (fun c => c == '\r' || c == '\n') (content.drop col ++ ['\n']) =
        Text.dropEnd (fun c => c == '\r' || c == '\n') (content.drop col) := by
      simp [Text.dropEnd]
    rw [hend]
    exact hpre _
  · exact hpre _

/-- **Reading a line that begins a statement** puts lexemes in order behind those above it. A line
that ends the text adds none. -/
theorem ready_readStatement (hrow : 0 < row) (hat : lines[row - 1]? = some content)
    (hline : Text.EndsLine content line) {s s' : State} {last : Bool}
    (hopen : s.openString = none) (hs : Ready lines row s)
    (h : readStatement row line s = .ok (s', last)) :
    if last then s' = s else Ready lines (row + 1) s' := by
  have habove : ∀ col, Placed lines row col s.found := by
    intro col
    simp only [Ready, hopen] at hs
    obtain ⟨c, hc⟩ := hs
    exact hc.mono (.inl (by omega))
  set col := (line.takeWhile isGap).length with hcol
  have hcols : ∀ {c : Nat}, c ≤ content.length → ∀ l ∈ lines[row - 1]?, c ≤ l.length := by
    intro c hc l hl
    obtain rfl : content = l := by simpa [hat] using hl
    exact hc
  unfold readStatement at h
  simp only [← hcol] at h
  split at h
  · obtain ⟨rfl, rfl⟩ : s = s' ∧ true = last := by simpa using h
    rfl
  · next r hr =>
    have hle : col ≤ content.length := col_le_of_drop_ne_nil hline (by simp [hr])
    have hpre := dropEnd_isPrefix_of_endsLine hline hle
    rw [hr] at hpre
    set comment := Text.dropEnd (fun c => c == '\r' || c == '\n') ('#' :: r)
    obtain ⟨rfl, rfl⟩ := Prod.mk.inj (Except.ok.inj h)
    have hlen := hpre.length_le
    rw [List.length_drop] at hlen
    have hsits : Lexeme.Sits lines ⟨.comment, comment, row, col, row⟩ :=
      ⟨hrow, hcols hle, fun _ => ⟨rfl, content, hat, hpre⟩⟩
    have hcomment := Placed.push (habove col) hsits (le_refl (col + comment.length))
    have hbreak : Placed lines row (col + comment.length)
        (⟨.lineBreak, line.drop (col + comment.length), row, col + comment.length, row⟩ ::
          ⟨.comment, comment, row, col, row⟩ :: s.found) :=
      hcomment.pushMark (by simp) hrow (hcols (by omega)) le_rfl
    simp only [Bool.false_eq_true, if_false, Ready, State.push, hopen]
    exact ⟨_, hbreak⟩
  · next c r _ hr =>
    have hle : col ≤ content.length := col_le_of_drop_ne_nil hline (by simp [hr])
    split at h
    · obtain ⟨rfl, rfl⟩ := Prod.mk.inj (Except.ok.inj h)
      simp only [Bool.false_eq_true, if_false, Ready, State.push, hopen]
      exact ⟨col, (habove col).pushMark (by simp) hrow (hcols hle) le_rfl⟩
    · split at h
      · obtain ⟨rfl, rfl⟩ := Prod.mk.inj (Except.ok.inj h)
        rw [if_neg (by simp), scanRest, ← hr]
        exact ready_scan hrow hat hline hopen
          ((habove 0).pushMark (by simp) hrow (hcols (Nat.zero_le _)) (Nat.zero_le _))
      · simp only [bind, Except.bind] at h
        split at h
        · exact absurd h (by simp)
        · next s₁ hclose =>
          obtain ⟨rfl, rfl⟩ := Prod.mk.inj (Except.ok.inj h)
          obtain ⟨hopen₁, hs₁⟩ := placed_closeIndents hrow (hcols hle) (habove col) hclose
          rw [if_neg (by simp), scanRest, ← hr]
          exact ready_scan hrow hat hline (hopen₁.trans hopen) hs₁

/-- **Reading a line inside a string** puts lexemes in order behind those before the string. -/
theorem ready_readString (hrow : 0 < row) (hat : lines[row - 1]? = some content)
    (hline : Text.EndsLine content line) {s : State} {o : OpenString}
    (hopen : s.openString = some o) (hs : Ready lines row s) :
    Ready lines (row + 1) (readString row line o s) := by
  simp only [Ready, hopen] at hs
  obtain ⟨hpos, hlt, hcol, hp⟩ := hs
  unfold readString
  split
  · next n hn =>
    have hstring : Placed lines o.row o.col
        (⟨.string, o.text ++ line.take n, o.row, o.col, row⟩ :: s.found) :=
      hp.pushMark (by simp) hpos hcol le_rfl
    exact ready_scan hrow hat hline rfl (hstring.mono (.inl hlt))
  · dsimp only
    split
    · have hstray : Placed lines o.row o.col
          (⟨.stray, o.text ++ line, o.row, o.col, row⟩ :: s.found) :=
        hp.pushMark (by simp) hpos hcol le_rfl
      refine ⟨o.col, hstray.mono ?_⟩
      omega
    · exact ⟨hpos, hlt.trans (Nat.lt_succ_self row), hcol, hp⟩

end Row

/-- The line above a row: it has no newline at its end only if it is the last. -/
def LastLine (lines : List Text) (row : Nat) (last : Text) : Prop :=
  last = [] ∨ 1 < row ∧ ∃ content, lines[row - 2]? = some content ∧ Text.EndsLine content last

/-- **The end of a text** puts its marks in order behind the lexemes of the text: the mark of a last
line without a newline at its end, the dedents and the end mark at the start of the next row. -/
theorem placed_finish {lines : List Text} {row : Nat} {last : Text} {s : State} (hrow : 0 < row)
    (hlast : LastLine lines row last) (hopen : s.openString = none) (hs : Ready lines row s) :
    ∃ col, Placed lines row col (finish row last s).reverse := by
  simp only [Ready, hopen] at hs
  obtain ⟨col, hp⟩ := hs
  have hzero : ∀ l ∈ lines[row - 1]?, 0 ≤ l.length := fun l _ => Nat.zero_le _
  have hmarks : ∀ (n : List Nat) (s : State), Placed lines row 0 s.found →
      Placed lines row 0
        ((n.foldl (fun s _ => s.push ⟨.dedent, [], row, 0, row⟩) s).push
          ⟨.endMark, [], row, 0, row⟩).found := by
    intro n
    induction n with
    | nil => exact fun s h => h.pushMark (by simp) hrow hzero le_rfl
    | cons _ n ih => exact fun s h => ih _ (h.pushMark (by simp) hrow hzero le_rfl)
  refine ⟨0, ?_⟩
  unfold finish
  dsimp only
  rw [List.reverse_reverse]
  have habove : Placed lines row 0 s.found := hp.mono (.inl (by omega))
  refine hmarks _ _ ?_
  split
  · exact habove
  · next c hc =>
    split
    · exact habove
    · next hends =>
      rcases hlast with rfl | ⟨h1, content, hat, hline⟩
      · exact absurd hc (by simp)
      · have hrow' : row - 1 - 1 = row - 2 := by omega
        obtain rfl : last = content := by
          obtain ⟨-, rfl | rfl⟩ := hline
          · obtain rfl : '\n' = c := by simpa using hc
            exact absurd hends (by simp)
          · rfl
        have hend : Placed lines (row - 1) last.length s.found := by
          refine ⟨hp.sits, fun l hl => ?_, hp.ordered⟩
          rcases hp.ends l hl with hlt | ⟨heq, -⟩
          · exact .inl hlt
          · refine .inr ⟨heq, (hp.sits l hl).stop_le ?_⟩
            rw [heq, hrow', hat]
        have hmark : Placed lines (row - 1) last.length
            (⟨.newline, [], row - 1, last.length, row - 1⟩ :: s.found) := by
          refine hend.pushMark (by simp) (by omega) (fun l hl => ?_) le_rfl
          rw [hrow', hat] at hl
          obtain rfl := Option.some.inj hl
          exact le_rfl
        exact hmark.mono (.inl (Nat.sub_lt hrow Nat.one_pos))

/-- **Reading lines** puts all lexemes in order. -/
theorem placed_readLines {lines : List Text} {rest : List Text} {row : Nat} {last : Text}
    {s : State} {ls : List Lexeme} (hrow : 0 < row)
    (hrest : ∀ i line, rest[i]? = some line →
      ∃ content, lines[row - 1 + i]? = some content ∧ Text.EndsLine content line)
    (hlast : LastLine lines row last) (hs : Ready lines row s)
    (h : readLines row last rest s = .ok ls) :
    ∃ row col, Placed lines row col ls.reverse := by
  induction rest generalizing row last s with
  | nil =>
    rw [readLines] at h
    split at h
    · exact absurd h (by simp)
    · next hopen =>
      split at h
      · obtain rfl := Except.ok.inj h
        exact ⟨row, placed_finish hrow hlast hopen hs⟩
      · exact absurd h (by simp)
  | cons line rest ih =>
    obtain ⟨content, hat, hline⟩ := hrest 0 line rfl
    have hrest' : ∀ i line, rest[i]? = some line →
        ∃ content, lines[row + 1 - 1 + i]? = some content ∧ Text.EndsLine content line := by
      intro i line hi
      have hadd : row + 1 - 1 + i = row - 1 + (i + 1) := by omega
      rw [hadd]
      exact hrest (i + 1) line (by simpa using hi)
    have hlast' : LastLine lines (row + 1) line := .inr ⟨by omega, content, hat, hline⟩
    rw [readLines] at h
    split at h
    · next o hopen =>
      exact ih (by omega) hrest' hlast' (ready_readString hrow hat hline hopen hs) h
    · next hopen =>
      split at h
      · split at h
        · exact absurd h (by simp)
        · next s' hstmt =>
          obtain rfl : s' = s := by simpa using ready_readStatement hrow hat hline hopen hs hstmt
          obtain rfl := Except.ok.inj h
          exact ⟨row, placed_finish hrow hlast hopen hs⟩
        · next s' hstmt =>
          have hs' : Ready lines (row + 1) s' := by
            simpa using ready_readStatement hrow hat hline hopen hs hstmt
          exact ih (by omega) hrest' hlast' hs' h
      · have hs' : Ready lines (row + 1) (scanRest row 0 line { s with joined := false }) := by
          simp only [Ready, hopen] at hs
          obtain ⟨col, hp⟩ := hs
          exact ready_scan hrow hat hline hopen (hp.mono (.inl (by omega)))
        exact ih (by omega) hrest' hlast' hs' h

end Lexer

/-! ### The lexemes of a text -/

/-- **The lexemes of a text are placed** in its lines, one behind another. -/
theorem placed_lexemes {t : Text} {ls : List Lexeme} (h : lexemes t = .ok ls) :
    ∃ row col, Lexer.Placed (Text.lines t) row col ls.reverse := by
  refine Lexer.placed_readLines Nat.one_pos (fun i line hi => ?_) (.inl rfl)
    (s := ⟨0, false, none, false, [0], []⟩) ⟨0, Lexer.Placed.nil⟩ h
  rw [Nat.sub_self, Nat.zero_add]
  exact Text.exists_line_of_linesWithEnds hi

/-- **The lexemes of a text stand in its lines.** -/
theorem sits_of_lexemes {t : Text} {ls : List Lexeme} (h : lexemes t = .ok ls) :
    ∀ l ∈ ls, l.Sits (Text.lines t) := by
  obtain ⟨row, col, hp⟩ := placed_lexemes h
  exact fun l hl => hp.sits l (List.mem_reverse.mpr hl)

/-- **The lexemes of a text are in order**: each ends before the next begins. -/
theorem pairwise_precedes_lexemes {t : Text} {ls : List Lexeme} (h : lexemes t = .ok ls) :
    ls.Pairwise Lexeme.Precedes := by
  obtain ⟨row, col, hp⟩ := placed_lexemes h
  simpa [List.pairwise_reverse] using hp.ordered

end Syntax
end ApiPage
