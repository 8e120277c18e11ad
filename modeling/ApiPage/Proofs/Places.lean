import Mathlib
import ApiPage.Page.Annotate
import ApiPage.Proofs.Lexemes

/-!
# Places in a text

Annotation counts offsets, lexemes count rows and columns. Here the two are brought together. A
place is a row with a column before the newline of its line. It is an offset of the text, and a
*cursor* in every line of it: after the lines above, at the column in its own line, and at the start
of the lines below. The text between two places is, line by line, what lies between their cursors.

## Main definitions

* `Page.cursor`: the cursor of a place in a line.
* `Page.InText`: the place lies in a text.

## Main results

* `Page.exists_piecesOf`: the lines of a text with their newlines.
* `Page.piecesOf_between`: the text between two places, line by line.
* `Page.offsetOf_eq_offset`: the offset of a lexeme is that of its place.
-/

namespace ApiPage.Page

open Syntax (Lexeme LexemeKind LexError lexemes)

/-! ### The lines of a text and its offsets -/

/-- A line with its newline. -/
def Terminated (p : Text) : Prop := ∃ u, p = u ++ ['\n'] ∧ '\n' ∉ u

/-- An empty text is one empty line. -/
theorem piecesOf_nil : piecesOf [] = [[]] := rfl

/-- A newline ends a line. -/
theorem piecesOf_newline (t : Text) : piecesOf ('\n' :: t) = ['\n'] :: piecesOf t := by
  obtain ⟨q, qs, hq⟩ := List.exists_cons_of_ne_nil (Text.splitBy_ne_nil (· == '\n') t)
  have hl : Text.lines t = q :: qs := hq
  simp [piecesOf, Text.lines_newline, hl]

/-- Another character begins the first line. -/
theorem piecesOf_cons {c : Char} (h : c ≠ '\n') (t : Text) :
    ∃ p ps, piecesOf t = p :: ps ∧ piecesOf (c :: t) = (c :: p) :: ps := by
  obtain ⟨q, qs, hq, hcq⟩ := Text.lines_cons h t
  cases qs with
  | nil => exact ⟨q, [], by simp [piecesOf, hq], by simp [piecesOf, hcq]⟩
  | cons q' qs =>
    refine ⟨q ++ ['\n'], (q' :: qs).dropLast.map (· ++ ['\n']) ++ [(q' :: qs).getLast?.getD []],
      ?_, ?_⟩
    · rw [piecesOf, hq]
      rfl
    · rw [piecesOf, hcq]
      rfl

/-- The lines with their ends are the text. -/
theorem flatten_piecesOf (t : Text) : (piecesOf t).flatten = t := by
  induction t with
  | nil => rfl
  | cons c t ih =>
    by_cases hc : c = '\n'
    · subst hc
      simp [piecesOf_newline, ih]
    · obtain ⟨p, ps, hp, hcp⟩ := piecesOf_cons hc t
      rw [hp, List.flatten_cons] at ih
      rw [hcp, List.flatten_cons, List.cons_append, ih]

/-- Text without a newline goes in front of the first piece. -/
theorem piecesOf_append {u : Text} (h : '\n' ∉ u) (t : Text) :
    ∃ p ps, piecesOf t = p :: ps ∧ piecesOf (u ++ t) = (u ++ p) :: ps := by
  induction u with
  | nil =>
    have hne : piecesOf t ≠ [] := by simp [piecesOf]
    obtain ⟨p, ps, hp⟩ := List.exists_cons_of_ne_nil hne
    exact ⟨p, ps, hp, hp⟩
  | cons c u ih =>
    obtain ⟨hc, hu⟩ : '\n' ≠ c ∧ '\n' ∉ u := by simpa using h
    obtain ⟨p, ps, hp, hup⟩ := ih hu
    obtain ⟨p', ps', hp', hcp⟩ := piecesOf_cons (Ne.symm hc) (u ++ t)
    obtain ⟨rfl, rfl⟩ : p' = u ++ p ∧ ps' = ps := by simpa [hup] using hp'.symm
    exact ⟨p, ps', hp, hcp⟩

/-- **Lines put together are cut into the same lines.** -/
theorem piecesOf_flatten_append {ls : List Text} {last : Text} (hls : ∀ p ∈ ls, Terminated p)
    (hlast : '\n' ∉ last) : piecesOf (ls.flatten ++ last) = ls ++ [last] := by
  induction ls with
  | nil =>
    obtain ⟨p, ps, hp, hup⟩ := piecesOf_append hlast []
    obtain ⟨rfl, rfl⟩ : [] = p ∧ [] = ps := by simpa [piecesOf_nil] using hp
    simpa using hup
  | cons p ls ih =>
    obtain ⟨u, rfl, hu⟩ := hls _ List.mem_cons_self
    have htail := ih fun q hq => hls q (List.mem_cons_of_mem _ hq)
    obtain ⟨p, ps, hp, hup⟩ := piecesOf_append hu ('\n' :: (ls.flatten ++ last))
    rw [piecesOf_newline] at hp
    obtain ⟨rfl, rfl⟩ := List.cons.inj hp
    simpa [htail] using hup

/-- **The lines of a text**: all but the last end in a newline, and together they are the text. -/
theorem exists_piecesOf (t : Text) :
    ∃ ls last, piecesOf t = ls ++ [last] ∧ t = ls.flatten ++ last ∧ '\n' ∉ last ∧
      (∀ p ∈ ls, Terminated p) ∧ Text.lines t = ls.map List.dropLast ++ [last] := by
  obtain ⟨ls, last, hl, -⟩ := Text.lines_eq_of_linesWithEnds t
  have hp : piecesOf t = ls.map (· ++ ['\n']) ++ [last] := by simp [piecesOf, hl]
  have hls : ∀ p ∈ ls.map (· ++ ['\n']), Terminated p := by
    intro p hmem
    obtain ⟨u, hu, rfl⟩ := List.mem_map.mp hmem
    exact ⟨u, rfl, Text.newline_not_mem_lines (t := t) (by simp [hl, hu])⟩
  refine ⟨_, last, hp, ?_, Text.newline_not_mem_lines (t := t) (by simp [hl]), hls, ?_⟩
  · have hflat := flatten_piecesOf t
    rw [hp] at hflat
    simpa using hflat.symm
  · simp [hl, Function.comp_def]

/-- **Cursor in line `k`** of a place: after the line above the row of the place, at its column in
the row, and at the start below. -/
def cursor (ps : List Text) (row col k : Nat) : Nat :=
  if k < row then (ps.getD k []).length else if k = row then col else 0

/-- The offset of a place in the text that some lines make. -/
def offset (ps : List Text) (row col : Nat) : Nat := (ps.take row).flatten.length + col

/-- The part of line `k` between two cursors. -/
def slice (ps : List Text) (k start stop : Nat) : Text := ((ps.getD k []).take stop).drop start

/-- **The place lies in a text**, before the newline of its line. -/
def InText (t : Text) (row col : Nat) : Prop :=
  ∃ u v, (piecesOf t)[row]? = some (u ++ v) ∧ u.length = col ∧ '\n' ∉ u

/-- A place comes before another or is the same. -/
def PlaceLE (row col row' col' : Nat) : Prop := row < row' ∨ row = row' ∧ col ≤ col'

/-- What stands between two offsets. -/
theorem between_append (a x b : Text) :
    between (a ++ x ++ b) a.length (a ++ x).length = x := by
  simp [between, List.append_assoc]

/-- A text at a place of it. -/
theorem eq_append_of_getElem? {ps : List Text} {row : Nat} {u v : Text}
    (h : ps[row]? = some (u ++ v)) :
    ps.flatten = (ps.take row).flatten ++ u ++ (v ++ (ps.drop (row + 1)).flatten) := by
  obtain ⟨hlt, heq⟩ := List.getElem?_eq_some_iff.mp h
  have hsplit : ps = ps.take row ++ (u ++ v) :: ps.drop (row + 1) := by
    rw [← heq, ← List.drop_eq_getElem_cons hlt, List.take_append_drop]
  have hflat := congrArg List.flatten hsplit
  simpa [List.append_assoc] using hflat

/-- Every line but the last ends in a newline. -/
theorem terminated_of_lt {t p : Text} {k : Nat} (h : (piecesOf t)[k]? = some p)
    (hk : k + 1 < (piecesOf t).length) : Terminated p := by
  obtain ⟨ls, last, hps, -, -, hls, -⟩ := exists_piecesOf t
  rw [hps] at h hk
  have hlt : k < ls.length := by simpa using hk
  rw [List.getElem?_append_left hlt] at h
  exact hls p (List.mem_of_getElem? h)

/-- What follows a place in a line that ends in a newline ends in it too. -/
theorem Terminated.of_append {u v : Text} (h : Terminated (u ++ v)) (hu : '\n' ∉ u) :
    Terminated v := by
  obtain ⟨w, hw, hn⟩ := h
  have hlen : u.length ≤ w.length := by
    by_contra hlt
    have hmem : '\n' ∈ (u ++ v).take u.length := by
      rw [hw, List.take_of_length_le (by simp; omega)]
      simp
    exact hu (by simpa using hmem)
  have hv : v = w.drop u.length ++ ['\n'] := by
    have hd := congrArg (List.drop u.length) hw
    rwa [List.drop_left, List.drop_append_of_le_length hlen] at hd
  exact ⟨w.drop u.length, hv, fun hmem => hn (List.mem_of_mem_drop hmem)⟩

section Cursor

variable {ps : List Text} {row col row' col' k : Nat}

/-- The cursor is behind the lines above the row. -/
theorem cursor_of_lt (h : k < row) : cursor ps row col k = (ps.getD k []).length := if_pos h

/-- The cursor is at the column in the row. -/
theorem cursor_self : cursor ps row col row = col := by simp [cursor]

/-- The cursor is before the lines below the row. -/
theorem cursor_of_gt (h : row < k) : cursor ps row col k = 0 := by
  have h₁ : ¬k < row := by omega
  have h₂ : k ≠ row := by omega
  simp [cursor, h₁, h₂]

/-- Nothing lies between two places in a line above both. -/
theorem slice_above (h : k < row) (hle : row ≤ row') :
    slice ps k (cursor ps row col k) (cursor ps row' col' k) = [] := by
  rw [cursor_of_lt h, cursor_of_lt (h.trans_le hle), slice, List.take_length, List.drop_length]

/-- Nothing lies before a place in a line below it. -/
theorem slice_below (h : row' < k) (start : Nat) :
    slice ps k start (cursor ps row' col' k) = [] := by
  rw [cursor_of_gt h, slice, List.take_zero, List.drop_nil]

end Cursor

/-- **The text between two places, line by line**: all in one line, or the rest of the first line,
whole lines, and the start of the last. -/
theorem piecesOf_between {t : Text} {row col row' col' : Nat} (h : InText t row col)
    (h' : InText t row' col') (hle : PlaceLE row col row' col') :
    (piecesOf (between t (offset (piecesOf t) row col) (offset (piecesOf t) row' col'))).length =
        row' + 1 - row ∧
      ∀ i, (piecesOf (between t (offset (piecesOf t) row col)
          (offset (piecesOf t) row' col'))).getD i [] =
        slice (piecesOf t) (row + i) (cursor (piecesOf t) row col (row + i))
          (cursor (piecesOf t) row' col' (row + i)) := by
  obtain ⟨u, v, hat, rfl, hu⟩ := h
  obtain ⟨u', v', hat', rfl, hu'⟩ := h'
  have hflat := flatten_piecesOf t
  generalize hps : piecesOf t = ps at *
  rcases hle with hlt | ⟨rfl, hle⟩
  · set ms := (ps.drop (row + 1)).take (row' - (row + 1)) with hms
    have hrow' : row' < ps.length := (List.getElem?_eq_some_iff.mp hat').1
    have hmid : ps.take row' = ps.take row ++ (u ++ v) :: ms := by
      obtain ⟨hrow, heq⟩ := List.getElem?_eq_some_iff.mp hat
      have htake : ps.take (row + 1 + (row' - (row + 1))) = ps.take (row + 1) ++ ms :=
        List.take_add
      rw [Nat.add_sub_cancel' hlt] at htake
      rw [htake, List.take_add_one, hat]
      simp
    have htext : t = (ps.take row).flatten ++ u ++ (v ++ ms.flatten ++ u') ++
        (v' ++ (ps.drop (row' + 1)).flatten) := by
      rw [← hflat, eq_append_of_getElem? hat', hmid]
      simp
    have hbetween : between t (offset ps row u.length) (offset ps row' u'.length) =
        v ++ ms.flatten ++ u' := by
      have hcut := between_append ((ps.take row).flatten ++ u) (v ++ ms.flatten ++ u')
        (v' ++ (ps.drop (row' + 1)).flatten)
      rw [← htext] at hcut
      rw [← hcut]
      congr 1
      · simp [offset]
      · simp [offset, hmid]
        omega
    have hmlen : ms.length = row' - (row + 1) := by
      simp [hms]
      omega
    have hms_at : ∀ i, i < row' - (row + 1) → ms[i]? = ps[row + 1 + i]? := by
      intro i hi
      rw [hms, List.getElem?_take_of_lt hi, List.getElem?_drop]
    have hterm : ∀ p ∈ v :: ms, Terminated p := by
      refine List.forall_mem_cons.mpr ⟨?_, fun p hp => ?_⟩
      · exact (terminated_of_lt (hps ▸ hat) (by rw [hps]; omega)).of_append hu
      · obtain ⟨i, hi, rfl⟩ := List.mem_iff_getElem.mp hp
        have hat := hms_at i (by omega)
        rw [List.getElem?_eq_getElem hi] at hat
        exact terminated_of_lt (hps ▸ hat.symm) (by rw [hps]; omega)
    have hpieces := piecesOf_flatten_append hterm hu'
    rw [List.flatten_cons] at hpieces
    rw [hbetween, hpieces]
    refine ⟨by simp [hmlen]; omega, fun i => ?_⟩
    have hget : ps.getD row [] = u ++ v := by simp [List.getD_eq_getElem?_getD, hat]
    have hget' : ps.getD row' [] = u' ++ v' := by simp [List.getD_eq_getElem?_getD, hat']
    rcases Nat.lt_trichotomy (row + i) row' with hlt' | heq | hgt
    · rw [slice, cursor_of_lt hlt', List.take_length]
      cases i with
      | zero =>
        rw [Nat.add_zero, cursor_self, hget, List.drop_left]
        rfl
      | succ i =>
        have hmi : i < ms.length := by omega
        have hadd : row + (i + 1) = row + 1 + i := by omega
        rw [cursor_of_gt (by omega), List.drop_zero, hadd]
        simp only [List.cons_append, List.getD_eq_getElem?_getD, List.getElem?_cons_succ,
          List.getElem?_append_left hmi, hms_at i (by omega)]
    · have hi : i = ms.length + 1 := by omega
      rw [slice, heq, cursor_self, cursor_of_gt hlt, hget', List.take_left, List.drop_zero, hi]
      simp
    · rw [slice_below hgt, List.getD_eq_getElem?_getD, List.getElem?_eq_none]
      · rfl
      · simp
        omega
  · have hword : '\n' ∉ u'.drop u.length := fun hmem => hu' (List.mem_of_mem_drop hmem)
    have htext : t = ((ps.take row).flatten ++ u'.take u.length) ++ u'.drop u.length ++
        (v' ++ (ps.drop (row + 1)).flatten) := by
      rw [List.append_assoc _ (u'.take _), List.take_append_drop, ← eq_append_of_getElem? hat',
        hflat]
    have hbetween : between t (offset ps row u.length) (offset ps row u'.length) =
        u'.drop u.length := by
      have hcut := between_append ((ps.take row).flatten ++ u'.take u.length) (u'.drop u.length)
        (v' ++ (ps.drop (row + 1)).flatten)
      rw [← htext] at hcut
      rw [← hcut]
      congr 1
      · simp [offset, hle]
      · simp [offset, List.append_assoc, List.take_append_drop]
    have hone : piecesOf ([].flatten ++ u'.drop u.length) = [] ++ [u'.drop u.length] :=
      piecesOf_flatten_append (by simp) hword
    rw [List.flatten_nil, List.nil_append, List.nil_append] at hone
    rw [hbetween, hone]
    refine ⟨by simp, fun i => ?_⟩
    cases i with
    | zero =>
      have hget : ps.getD row [] = u' ++ v' := by simp [List.getD_eq_getElem?_getD, hat']
      rw [Nat.add_zero, slice, cursor_self, cursor_self, hget, List.take_left]
      rfl
    | succ i =>
      rw [slice_below (by omega)]
      rfl

/-! ### Places of lexemes -/

/-- The first line starts at the offset of the text. -/
theorem startsFrom_eq (n : Nat) (t : Text) : startsFrom n t = n :: startsFrom.rest n t := by
  cases t <;> rfl

/-- **Lines start where the lines above them end.** -/
theorem startsFrom_eq_map (n : Nat) (t : Text) :
    startsFrom n t =
      (List.range (piecesOf t).length).map fun k => n + ((piecesOf t).take k).flatten.length := by
  induction t generalizing n with
  | nil => rfl
  | cons c t ih =>
    have ih' := ih (n + 1)
    rw [startsFrom_eq] at ih'
    rw [startsFrom_eq, startsFrom.rest]
    by_cases hc : c = '\n'
    · subst hc
      rw [if_pos (by simp), ih', piecesOf_newline, List.length_cons, List.range_succ_eq_map,
        List.map_cons, List.map_map]
      congr 1
      refine List.map_congr_left fun k _ => ?_
      simp
      omega
    · obtain ⟨p, ps, hp, hcp⟩ := piecesOf_cons hc t
      rw [hp, List.length_cons, List.range_succ_eq_map, List.map_cons, List.map_map] at ih'
      rw [if_neg (by simpa using hc), hcp, List.length_cons, List.range_succ_eq_map, List.map_cons,
        List.map_map, (List.cons.inj ih').2]
      congr 1
      refine List.map_congr_left fun k _ => ?_
      simp
      omega

/-- There are as many starts as lines. -/
theorem length_startsFrom (t : Text) : (startsFrom 0 t).length = (piecesOf t).length := by
  simp [startsFrom_eq_map]

/-- The row of a lexeme, counted from zero; past the last line it is that of the last line. -/
def rowOf (t : Text) (l : Lexeme) : Nat := min l.row (piecesOf t).length - 1

/-- The column at which a lexeme begins; past the last line it is the end of the last line. -/
def colOf (t : Text) (l : Lexeme) : Nat :=
  if l.row ≤ (piecesOf t).length then l.col else ((piecesOf t).getLast?.getD []).length

/-- The column of a place in a line comes before its newline. -/
theorem inText_of_lines {t line : Text} {row col : Nat} (h : (Text.lines t)[row]? = some line)
    (hcol : col ≤ line.length) : InText t row col := by
  obtain ⟨ls, last, hps, -, hlast, hls, hlines⟩ := exists_piecesOf t
  rw [hlines] at h
  by_cases hrow : row < ls.length
  · rw [List.getElem?_append_left (by simpa using hrow), List.getElem?_map,
      List.getElem?_eq_getElem hrow] at h
    obtain ⟨u, hu, hn⟩ := hls _ (List.getElem_mem hrow)
    obtain rfl : u = line := by simpa [hu] using h
    refine ⟨u.take col, u.drop col ++ ['\n'], ?_, List.length_take_of_le hcol,
      fun hmem => hn (List.mem_of_mem_take hmem)⟩
    rw [hps, List.getElem?_append_left hrow, List.getElem?_eq_getElem hrow, hu,
      ← List.append_assoc, List.take_append_drop]
  · rw [List.getElem?_append_right (by simpa using hrow), List.length_map,
      List.getElem?_singleton] at h
    obtain ⟨hrow', rfl⟩ : row - ls.length = 0 ∧ last = line := by simpa using h
    have hrow : row = ls.length := by omega
    refine ⟨last.take col, last.drop col, ?_, List.length_take_of_le hcol,
      fun hmem => hlast (List.mem_of_mem_take hmem)⟩
    simp [hps, hrow]

/-- There are as many lines without their ends as with them. -/
theorem length_lines (t : Text) : (Text.lines t).length = (piecesOf t).length := by
  obtain ⟨ls, last, hps, -, -, -, hlines⟩ := exists_piecesOf t
  simp [hps, hlines]

/-- A text has a line. -/
theorem length_piecesOf_pos (t : Text) : 0 < (piecesOf t).length := by simp [piecesOf]

/-- A lexeme that stands in the lines of a text has its place in the text. -/
theorem inText_of_sits {t : Text} {l : Lexeme} (h : l.Sits (Text.lines t)) :
    InText t (rowOf t l) (colOf t l) := by
  have hpos := h.row_pos
  by_cases hrow : l.row ≤ (piecesOf t).length
  · obtain ⟨line, hline⟩ : ∃ line, (Text.lines t)[l.row - 1]? = some line :=
      ⟨_, List.getElem?_eq_getElem (by rw [length_lines]; omega)⟩
    rw [rowOf, colOf, if_pos hrow, Nat.min_eq_left hrow]
    exact inText_of_lines hline (h.col_le line hline)
  · obtain ⟨ls, last, hps, -, -, -, hlines⟩ := exists_piecesOf t
    rw [rowOf, colOf, if_neg hrow, Nat.min_eq_right (by omega)]
    have hline : (Text.lines t)[(piecesOf t).length - 1]? = some last := by simp [hlines, hps]
    exact inText_of_lines hline (by simp [hps])

/-- **The offset of a lexeme is that of its place.** -/
theorem offsetOf_eq_offset {t : Text} {l : Lexeme} (h : l.Sits (Text.lines t)) :
    offsetOf t (startsFrom 0 t) l.row l.col =
      offset (piecesOf t) (rowOf t l) (colOf t l) := by
  have hpos := h.row_pos
  have hlen := flatten_piecesOf t
  by_cases hrow : l.row ≤ (piecesOf t).length
  · obtain ⟨u, v, hat, hu, -⟩ := inText_of_sits h
    have hflat := eq_append_of_getElem? hat
    have hstart : (startsFrom 0 t)[l.row - 1]? =
        some ((piecesOf t).take (l.row - 1)).flatten.length := by
      rw [startsFrom_eq_map, List.getElem?_map, List.getElem?_range (by omega)]
      simp
    rw [rowOf, Nat.min_eq_left hrow] at hflat hat ⊢
    rw [colOf, if_pos hrow] at hu ⊢
    rw [offsetOf, hstart, offset]
    have hle : ((piecesOf t).take (l.row - 1)).flatten.length + l.col ≤ t.length := by
      have hsum := congrArg List.length hflat
      rw [hlen, List.length_append, List.length_append, hu] at hsum
      omega
    exact Nat.min_eq_left hle
  · have hnone : (startsFrom 0 t)[l.row - 1]? = none := by
      rw [List.getElem?_eq_none_iff, length_startsFrom]
      omega
    obtain ⟨ls, last, hps, htext, -, -, -⟩ := exists_piecesOf t
    rw [offsetOf, hnone, rowOf, colOf, if_neg hrow, Nat.min_eq_right (by omega), offset]
    have hsum := congrArg List.length htext
    rw [List.length_append] at hsum
    simp [hps, hsum]

/-! ### Order of places -/

/-- The column at which a lexeme ends. -/
def stopOf (t : Text) (l : Lexeme) : Nat :=
  colOf t l + if l.isSpelled then l.text.length else 0

/-- A name and a comment stand in a line of the text. -/
theorem row_le_of_isSpelled {t : Text} {l : Lexeme} (h : l.Sits (Text.lines t))
    (hl : l.isSpelled) : l.row ≤ (piecesOf t).length := by
  obtain ⟨-, line, hline, -⟩ := h.spelled hl
  have hlt := (List.getElem?_eq_some_iff.mp hline).1
  rw [length_lines] at hlt
  omega

/-- The end of a lexeme lies in the text. -/
theorem inText_stopOf {t : Text} {l : Lexeme} (h : l.Sits (Text.lines t)) :
    InText t (rowOf t l) (stopOf t l) := by
  by_cases hl : l.isSpelled
  · obtain ⟨-, line, hline, -⟩ := h.spelled hl
    have hrow := row_le_of_isSpelled h hl
    have hstop := h.stop_le hline
    rw [rowOf, stopOf, colOf, if_pos hrow, Nat.min_eq_left hrow]
    exact inText_of_lines hline hstop
  · simpa [stopOf, hl] using inText_of_sits h

/-- A lexeme that precedes another ends at its place or before. -/
theorem placeLE_of_precedes {t : Text} {l m : Lexeme} (hl : l.Sits (Text.lines t))
    (hm : m.Sits (Text.lines t)) (h : l.Precedes m) :
    PlaceLE (rowOf t l) (stopOf t l) (rowOf t m) (colOf t m) := by
  have hlpos := hl.row_pos
  have hmpos := hm.row_pos
  by_cases hmrow : m.row ≤ (piecesOf t).length
  · have hlrow : l.row ≤ (piecesOf t).length := by
      rcases h with h | ⟨h, -⟩ <;> omega
    rw [rowOf, rowOf, stopOf, colOf, colOf, if_pos hlrow, if_pos hmrow, Nat.min_eq_left hlrow,
      Nat.min_eq_left hmrow]
    rcases h with h | ⟨h, hstop⟩
    · exact .inl (by omega)
    · exact .inr ⟨by omega, hstop⟩
  · by_cases hlrow : l.row ≤ (piecesOf t).length
    · rw [rowOf, rowOf, colOf, if_neg hmrow, Nat.min_eq_left hlrow, Nat.min_eq_right (by omega)]
      by_cases hlast : l.row = (piecesOf t).length
      · refine .inr ⟨by omega, ?_⟩
        obtain ⟨u, v, hat, hu, -⟩ := inText_stopOf hl
        rw [rowOf, Nat.min_eq_left hlrow, hlast] at hat
        rw [List.getLast?_eq_getElem?, hat, ← hu]
        simp
      · exact .inl (by omega)
    · have hs : l.isSpelled = false := by
        by_contra hs
        exact hlrow (row_le_of_isSpelled hl (by simpa using hs))
      refine .inr ⟨?_, ?_⟩
      · rw [rowOf, rowOf, Nat.min_eq_right (by omega), Nat.min_eq_right (by omega)]
      · simp [stopOf, colOf, hlrow, hmrow, hs]

/-- Cursors move on from place to place. -/
theorem cursor_le {t : Text} {row col row' col' : Nat} (h : InText t row col)
    (hle : PlaceLE row col row' col') (k : Nat) :
    cursor (piecesOf t) row col k ≤ cursor (piecesOf t) row' col' k := by
  obtain ⟨u, v, hat, rfl, -⟩ := h
  rcases Nat.lt_trichotomy k row with hlt | rfl | hgt
  · have hlt' : k < row' := by
      rcases hle with hle | ⟨rfl, -⟩ <;> omega
    rw [cursor_of_lt hlt, cursor_of_lt hlt']
  · rcases hle with hle | ⟨rfl, hle⟩
    · rw [cursor_self, cursor_of_lt hle, List.getD_eq_getElem?_getD, hat]
      simp
    · rwa [cursor_self, cursor_self]
  · rw [cursor_of_gt hgt]
    exact Nat.zero_le _

/-- Offsets grow from place to place. -/
theorem offset_le {t : Text} {row col row' col' : Nat} (h : InText t row col)
    (hle : PlaceLE row col row' col') :
    offset (piecesOf t) row col ≤ offset (piecesOf t) row' col' := by
  obtain ⟨u, v, hat, rfl, -⟩ := h
  rcases hle with hlt | ⟨rfl, hle⟩
  · have hnext : ((piecesOf t).take (row + 1)).flatten.length =
        ((piecesOf t).take row).flatten.length + (u ++ v).length := by
      rw [List.take_add_one, hat]
      simp
    have hmono : ((piecesOf t).take (row + 1)).flatten.length ≤
        ((piecesOf t).take row').flatten.length := by
      have hadd : ((piecesOf t).take (row + 1 + (row' - (row + 1)))).flatten.length =
          ((piecesOf t).take (row + 1)).flatten.length +
            (((piecesOf t).drop (row + 1)).take (row' - (row + 1))).flatten.length := by
        rw [List.take_add]
        simp
      rw [Nat.add_sub_cancel' hlt] at hadd
      omega
    rw [List.length_append] at hnext
    unfold offset
    omega
  · unfold offset
    omega

/-! ### The end of a text -/

/-- The column at which a text ends. -/
def endCol (t : Text) : Nat := ((piecesOf t).getLast?.getD []).length

/-- The start of a text lies in it. -/
theorem inText_start (t : Text) : InText t 0 0 := by
  obtain ⟨p, ps, hps⟩ := List.exists_cons_of_length_pos (length_piecesOf_pos t)
  exact ⟨[], p, by simp [hps], rfl, by simp⟩

/-- The end of a text lies in it. -/
theorem inText_end (t : Text) : InText t ((piecesOf t).length - 1) (endCol t) := by
  obtain ⟨ls, last, hps, -, hlast, -, -⟩ := exists_piecesOf t
  exact ⟨last, [], by simp [hps], by simp [endCol, hps], hlast⟩

/-- **The end of a text is its length.** -/
theorem offset_end (t : Text) : offset (piecesOf t) ((piecesOf t).length - 1) (endCol t) = t.length := by
  obtain ⟨ls, last, hps, htext, -, -, -⟩ := exists_piecesOf t
  have hsum := congrArg List.length htext
  rw [List.length_append] at hsum
  simp [offset, endCol, hps, hsum]

/-- At the end of the text the cursor is behind every line. -/
theorem cursor_end {t : Text} {k : Nat} (hk : k < (piecesOf t).length) :
    cursor (piecesOf t) ((piecesOf t).length - 1) (endCol t) k = ((piecesOf t).getD k []).length := by
  by_cases hlast : k = (piecesOf t).length - 1
  · rw [hlast, cursor_self, endCol, List.getLast?_eq_getElem?, List.getD_eq_getElem?_getD]
  · exact cursor_of_lt (by omega)

/-- Every place comes before the end. -/
theorem placeLE_end {t : Text} {row col : Nat} (h : InText t row col) :
    PlaceLE row col ((piecesOf t).length - 1) (endCol t) := by
  obtain ⟨u, v, hat, rfl, -⟩ := h
  have hrow := (List.getElem?_eq_some_iff.mp hat).1
  by_cases hlast : row = (piecesOf t).length - 1
  · refine .inr ⟨hlast, ?_⟩
    rw [hlast, ← List.getLast?_eq_getElem?] at hat
    simp [endCol, hat]
  · exact .inl (by omega)

end ApiPage.Page
