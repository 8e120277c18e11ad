import ApiPage.Page.Rendering
import ApiPage.Proofs.Annotated
import ApiPage.Proofs.Hoisted
import ApiPage.Proofs.Line

/-!
# Displayed declarations

The HTML of a declaration read back. It is balanced markup that shows the text of the declaration,
where only the quotes in comments are converted, and its spans are the anchors of the names in the
text.

## Main definitions

* `Page.mapComments`: a text with another text in the place of each comment.

## Main results

* `Page.mapComments_id`: comments in place of themselves give the text back.
* `Page.displays_emit`: the HTML of annotated lines is markup of their text.
-/

namespace ApiPage.Page

open Html (Displays)
open Syntax (Lexeme LexemeKind LexError lexemes)

/-! ### The text with its comments replaced -/

/-- The text that stands in the place of a comment. -/
def commentOf (f : Text → Text) (l : Lexeme) : Option Text :=
  if l.kind = .comment then some (f l.text) else none

/-- Line `k` of a text with `f` of each comment in its place. -/
def mapCommentsLine (f : Text → Text) (t : Text) (ls : List Lexeme) (k : Nat) : Text :=
  fillLine id (commentOf f) 0 ((piecesOf t).getD k []) (ls.filter (·.row = k + 1))

/-- **A text with `f` of each comment in its place**. The lexemes of the text are `ls`. -/
def mapComments (f : Text → Text) (t : Text) (ls : List Lexeme) : Text :=
  (List.range (piecesOf t).length).flatMap (mapCommentsLine f t ls)

/-- **Lexemes of a line** `p` from a column on, one after another. -/
structure InRow (p : Text) (col : Nat) (ls : List Lexeme) : Prop where
  text : ∀ l ∈ ls, l.isSpelled → l.text <+: p.drop l.col
  ordered : ls.Pairwise fun l m => l.stop ≤ m.col
  after : ∀ l ∈ ls, col ≤ l.col

/-- The lexemes behind the first one of a row. -/
theorem InRow.tail {p : Text} {col : Nat} {l : Lexeme} {ls : List Lexeme}
    (h : InRow p col (l :: ls)) : InRow p l.stop ls :=
  ⟨fun m hm => h.text m (List.mem_cons_of_mem l hm), h.ordered.of_cons,
    fun _ hm => List.rel_of_pairwise_cons h.ordered hm⟩

/-- The first lexeme of a row may be left out. -/
theorem InRow.skip {p : Text} {col : Nat} {l : Lexeme} {ls : List Lexeme}
    (h : InRow p col (l :: ls)) : InRow p col ls :=
  ⟨h.tail.text, h.tail.ordered, fun m hm => h.after m (List.mem_cons_of_mem l hm)⟩

/-- What a line begins with begins the line with its newline. -/
theorem isPrefix_piecesOf {t line : Text} {k : Nat} (h : (Text.lines t)[k]? = some line) :
    line <+: (piecesOf t).getD k [] := by
  obtain ⟨ls, last, hps, -, -, -, hlines⟩ := exists_piecesOf t
  rw [hlines] at h
  rw [hps, List.getD_eq_getElem?_getD]
  by_cases hk : k < ls.length
  · rw [List.getElem?_append_left (by simpa using hk), List.getElem?_map] at h
    rw [List.getElem?_append_left hk]
    cases hp : ls[k]? with
    | none => simp [hp] at h
    | some p =>
      obtain rfl : p.dropLast = line := by simpa [hp] using h
      exact List.dropLast_prefix p
  · rw [List.getElem?_append_right (by simpa using hk), List.length_map] at h
    rw [List.getElem?_append_right (by simpa using hk), h]
    exact List.prefix_refl line

/-- **The lexemes of a row** stand in it one after another. -/
theorem inRow_of_lexemes {t : Text} {ls : List Lexeme} (h : lexemes t = .ok ls) (k : Nat) :
    InRow ((piecesOf t).getD k []) 0 (ls.filter (·.row = k + 1)) := by
  refine ⟨fun l hl hs => ?_, ?_, fun _ _ => Nat.zero_le _⟩
  · obtain ⟨hmem, hrow⟩ : l ∈ ls ∧ l.row = k + 1 := by simpa using hl
    obtain ⟨-, line, hline, htext⟩ := (Syntax.sits_of_lexemes h l hmem).spelled hs
    rw [hrow, Nat.add_sub_cancel] at hline
    obtain ⟨rest, hrest⟩ := isPrefix_piecesOf hline
    rw [← hrest, List.drop_append]
    exact htext.trans (List.prefix_append _ _)
  · refine ((Syntax.pairwise_precedes_lexemes h).filter _).imp_of_mem ?_
    intro l m hl hm hprec
    have hlrow : l.row = k + 1 := by simpa using (List.mem_filter.mp hl).2
    have hmrow : m.row = k + 1 := by simpa using (List.mem_filter.mp hm).2
    rcases hprec with hlt | ⟨-, hle⟩
    · omega
    · exact hle

/-- A line up to the end of a word in it. -/
theorem take_add_length_of_isPrefix {p w : Text} {col col' : Nat} (hle : col ≤ col')
    (h : w <+: p.drop col') :
    (p.drop col).take (col' + w.length - col) = (p.drop col).take (col' - col) ++ w := by
  have hadd : col' + w.length - col = col' - col + w.length := by omega
  rw [hadd, List.take_add, List.drop_drop, Nat.add_sub_cancel' hle,
    ← List.prefix_iff_eq_take.mp h]

/-- A line cut at a name or a comment: what stands before it, its text, and the rest. -/
theorem InRow.cut {p : Text} {col : Nat} {l : Lexeme} {ls : List Lexeme}
    (h : InRow p col (l :: ls)) (hs : l.isSpelled) :
    (p.drop col).take (l.col - col) ++ l.text ++ p.drop (l.col + l.text.length) = p.drop col := by
  have hcol := h.after l List.mem_cons_self
  have hrest : (p.drop col).drop (l.col + l.text.length - col) =
      p.drop (l.col + l.text.length) := by
    rw [List.drop_drop, Nat.add_sub_cancel' (by omega)]
  rw [← take_add_length_of_isPrefix hcol (h.text l List.mem_cons_self hs), ← hrest,
    List.take_append_drop]

/-- **Comments in place of themselves** give the line back. -/
theorem fillLine_commentOf_id {p : Text} {col : Nat} {ls : List Lexeme} (h : InRow p col ls) :
    fillLine id (commentOf id) col (p.drop col) ls = p.drop col := by
  induction ls generalizing col with
  | nil => rfl
  | cons l ls ih =>
    by_cases hl : l.kind = .comment
    · have hs : l.isSpelled := by simp [Lexeme.isSpelled, hl]
      have hcol := h.after l List.mem_cons_self
      have hstop : l.stop = l.col + l.text.length := by simp [Lexeme.stop, hs]
      have hrest := ih h.tail
      rw [hstop] at hrest
      rw [fillLine_cons_some (by simp [commentOf, hl] : commentOf id l = some l.text),
        List.drop_drop, Nat.add_sub_cancel' (by omega), hrest]
      exact h.cut hs
    · rw [fillLine_cons_none (by simp [commentOf, hl])]
      exact ih h.skip

/-- A list read index by index. -/
theorem flatMap_range_getD {α β : Type} (l : List α) (d : α) (f : α → List β) :
    ((List.range l.length).flatMap fun k => f (l.getD k d)) = l.flatMap f := by
  induction l with
  | nil => rfl
  | cons a l ih =>
    rw [List.length_cons, List.range_succ_eq_map, List.flatMap_cons, List.flatMap_map,
      List.flatMap_cons, ← ih]
    rfl

/-- **Comments in place of themselves give the text back.** -/
theorem mapComments_id {t : Text} {ls : List Lexeme} (h : lexemes t = .ok ls) :
    mapComments id t ls = t := by
  have hline : mapCommentsLine id t ls = fun k => id ((piecesOf t).getD k []) := by
    funext k
    exact fillLine_commentOf_id (inRow_of_lexemes h k)
  rw [mapComments, hline, flatMap_range_getD, List.flatMap_id, flatten_piecesOf]

/-! ### Markup of annotated lines -/

variable {find : Nat → Nat → Option Occurrence} {comment f : Text → Text}

/-- **A line with marks is markup of the line** if the HTML of each comment is markup of what stands
in the place of the comment. -/
theorem displays_fillLine (hcomment : ∀ w, Displays (comment w) (f w) []) {p : Text} {col : Nat}
    {ls : List Lexeme} (h : InRow p col ls) :
    Displays (fillLine Html.escape (markOf find comment) col (p.drop col) ls)
      (fillLine id (commentOf f) col (p.drop col) ls) [] := by
  induction ls generalizing col with
  | nil => exact Html.displays_escape _
  | cons l ls ih =>
    have hcol := h.after l List.mem_cons_self
    have hdrop : (p.drop col).drop (l.col + l.text.length - col) =
        p.drop (l.col + l.text.length) := by
      rw [List.drop_drop]
      congr 1
      omega
    have htext := Html.displays_escape ((p.drop col).take (l.col - col))
    cases hm : markOf find comment l with
    | none =>
      have hl : commentOf f l = none := by
        have hne : l.kind ≠ .comment := fun hc => by simp [markOf, hc] at hm
        simp [commentOf, hne]
      rw [fillLine_cons_none hm, fillLine_cons_none hl]
      exact ih h.skip
    | some m =>
      have hs := isSpelled_of_markOf (by rw [hm]; rfl)
      have hstop : l.stop = l.col + l.text.length := by simp [Lexeme.stop, hs]
      have hrest := ih h.tail
      rw [hstop] at hrest
      rw [fillLine_cons_some hm, hdrop]
      by_cases hc : l.kind = .comment
      · obtain rfl : Html.comment (comment l.text) = m := by simpa [markOf, hc] using hm
        rw [fillLine_cons_some (by simp [commentOf, hc] : commentOf f l = some (f l.text)), hdrop]
        exact (htext.append (hcomment l.text).comment).append hrest
      · obtain ⟨-, href, -, rfl⟩ := link_of_markOf hc hm
        have hahead : ∀ m ∈ ls, l.col + l.text.length ≤ m.col := hstop ▸ h.tail.after
        have hword := take_add_length_of_isPrefix hcol (h.text l List.mem_cons_self hs)
        have hadvance : fillLine id (commentOf f) col (p.drop col) ls =
            (p.drop col).take (l.col - col) ++ l.text ++
              fillLine id (commentOf f) (l.col + l.text.length)
                (p.drop (l.col + l.text.length)) ls := by
          rw [← hword, ← hdrop]
          exact fillLine_advance (fun _ _ => rfl) (by omega) _ hahead
        rw [fillLine_cons_none (by simp [commentOf, hc]), hadvance]
        exact (htext.append (Html.displays_link href l.text)).append hrest

/-- A text that is put once for each of a list can be put at either end. -/
theorem flatMap_const_append {α : Type} (l : List α) (t : Text) :
    (l.flatMap fun _ => t) ++ t = t ++ l.flatMap fun _ => t := by
  induction l with
  | nil => simp
  | cons a l ih => rw [List.flatMap_cons, List.append_assoc, ih]

/-- **A line in the marks of its anchors** is markup of what its HTML is markup of. -/
theorem displays_emitLine {o : Options} {hasReceiver : Bool} {l : Line} {u : Text}
    (h : Displays l.html u []) :
    Displays (emitLine o hasReceiver l) u
      ((l.anchors.filter fun a => o.wraps a.kind hasReceiver).map fun a => (a.id, a.kind.name)) := by
  rw [emitLine]
  generalize l.anchors.filter (fun a => o.wraps a.kind hasReceiver) = marked
  induction marked with
  | nil => simpa using h
  | cons a marked ih =>
    have hclose := flatMap_const_append marked Html.closeSpan
    have hwrap := ih.anchor a.id a.kind.name
    simp only [List.append_assoc] at hwrap ⊢
    rw [hclose] at hwrap
    simpa [List.append_assoc] using hwrap

/-! ### Anchors of the lexemes -/

/-- What a list holds below a bound, and then at it. -/
theorem filter_lt_append_filter_eq {α : Type} {f : α → Nat} {ls : List α}
    (h : ls.Pairwise fun a b => f a ≤ f b) (n : Nat) :
    ls.filter (f · < n) ++ ls.filter (f · = n) = ls.filter (f · < n + 1) := by
  induction ls with
  | nil => rfl
  | cons a ls ih =>
    have hrest := ih h.of_cons
    rcases Nat.lt_trichotomy (f a) n with hlt | heq | hgt
    · have hne : f a ≠ n := by omega
      have hlt' : f a < n + 1 := by omega
      simp only [List.filter_cons, decide_eq_true hlt, decide_eq_false hne, decide_eq_true hlt',
        if_true, Bool.false_eq_true, if_false, List.cons_append, hrest]
    · have hnil : ls.filter (f · < n) = [] := by
        rw [List.filter_eq_nil_iff]
        intro b hb
        have hle := List.rel_of_pairwise_cons h hb
        simp
        omega
      rw [hnil, List.nil_append] at hrest
      simp [heq, hnil, hrest]
    · have hlt : ¬f a < n := by omega
      have hne : f a ≠ n := by omega
      have hlt' : ¬f a < n + 1 := by omega
      simp only [List.filter_cons, decide_eq_false hlt, decide_eq_false hne, decide_eq_false hlt',
        Bool.false_eq_true, if_false, hrest]

/-- **A list in order is what it holds at each index**, one after another. -/
theorem flatMap_filter_range {α : Type} {f : α → Nat} {ls : List α}
    (h : ls.Pairwise fun a b => f a ≤ f b) (n : Nat) :
    ((List.range n).flatMap fun k => ls.filter (f · = k)) = ls.filter (f · < n) := by
  induction n with
  | zero => simp
  | succ n ih =>
    rw [List.range_succ, List.flatMap_append, ih, ← filter_lt_append_filter_eq h n]
    simp

/-- The anchors of the lines are those of the lexemes. -/
theorem flatMap_anchorOf {t : Text} {ls : List Lexeme} (h : lexemes t = .ok ls) :
    ((List.range (piecesOf t).length).flatMap fun k =>
        (ls.filter (rowOf t · = k)).filterMap (anchorOf find)) = ls.filterMap (anchorOf find) := by
  have hsits := Syntax.sits_of_lexemes h
  have hmono : ls.Pairwise fun l m => rowOf t l ≤ rowOf t m := by
    refine (Syntax.pairwise_precedes_lexemes h).imp_of_mem ?_
    intro l m hl hm hprec
    rcases placeLE_of_precedes (hsits l hl) (hsits m hm) hprec with hlt | ⟨heq, -⟩ <;> omega
  have hlt : ls.filter (rowOf t · < (piecesOf t).length) = ls := by
    rw [List.filter_eq_self]
    intro l _
    have hpos := length_piecesOf_pos t
    unfold rowOf
    simp
    omega
  rw [← List.filterMap_flatMap, flatMap_filter_range hmono, hlt]

/-- **Comments hold no anchors**: a name on their line makes it a line of code. -/
theorem anchors_eq_nil_of_isComment {t : Text} {ls : List Lexeme} {k : Nat} {line : Line}
    (h : lexemes t = .ok ls) (hline : Annotates find comment t ls k line) (hcom : line.isComment) :
    line.anchors = [] := by
  obtain ⟨hcomment, hcode⟩ : line.hasComment = true ∧ line.hasCode = false := by
    simpa [Line.isComment] using hcom
  rw [hline.hasCode, List.any_eq_false] at hcode
  rw [hline.anchors, List.filterMap_eq_nil_iff]
  intro l hl
  obtain ⟨hmem, hrow⟩ : l ∈ ls ∧ rowOf t l = k := by simpa using hl
  have hsits := Syntax.sits_of_lexemes h l hmem
  by_contra hne
  have hname : l.kind = .name := by
    cases hk : l.kind <;> simp [anchorOf, hk] at hne ⊢
  have hs : l.isSpelled := by simp [Lexeme.isSpelled, hname]
  obtain ⟨hend, -⟩ := hsits.spelled hs
  have hle := row_le_of_isSpelled hsits hs
  have hpos := hsits.row_pos
  have hcov : Covers l k := by
    unfold rowOf at hrow
    unfold Covers
    omega
  exact hcode l hmem (by simp [isCode, isLayout, hname, hcov])

/-! ### Declarations -/

/-- Lines as a list of the lines at each index. -/
theorem flatMap_lineAt {β : Type} (ls : List Line) (g : Line → List β) :
    ((List.range ls.length).flatMap fun k => g (lineAt ls k)) = ls.flatMap g :=
  flatMap_range_getD ls Line.empty g

/-- The HTML of a line of some lines. -/
theorem html_lineAt (ls : List Line) (k : Nat) :
    (lineAt ls k).html = (ls.map Line.html).getD k [] := by
  cases h : ls[k]? with
  | none => simp [lineAt, List.getD_eq_getElem?_getD, h, Line.empty, Line.html]
  | some l => simp [lineAt, List.getD_eq_getElem?_getD, h]

/-- A line keeps its HTML when anchors are moved. -/
theorem html_lineAt_hoist (ls : List Line) (k : Nat) :
    (lineAt (hoist ls) k).html = (lineAt ls k).html := by
  rw [html_lineAt, html_hoist, ← html_lineAt]

/-- The anchors of annotated lines keep their sequence when they are moved. -/
theorem anchors_annotate {t : Text} {ls : List Lexeme} {lines : List Line} (hlex : lexemes t = .ok ls)
    (hlen : lines.length = (piecesOf t).length)
    (h : ∀ k < (piecesOf t).length, Annotates find comment t ls k (lineAt lines k)) :
    (hoist lines).flatMap Line.anchors = ls.filterMap (anchorOf find) := by
  have hbare : ∀ l ∈ lines, l.isComment → l.anchors = [] := by
    intro l hl hcom
    obtain ⟨k, hk, rfl⟩ := List.mem_iff_getElem.mp hl
    have hline := h k (hlen ▸ hk)
    rw [lineAt, List.getD_eq_getElem?_getD, List.getElem?_eq_getElem hk, Option.getD_some] at hline
    exact anchors_eq_nil_of_isComment hlex hline hcom
  rw [anchors_hoist hbare, ← flatMap_lineAt, hlen, ← flatMap_anchorOf hlex]
  have hline : ∀ k ∈ List.range (piecesOf t).length, (lineAt lines k).anchors =
      (ls.filter (rowOf t · = k)).filterMap (anchorOf find) := fun k hk =>
    (h k (List.mem_range.mp hk)).anchors
  rw [List.flatMap_def, List.map_congr_left hline, ← List.flatMap_def]

/-- **The HTML of annotated lines** is markup of their text, with the anchors of its names. -/
theorem displays_emit {t : Text} {os : List Occurrence} {lines : List Line} (o : Options)
    (hasReceiver : Bool) (hcomment : ∀ w, Displays (comment w) (f w) [])
    (h : annotate t os comment = .ok lines) :
    ∃ ls, lexemes t = .ok ls ∧
      Displays (emit o hasReceiver (hoist lines)) (mapComments f t ls)
        (((ls.filterMap (anchorOf (occurrenceAt? os))).filter
          fun a => o.wraps a.kind hasReceiver).map fun a => (a.id, a.kind.name)) := by
  obtain ⟨ls, hlex, hlen, hlines⟩ := annotates_annotate h
  refine ⟨ls, hlex, ?_⟩
  have hmoved : (hoist lines).length = (piecesOf t).length := (length_hoist lines).trans hlen
  have hline : ∀ k ∈ List.range (piecesOf t).length,
      Displays (emitLine o hasReceiver (lineAt (hoist lines) k)) (mapCommentsLine f t ls k)
        (((lineAt (hoist lines) k).anchors.filter fun a => o.wraps a.kind hasReceiver).map
          fun a => (a.id, a.kind.name)) := by
    intro k hk
    refine displays_emitLine ?_
    rw [html_lineAt_hoist, (hlines k (List.mem_range.mp hk)).html]
    exact displays_fillLine hcomment (inRow_of_lexemes hlex k)
  have hall := Displays.flatMap hline
  rw [← hmoved] at hall
  rw [flatMap_lineAt (hoist lines) (emitLine o hasReceiver)] at hall
  rw [flatMap_lineAt (hoist lines) fun l => (l.anchors.filter fun a => o.wraps a.kind hasReceiver).map
    fun a => (a.id, a.kind.name)] at hall
  rw [← anchors_annotate hlex hlen hlines, List.filter_flatMap, List.map_flatMap, emit, mapComments,
    ← hmoved]
  exact hall

end ApiPage.Page

namespace ApiPage

open Html (Displays)
open Page (anchorOf mapComments occurrenceAt?)
open Syntax (Lexeme lexemes parseModule)

variable {scope : Text → Option Binding} {r : Resolver} {o : Options} {cs : Comments}
  {d : Declaration} {html : Text}

/-- **The lines of a declaration** are those of its text, annotated with its occurrences and with
their anchors moved. -/
theorem exists_of_declarationLines {lines : List Page.Line}
    (h : declarationLines scope r o cs d = .ok lines) :
    ∃ t ss os ls, shownText o.limits cs d = .ok t ∧ parseModule t = .ok ss ∧
      occurrencesOf scope r d.receiver t ss = .ok os ∧
      Page.annotate t os (Prose.formatLine (if o.hotlinks then some r.html else none)) = .ok ls ∧
      lines = Page.hoist ls := by
  obtain ⟨t, ht, h⟩ := bind_eq_ok.mp h
  dsimp only at h
  split at h
  · next ss hss =>
    rw [pure_bind] at h
    split at h
    · next os hos =>
      rw [pure_bind] at h
      split at h
      · next ls hls => exact ⟨t, ss, os, ls, ht, hss, hos, hls, (Except.ok.inj h).symm⟩
      · cases h
    · cases h
  · cases h
  · cases h

/-- **The HTML of a declaration is markup of its text** with the quotes of its comments converted
and with the anchors of its names. -/
theorem displays_declarationHtml (h : declarationHtml scope r o cs d = .ok html) :
    ∃ t ss os ls, shownText o.limits cs d = .ok t ∧ parseModule t = .ok ss ∧
      occurrencesOf scope r d.receiver t ss = .ok os ∧ lexemes t = .ok ls ∧
      Displays html (mapComments Prose.convertQuotes t ls)
        (((ls.filterMap (anchorOf (occurrenceAt? os))).filter
          fun a => o.wraps a.kind d.receiver.isSome).map fun a => (a.id, a.kind.name)) := by
  obtain ⟨lines, hlines, hemit⟩ := bind_eq_ok.mp h
  obtain rfl : Page.emit o d.receiver.isSome lines = html := Except.ok.inj hemit
  obtain ⟨t, ss, os, ls, ht, hss, hos, hann, rfl⟩ := exists_of_declarationLines hlines
  have hresolve : ∀ f ∈ (if o.hotlinks then some r.html else none), ∀ w, Displays (f w) w [] := by
    intro f hf w
    split at hf
    · obtain rfl : r.html = f := by simpa using hf
      exact r.displays_html w
    · simp at hf
  obtain ⟨ls, hlex, hdisp⟩ := Page.displays_emit o d.receiver.isSome
    (Prose.displays_formatLine hresolve) hann
  exact ⟨t, ss, os, ls, ht, hss, hos, hlex, hdisp⟩

/-- A class with a comment, an anchor and a link. -/
def commentedClass : Text := Text.of "class C:\n    # a ``b``\n    x: int = 1\n"

/-- Options with all that is asked for unless it is set. -/
def plainOptions : Options := Options.initial Limits.initial

/-- **The class has HTML** on the page of its package. -/
theorem exists_commentedClass :
    ∃ p d html, Package.ofSource (Text.of "m") commentedClass = .ok p ∧ d ∈ p.allDeclarations ∧
      declarationHtml p.lookup (Renderer.resolver ⟨p, plainOptions⟩) plainOptions p.comments d =
        .ok html := by
  have hcheck : (match Package.ofSource (Text.of "m") commentedClass with
      | .ok p => p.allDeclarations.any fun d => (declarationHtml p.lookup
          (Renderer.resolver ⟨p, plainOptions⟩) plainOptions p.comments d).isOk
      | .error _ => false) = true := by
    decide +kernel
  split at hcheck
  · next p hp =>
    obtain ⟨d, hd, hok⟩ := List.any_eq_true.mp hcheck
    cases hhtml : declarationHtml p.lookup (Renderer.resolver ⟨p, plainOptions⟩) plainOptions
        p.comments d with
    | error e => simp [hhtml, Except.isOk, Except.toBool] at hok
    | ok html => exact ⟨p, d, html, hp, hd, hhtml⟩
  · cases hcheck

/-- **A declaration is shown as its text.** Its HTML can be read, every element in it is closed where
it should be, and what it shows is the text, character by character, except that the quotes in
comments are converted. -/
theorem declarationHtml_shows_text (h : declarationHtml scope r o cs d = .ok html) :
    ∃ t ls es, shownText o.limits cs d = .ok t ∧ lexemes t = .ok ls ∧
      Html.events? html = some es ∧ Html.wellNested [] es ∧
      Html.shown es = mapComments Prose.convertQuotes t ls := by
  obtain ⟨t, ss, os, ls, ht, -, -, hlex, es, hreads, hbalanced, hshown, -⟩ :=
    displays_declarationHtml h
  exact ⟨t, ls, es, ht, hlex, hreads.events, hbalanced.wellNested, hshown⟩

/-- A class with a comment that has quotes in it. -/
theorem declarationHtml_shows_text_commentedClass :
    ∃ p d html, Package.ofSource (Text.of "m") commentedClass = .ok p ∧ d ∈ p.allDeclarations ∧
      ∃ t ls es, shownText plainOptions.limits p.comments d = .ok t ∧ lexemes t = .ok ls ∧
        Html.events? html = some es ∧ Html.wellNested [] es ∧
        Html.shown es = mapComments Prose.convertQuotes t ls := by
  obtain ⟨p, d, html, hp, hd, h⟩ := exists_commentedClass
  exact ⟨p, d, html, hp, hd, declarationHtml_shows_text h⟩

/-- **The spans of a declaration are the anchors of its names**: those of the occurrences at the
names of its text, in their order, as far as anchors of their kind are marked. -/
theorem declarationHtml_anchors (h : declarationHtml scope r o cs d = .ok html) :
    ∃ t ss os ls es, shownText o.limits cs d = .ok t ∧ parseModule t = .ok ss ∧
      occurrencesOf scope r d.receiver t ss = .ok os ∧ lexemes t = .ok ls ∧
      Html.events? html = some es ∧
      Html.anchorsIn es =
        ((((ls.filter (·.kind = .name)).filterMap fun l => occurrenceAt? os l.row l.col).filterMap
          (·.anchor)).filter fun a => o.wraps a.kind d.receiver.isSome).map
            fun a => (a.id, a.kind.name) := by
  obtain ⟨t, ss, os, ls, ht, hss, hos, hlex, es, hreads, -, -, hanchors⟩ :=
    displays_declarationHtml h
  refine ⟨t, ss, os, ls, es, ht, hss, hos, hlex, hreads.events, ?_⟩
  have hanchor : anchorOf (occurrenceAt? os) = fun l =>
      if decide (l.kind = .name) then (occurrenceAt? os l.row l.col).bind (·.anchor) else none := by
    funext l
    cases hl : l.kind <;> simp [anchorOf, hl]
  rw [hanchors, List.filterMap_filterMap, List.filterMap_filter, hanchor]

/-- The anchors of that class. -/
theorem declarationHtml_anchors_commentedClass :
    ∃ p d html t ss os ls es, Package.ofSource (Text.of "m") commentedClass = .ok p ∧
      d ∈ p.allDeclarations ∧ shownText plainOptions.limits p.comments d = .ok t ∧
      parseModule t = .ok ss ∧
      occurrencesOf p.lookup (Renderer.resolver ⟨p, plainOptions⟩) d.receiver t ss = .ok os ∧
      lexemes t = .ok ls ∧ Html.events? html = some es ∧
      Html.anchorsIn es =
        ((((ls.filter (·.kind = .name)).filterMap fun l => occurrenceAt? os l.row l.col).filterMap
          (·.anchor)).filter fun a => plainOptions.wraps a.kind d.receiver.isSome).map
            fun a => (a.id, a.kind.name) := by
  obtain ⟨p, d, html, hp, hd, h⟩ := exists_commentedClass
  obtain ⟨t, ss, os, ls, es, ht, hss, hos, hlex, hes, hanchors⟩ := declarationHtml_anchors h
  exact ⟨p, d, html, t, ss, os, ls, es, hp, hd, ht, hss, hos, hlex, hes, hanchors⟩

end ApiPage
