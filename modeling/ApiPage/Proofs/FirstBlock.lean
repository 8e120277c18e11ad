import ApiPage.Proofs.Blocks
import ApiPage.Prose.Links

/-!
# The first block of documentation

A heading is to stand between blocks, and so it takes a blank line before it. The newlines around a
text are taken away before its lines are segmented, but a line of white space at its start is not,
and counts as a blank line like any other. The first block is a heading just where a title stands
behind such lines.

## Main definitions

* `Prose.OpensWithTitle`: lines that begin with a title behind blank ones.

## Main results

* `Prose.head?_segment_iff`: when segmentation begins with a heading.
* `Prose.first_ofText`: what the first block of a text is, and that it is no list of links.
* `Prose.exists_heading_first`: the first block may be a heading.
-/

namespace ApiPage.Prose

/-- **Lines that open with a title**: blank lines, one of them at least, then a line of prose that
reads as the title, a blank line, and prose. -/
def OpensWithTitle (ls : List Text) (title : Text) : Prop :=
  ∃ blanks line gap next rest, ls = blanks ++ line :: gap :: next :: rest ∧ blanks ≠ [] ∧
    (∀ l ∈ blanks, Text.isBlank l) ∧ IsProse line ∧ title? line = some title ∧
    Text.isBlank gap ∧ IsProse next

/-! ### The first step that gives a block -/

/-- Blank lines at the start leave nothing but the mark that they came. -/
theorem segment_blanks {blanks : List Text} (h : ∀ l ∈ blanks, Text.isBlank l) (b : Bool)
    (ls : List Text) : segment ⟨[], b, false⟩ 0 (blanks ++ ls) =
      segment ⟨[], b || !blanks.isEmpty, false⟩ 0 ls := by
  induction blanks generalizing b with
  | nil => simp
  | cons l blanks ih =>
    obtain ⟨hl, hblanks⟩ := List.forall_mem_cons.mp h
    rw [List.cons_append, segment, if_pos hl, ih hblanks]
    simp [Segmenter.close]

/-- **An open paragraph is the next block.** Whatever ends the paragraph puts it first. -/
theorem exists_paragraph_of_open {s : Segmenter} (hs : s.para ≠ []) (ls : List Text) :
    ∃ ps bs, segment s 0 ls = .paragraph ps :: bs := by
  induction ls generalizing s with
  | nil => exact ⟨_, [], by rw [segment, Segmenter.close, if_neg (by simpa using hs)]⟩
  | cons l ls ih =>
    have hclose (bs : List Block) : s.close ++ bs = .paragraph s.para.reverse :: bs := by
      rw [Segmenter.close, if_neg (by simpa using hs)]
      rfl
    rw [segment]
    split
    · exact ⟨_, _, hclose _⟩
    · split
      · exact ⟨_, _, hclose _⟩
      · dsimp only
        split
        · exact ⟨_, _, hclose _⟩
        · exact ih (List.cons_ne_nil _ _)

/-- A heading that comes from the first line, which is not blank, is the title of that line; a blank
line came before it. -/
theorem title_of_head?_segment {b : Bool} {line title : Text} {rest : List Text}
    (hline : Text.isBlank line = false)
    (h : (segment ⟨[], b, false⟩ 0 (line :: rest)).head? = some (.heading title)) :
    b = true ∧ IsProse line ∧ title? line = some title ∧
      ∃ gap next rest', rest = gap :: next :: rest' ∧ Text.isBlank gap ∧ IsProse next := by
  obtain ⟨out, s, rest', hstep⟩ :=
    Segmenter.exists_step ⟨[], b, false⟩ (List.cons_ne_nil line rest)
  rw [hstep.segment_eq] at h
  cases hstep with
  | blank hblank =>
    rw [hline] at hblank
    cases hblank
  | code _ _ _ => simp [Segmenter.openStretch, Stretch.block?] at h
  | title hprose hb _ hgap hnext htitle =>
    obtain rfl : _ = title := by simpa [Segmenter.openStretch, Stretch.block?, htitle] using h
    exact ⟨hb, hprose, htitle, _, _, _, rfl, hgap, hnext⟩
  | prose _ _ =>
    obtain ⟨ps, bs, hopen⟩ :=
      exists_paragraph_of_open (s := ⟨[line], false, false⟩) (List.cons_ne_nil _ _) rest
    rw [hopen] at h
    cases h

/-- **Segmentation begins with a heading** just where its lines open with a title. -/
theorem head?_segment_iff (ls : List Text) (title : Text) :
    (segment ⟨[], false, false⟩ 0 ls).head? = some (.heading title) ↔ OpensWithTitle ls title := by
  constructor
  · intro h
    have hsplit := List.takeWhile_append_dropWhile (p := Text.isBlank) (l := ls)
    have hblanks : ∀ l ∈ ls.takeWhile Text.isBlank, Text.isBlank l :=
      fun l hl => List.mem_takeWhile_imp hl
    have hstop := List.head?_dropWhile_not Text.isBlank ls
    generalize ls.takeWhile Text.isBlank = blanks at hsplit hblanks
    generalize ls.dropWhile Text.isBlank = rest at hsplit hstop
    rw [← hsplit, segment_blanks hblanks] at h
    cases rest with
    | nil => simp [segment, Segmenter.close] at h
    | cons line rest =>
      obtain ⟨hcame, hline, htitle, gap, next, rest, rfl, hgap, hnext⟩ :=
        title_of_head?_segment (by simpa using hstop) h
      exact ⟨blanks, line, gap, next, rest, hsplit.symm, by simpa using hcame, hblanks, hline,
        htitle, hgap, hnext⟩
  · rintro ⟨blanks, line, gap, next, rest, rfl, hne, hblanks, hline, htitle, hgap, hnext⟩
    have hcame : (false || !blanks.isEmpty) = true := by simpa using hne
    have hstep : Segmenter.Step ⟨[], true, false⟩ (line :: gap :: next :: rest) [.title line gap]
        ⟨[], true, true⟩ (next :: rest) :=
      .title hline rfl rfl hgap hnext htitle
    rw [segment_blanks hblanks, hcame, hstep.segment_eq]
    simp [Stretch.block?, htitle]

/-! ### The lines of a text -/

/-- A stripped text does not begin with a character that is stripped. -/
theorem head_of_stripOf {p : Char → Bool} {c : Char} {r t : Text} (h : Text.stripOf p t = c :: r) :
    p c = false := by
  obtain ⟨u, hu⟩ : Text.stripOf p t <+: t.dropWhile p := List.rdropWhile_prefix p _
  have hstop := List.head?_dropWhile_not p t
  rw [← hu, h] at hstop
  exact hstop

/-- **A text opens with white space** where its lines open with a title: its first line, newlines at
the start aside, is blank and yet not empty. An empty first line would be that of no text, or end in
a newline that was stripped. -/
theorem whiteSpace_of_opensWithTitle {t title : Text} (h : OpensWithTitle (sourceLines t) title) :
    ∃ first rest, Text.lines (Text.stripOf (· == '\n') t) = first :: rest ∧ first ≠ [] ∧
      Text.isBlank first := by
  obtain ⟨blanks, line, gap, next, rest, hlines, hne, hblanks, -⟩ := h
  obtain ⟨blank, blanks, rfl⟩ := List.exists_cons_of_ne_nil hne
  obtain ⟨p, f, hp, hmap, hunindented, -⟩ :=
    exists_unindent (Text.lines (Text.stripOf (· == '\n') t))
  rw [sourceLines, hmap, List.cons_append] at hlines
  obtain ⟨first, others, hfirst, hblank, hothers⟩ := List.map_eq_cons_iff.mp hlines
  refine ⟨first, others, hfirst, ?_, ?_⟩
  · rintro rfl
    cases hstrip : Text.stripOf (· == '\n') t with
    | nil =>
      obtain rfl : others = [] := by simpa [hstrip, Text.lines, Text.splitBy] using hfirst
      simp at hothers
    | cons c r =>
      have hc : c ≠ '\n' := by simpa using head_of_stripOf hstrip
      obtain ⟨q, qs, -, hq⟩ := Text.lines_cons hc r
      rw [hstrip, hq] at hfirst
      cases hfirst
  · have hmem : first ∈ Text.lines (Text.stripOf (· == '\n') t) := hfirst ▸ List.mem_cons_self
    rw [← (hunindented first hmem).isBlank_eq hp, hblank]
    exact hblanks blank List.mem_cons_self

/-- The first block is kept unless it is the heading of a list of links. -/
theorem exists_kept {b : Block} (hb : ∀ title, b ≠ .heading title) (bs : List Block) :
    ∃ kept, (splitLinks (b :: bs)).1 = b :: kept := by
  cases b with
  | heading title => exact absurd rfl (hb title)
  | paragraph ls => exact ⟨_, rfl⟩
  | preformat ls => exact ⟨_, rfl⟩

/-! ### The first block -/

/-- **The first block of a text** is a heading just where the lines of the text open with a title,
and then the text begins with a line of white space, newlines at its start aside. A first block of
another kind is kept, so that the text does not begin with a list of links. -/
theorem first_ofText (t : Text) :
    (∀ title, (Block.ofText t).head? = some (.heading title) ↔
      OpensWithTitle (sourceLines t) title) ∧
    (∀ title, OpensWithTitle (sourceLines t) title →
      ∃ first rest, Text.lines (Text.stripOf (· == '\n') t) = first :: rest ∧ first ≠ [] ∧
        Text.isBlank first) ∧
    ∀ b bs, Block.ofText t = b :: bs → (∀ title, ¬ OpensWithTitle (sourceLines t) title) →
      ∃ kept, (splitLinks (Block.ofText t)).1 = b :: kept := by
  have hiff (title : Text) : (Block.ofText t).head? = some (.heading title) ↔
      OpensWithTitle (sourceLines t) title := head?_segment_iff (sourceLines t) title
  refine ⟨hiff, fun _ => whiteSpace_of_opensWithTitle, fun b bs hblocks hnone => ?_⟩
  rw [hblocks]
  refine exists_kept (fun title hb => hnone title ?_) bs
  rw [← hiff, hblocks, hb]
  rfl

/-- Notes that begin with the title of a list of links. -/
def linksNotes : Text := Text.of "Links\n\n- a, b"

/-- The same notes behind a space on a line of its own. -/
def spacedNotes : Text := Text.of " \nLinks\n\n- a, b"

/-- **The title is prose** where nothing is before it, and a heading behind the space. -/
theorem first_ofText_linksNotes :
    (∃ kept, (splitLinks (Block.ofText linksNotes)).1 = .paragraph [Text.of "Links"] :: kept) ∧
    ∃ first rest, Text.lines (Text.stripOf (· == '\n') spacedNotes) = first :: rest ∧ first ≠ [] ∧
      Text.isBlank first := by
  obtain ⟨hheading, -, hkept⟩ := first_ofText linksNotes
  obtain ⟨hspaced, hwhite, -⟩ := first_ofText spacedNotes
  have hlinks : Block.ofText linksNotes =
      [.paragraph [Text.of "Links"], .paragraph [Text.of "- a, b"]] := by decide +kernel
  refine ⟨hkept _ _ hlinks fun title h => ?_,
    hwhite (Text.of "Links") ((hspaced _).mp (by decide +kernel))⟩
  rw [← hheading, hlinks] at h
  cases h

/-- **A heading may be the first block**: behind a line with a space the title is one, and its text
is nothing but a list of links. -/
theorem exists_heading_first : ∃ t title bs, Block.ofText t = .heading title :: bs ∧
    (splitLinks (Block.ofText t)).1 = [] ∧ (splitLinks (Block.ofText t)).2 = [⟨['a'], ['b']⟩] :=
  ⟨spacedNotes, Text.of "Links", [.paragraph [Text.of "- a, b"]], by decide +kernel,
    by decide +kernel, by decide +kernel⟩

end ApiPage.Prose
