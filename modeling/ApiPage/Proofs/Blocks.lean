import ApiPage.Proofs.Segmentation

/-!
# Blocks of documentation

What the blocks of a text keep of its lines, and which forms they have. Both are read off the layout
of the lines: each stretch of it is a blank line or becomes one block, which says what its lines
say. A paragraph follows every heading. A blank line comes behind the line of a heading; before that
line there is a blank line too, unless it stands directly behind code.

## Main definitions

* `Prose.Block.lines`: the lines of a block.
* `Prose.Block.IsProper`: the form of a block by its kind.
* `Prose.TitleStands`: the surroundings of a title in a layout.

## Main results

* `Prose.said_ofText`: blocks keep the lines of a text.
* `Prose.Layout.titleStands`: every title of a layout is in its place.
* `Prose.wellFormed_ofText`: blocks are well formed.
* `Prose.lines_of_heading`: the lines around a heading.
* `Prose.exists_heading_behind_code`: a heading may stand directly behind code.
-/

namespace ApiPage

/-! ### Stripped texts -/

namespace Text

/-- Stripping drops white space at the start, then at the end. -/
theorem strip_eq_rdropWhile (t : Text) :
    strip t = (t.dropWhile isSpaceChar).rdropWhile isSpaceChar := rfl

/-- A text is stripped to nothing if it is blank. -/
theorem strip_eq_nil_iff (t : Text) : strip t = [] ↔ isBlank t = true := by
  rw [strip_eq_rdropWhile, List.rdropWhile_eq_nil_iff, isBlank, List.all_eq_true]
  constructor
  · intro h c hc
    rw [← List.takeWhile_append_dropWhile (p := isSpaceChar) (l := t), List.mem_append] at hc
    exact hc.elim List.mem_takeWhile_imp (h c)
  · exact fun h c hc => h c ((List.dropWhile_suffix _).subset hc)

/-- What does not start with dropped characters still does not without some of its end. -/
theorem dropWhile_rdropWhile {p : Char → Bool} {t : Text} (h : t.dropWhile p = t) :
    (t.rdropWhile p).dropWhile p = t.rdropWhile p := by
  cases hr : t.rdropWhile p with
  | nil => rfl
  | cons c r =>
    obtain ⟨u, hu⟩ := List.rdropWhile_prefix p (l := t)
    rw [hr, List.cons_append] at hu
    rw [← hu] at h
    refine List.dropWhile_cons_of_neg fun hc => ?_
    rw [List.dropWhile_cons_of_pos hc] at h
    have hlength := (List.dropWhile_suffix p (l := r ++ u)).length_le
    rw [h, List.length_cons] at hlength
    omega

/-- A stripped text is stripped. -/
theorem strip_strip (t : Text) : strip (strip t) = strip t := by
  have hdrop : (t.dropWhile isSpaceChar).dropWhile isSpaceChar = t.dropWhile isSpaceChar :=
    List.dropWhile_idempotent ..
  rw [strip_eq_rdropWhile t, strip_eq_rdropWhile, dropWhile_rdropWhile hdrop,
    List.rdropWhile_idempotent]

end Text

namespace Prose

/-! ### Titles -/

/-- A title is its line, stripped, and is not blank. -/
theorem eq_strip_of_title? {l t : Text} (h : title? l = some t) :
    t = Text.strip l ∧ Text.isBlank l = false := by
  rw [title?] at h
  split at h
  · next c r z hcons _ =>
    split at h
    · obtain rfl := Option.some.inj h
      refine ⟨rfl, ?_⟩
      rw [← Bool.not_eq_true, ← Text.strip_eq_nil_iff, hcons]
      exact List.cons_ne_nil c r
    · cases h
  · cases h

/-! ### Lines of a text -/

/-- Newlines at the start of a text say nothing. -/
theorem said_lines_dropWhile (t : Text) :
    said (Text.lines (t.dropWhile (· == '\n'))) = said (Text.lines t) := by
  induction t with
  | nil => rfl
  | cons c t ih =>
    rw [List.dropWhile_cons]
    split
    · next hc =>
      obtain rfl := eq_of_beq hc
      rw [ih, Text.lines_newline, said_cons]
      rfl
    · rfl

/-- Newlines at the end of a text say nothing. -/
theorem said_lines_dropEnd (t : Text) :
    said (Text.lines (Text.dropEnd (· == '\n') t)) = said (Text.lines t) := by
  have hconcat (t : Text) (c : Char) : Text.dropEnd (· == '\n') (t ++ [c]) =
      if c == '\n' then Text.dropEnd (· == '\n') t else t ++ [c] := List.rdropWhile_concat _ t c
  induction t using List.reverseRecOn with
  | nil => rfl
  | append_singleton t c ih =>
    rw [hconcat]
    split
    · next hc =>
      have hlines : Text.lines (t ++ [c]) = Text.lines t ++ [[]] :=
        Text.splitBy_append (p := (· == '\n')) hc t []
      rw [ih, hlines, said_append]
      exact (List.append_nil _).symm
    · rfl

/-- **What the lines of a text say** is what is segmented. -/
theorem said_sourceLines (t : Text) : said (sourceLines t) = said (Text.lines t) := by
  rw [sourceLines, said_unindent, Text.stripOf, said_lines_dropEnd, said_lines_dropWhile]

/-! ### What blocks keep -/

/-- The lines of a block; a title is one line. -/
def Block.lines : Block → List Text
  | .heading t => [t]
  | .paragraph ls => ls
  | .preformat ls => ls

/-- **The form of a stretch** by its kind. -/
def Stretch.IsProper : Stretch → Prop
  | .blank l => Text.isBlank l
  | .prose ls => ls ≠ [] ∧ ∀ l ∈ ls, IsProse l
  | .code ls => IsCode ls
  | .title l gap => (∃ t, title? l = some t) ∧ Text.isBlank gap

/-- The stretches of a layout are proper. -/
theorem Layout.isProper {ss : List Stretch} (h : Layout ss) : ∀ st ∈ ss, st.IsProper := by
  induction h with
  | nil => exact List.forall_mem_nil _
  | blank _ hl ih => exact List.forall_mem_append.mpr ⟨ih, List.forall_mem_singleton.mpr hl⟩
  | prose _ hne hls ih =>
    exact List.forall_mem_append.mpr ⟨ih, List.forall_mem_singleton.mpr ⟨hne, hls⟩⟩
  | code _ hls ih => exact List.forall_mem_append.mpr ⟨ih, List.forall_mem_singleton.mpr hls⟩
  | title _ _ ht hgap hne hls ih =>
    rw [List.forall_mem_append, List.forall_mem_cons, List.forall_mem_singleton]
    exact ⟨ih, ⟨⟨_, ht⟩, hgap⟩, hne, hls⟩

/-- A block keeps what its stretch says. -/
theorem Stretch.IsProper.said_eq {st : Stretch} (h : st.IsProper) :
    said (st.block?.toList.flatMap Block.lines) = said st.lines := by
  cases st with
  | blank l =>
    have hl : Text.isBlank l := h
    simp [block?, lines, said, hl]
  | prose ls => simp [block?, lines, Block.lines]
  | code ls =>
    have hsaid := said_unindent ls
    simpa [block?, lines, Block.lines] using hsaid
  | title l gap =>
    obtain ⟨⟨t, ht⟩, hgap⟩ := h
    obtain ⟨rfl, hl⟩ := eq_strip_of_title? ht
    have hblank : Text.isBlank (Text.strip l) = false := by
      rw [← Bool.not_eq_true, ← Text.strip_eq_nil_iff, Text.strip_strip, Text.strip_eq_nil_iff, hl]
      exact Bool.false_ne_true
    simp [block?, ht, lines, Block.lines, said_cons, hl, hblank, hgap, Text.strip_strip]

/-- **The blocks of proper stretches** say what their lines do. -/
theorem said_blocks {ss : List Stretch} (h : ∀ st ∈ ss, st.IsProper) :
    said ((ss.filterMap Stretch.block?).flatMap Block.lines) = said (ss.flatMap Stretch.lines) := by
  rw [List.filterMap_eq_flatMap_toList, List.flatMap_assoc, said_flatMap, said_flatMap]
  exact List.flatMap_congr fun st hst => (h st hst).said_eq

/-- **Blocks keep the text.** Their lines say what the lines of the text say, in that order. The
lines of the text are cut into stretches, each of which becomes a block or is a blank line: those of
a paragraph stand in it as they are, and those of code stand in it line for line, unindented, with a
blank line as an empty one; the first and the last line of code are not blank. -/
theorem said_ofText (t : Text) :
    said ((Block.ofText t).flatMap Block.lines) = said (Text.lines t) ∧
    ∃ ss : List Stretch, ss.flatMap Stretch.lines = sourceLines t ∧
      ss.filterMap Stretch.block? = Block.ofText t ∧
      ∀ st ∈ ss, st.IsProper ∧ ∀ ls, st = .code ls →
        ∃ p, (∀ c ∈ p, Text.isBlankChar c) ∧
          List.Forall₂ (Unindented p) ls (unindent ls) := by
  obtain ⟨ss, hlayout, hlines, hblocks⟩ := exists_layout t
  refine ⟨?_, ss, hlines, hblocks, fun st hst => ⟨hlayout.isProper st hst, fun ls _ => ?_⟩⟩
  · rw [← hblocks, said_blocks hlayout.isProper, hlines, said_sourceLines]
  · obtain ⟨p, f, hp, hmap, hall, -⟩ := exists_unindent ls
    refine ⟨p, hp, ?_⟩
    rwa [hmap, List.forall₂_map_right_iff, List.forall₂_same]

/-! ### The form of blocks -/

/-- **The form of a block**: a paragraph has lines, all of them prose. Code has lines of which the
first and the last are not blank, and whatever space or tab, some line that is not blank begins with
another character. -/
def Block.IsProper : Block → Prop
  | .heading _ => True
  | .paragraph ls => ls ≠ [] ∧ ∀ l ∈ ls, IsProse l
  | .preformat ls => (∃ l ∈ ls.head?, Text.isBlank l = false) ∧
      (∃ l ∈ ls.getLast?, Text.isBlank l = false) ∧
      ∀ c, Text.isBlankChar c → ∃ l ∈ ls, Text.isBlank l = false ∧ l.head? ≠ some c

/-- Unindented code is what code is to be. -/
theorem IsCode.isProper_unindent {ls : List Text} (h : IsCode ls) :
    (Block.preformat (unindent ls)).IsProper := by
  obtain ⟨l, hl, hblank, -⟩ := h.first
  have hlast := List.getLast?_eq_some_getLast h.ne_nil
  obtain ⟨p, f, hp, hmap, hall, -⟩ := exists_unindent ls
  have hkeeps : ∀ m ∈ ls, Text.isBlank m = false → Text.isBlank (f m) = false :=
    fun m hm hnot => ((hall m hm).isBlank_eq hp).trans hnot
  refine ⟨⟨f l, ?_, hkeeps l (List.mem_of_mem_head? hl) hblank⟩, ?_, fun c hc => ?_⟩
  · rw [hmap, List.head?_map, Option.mem_def.mp hl]
    rfl
  · refine ⟨f (ls.getLast h.ne_nil), ?_, hkeeps _ (List.getLast_mem _) (h.last _ hlast)⟩
    rw [hmap, List.getLast?_map, hlast]
    rfl
  · have hshared := not_shared_unindent ⟨l, List.mem_of_mem_head? hl, hblank⟩ hc
    simpa using hshared

/-- A proper stretch makes a proper block. -/
theorem Stretch.IsProper.isProper {st : Stretch} (h : st.IsProper) :
    ∀ b ∈ st.block?, b.IsProper := by
  cases st with
  | blank l => exact fun b hb => by cases hb
  | prose ls =>
    rintro _ ⟨⟩
    exact h
  | code ls =>
    rintro _ ⟨⟩
    exact IsCode.isProper_unindent h
  | title l gap =>
    intro b hb
    obtain ⟨t, -, rfl⟩ := Option.map_eq_some_iff.mp hb
    trivial

/-- **A title in its place**: it stands where a title may, and behind the blank line that follows it
there is a paragraph. -/
structure TitleStands (front : List Stretch) (gap : Text) (back : List Stretch) : Prop where
  cleared : Cleared front
  isBlank_gap : Text.isBlank gap
  paragraph : ∃ ls back', back = .prose ls :: back' ∧ ls ≠ [] ∧ ∀ m ∈ ls, IsProse m

/-- More stretches behind it change nothing. -/
theorem TitleStands.concat {front back : List Stretch} {gap : Text} (h : TitleStands front gap back)
    (st : Stretch) : TitleStands front gap (back ++ [st]) := by
  obtain ⟨hcleared, hgap, ls, back', rfl, hls⟩ := h
  exact ⟨hcleared, hgap, ls, back' ++ [st], rfl, hls⟩

/-- The last of some stretches stands at a place of them, or behind it. -/
theorem concat_eq_append_cons {ss front back : List Stretch} {x y : Stretch}
    (h : ss ++ [x] = front ++ y :: back) :
    (x = y ∧ ss = front ∧ back = []) ∨ ∃ back', back = back' ++ [x] ∧ ss = front ++ y :: back' := by
  rcases List.eq_nil_or_concat' back with rfl | ⟨back', z, rfl⟩
  · obtain ⟨hss, hxy⟩ := List.append_inj' h rfl
    exact .inl ⟨List.singleton_inj.mp hxy, hss, rfl⟩
  · rw [← List.cons_append, ← List.append_assoc] at h
    obtain ⟨hss, hxz⟩ := List.append_inj' h rfl
    obtain rfl := List.singleton_inj.mp hxz
    exact .inr ⟨back', rfl, hss⟩

/-- A stretch of another kind adds no title. -/
theorem titleStands_of_concat {ss front back : List Stretch} {l gap : Text} {st : Stretch}
    (hkind : st ≠ .title l gap)
    (ih : ∀ {back}, ss = front ++ .title l gap :: back → TitleStands front gap back)
    (h : ss ++ [st] = front ++ .title l gap :: back) : TitleStands front gap back := by
  rcases concat_eq_append_cons h with ⟨heq, -, -⟩ | ⟨back', rfl, hss⟩
  · exact absurd heq hkind
  · exact (ih hss).concat st

/-- **Every title of a layout is in its place.** -/
theorem Layout.titleStands {ss front back : List Stretch} {l gap : Text} (h : Layout ss)
    (hss : ss = front ++ .title l gap :: back) : TitleStands front gap back := by
  induction h generalizing back with
  | nil => simp at hss
  | blank _ _ ih => exact titleStands_of_concat (by simp) ih hss
  | prose _ _ _ ih => exact titleStands_of_concat (by simp) ih hss
  | code _ _ ih => exact titleStands_of_concat (by simp) ih hss
  | title _ hplace _ hblank hne hprose ih =>
    rw [List.append_cons] at hss
    rcases concat_eq_append_cons hss with ⟨hkind, -, -⟩ | ⟨back', rfl, hss'⟩
    · cases hkind
    · rcases concat_eq_append_cons hss' with ⟨hkind, rfl, rfl⟩ | ⟨back'', rfl, hss''⟩
      · obtain ⟨rfl, rfl⟩ := Stretch.title.inj hkind
        exact ⟨hplace, hblank, _, [], rfl, hne, hprose⟩
      · exact ((ih hss'').concat _).concat _

/-- A heading comes from the title of a layout. -/
theorem Layout.of_heading {ss : List Stretch} {bs cs : List Block} {t : Text}
    (h : ss.filterMap Stretch.block? = bs ++ .heading t :: cs) :
    ∃ front back l gap, ss = front ++ .title l gap :: back ∧ title? l = some t ∧
      front.filterMap Stretch.block? = bs ∧ back.filterMap Stretch.block? = cs := by
  obtain ⟨front₁, rest, rfl, hfront₁, hrest⟩ := List.filterMap_eq_append_iff.mp h
  obtain ⟨front₂, st, back, rfl, hnone, hst, hback⟩ := List.filterMap_eq_cons_iff.mp hrest
  cases st with
  | blank l => cases hst
  | prose ls => cases hst
  | code ls => cases hst
  | title l gap =>
    obtain ⟨t', ht, heq⟩ := Option.map_eq_some_iff.mp hst
    obtain rfl := Block.heading.inj heq
    refine ⟨front₁ ++ front₂, back, l, gap, by rw [List.append_assoc], ht, ?_, hback⟩
    rw [List.filterMap_append, hfront₁, List.filterMap_eq_nil_iff.mpr hnone, List.append_nil]

/-- **Blocks are well formed**: a paragraph follows every heading, and each block has the form of
its kind. -/
theorem wellFormed_ofText (t : Text) :
    (∀ bs title cs, Block.ofText t = bs ++ .heading title :: cs →
      ∃ ls cs', cs = .paragraph ls :: cs') ∧
    ∀ b ∈ Block.ofText t, b.IsProper := by
  obtain ⟨ss, hlayout, -, hblocks⟩ := exists_layout t
  rw [← hblocks]
  constructor
  · intro bs title cs h
    obtain ⟨front, back, l, gap, hss, -, -, rfl⟩ := Layout.of_heading h
    obtain ⟨-, -, ls, back', rfl, -⟩ := hlayout.titleStands hss
    exact ⟨ls, _, rfl⟩
  · intro b hb
    obtain ⟨st, hst, hblock⟩ := List.mem_filterMap.mp hb
    exact (hlayout.isProper st hst).isProper b hblock

/-- Notes with a heading, and code with a blank line inside and a deeper line. -/
def headedNotes : Text := Text.of "A\n\nMore\n\nB\n    x\n \n      y\n\nC"

/-- A paragraph, a heading, a paragraph, code with a gap in it and a paragraph. -/
theorem wellFormed_ofText_headedNotes :
    Block.ofText headedNotes = [.paragraph [Text.of "A"]] ++ .heading (Text.of "More") ::
        [.paragraph [Text.of "B"], .preformat [['x'], [], Text.of "  y"], .paragraph [['C']]] ∧
      (∃ ls cs, [.paragraph [Text.of "B"], .preformat [['x'], [], Text.of "  y"],
        .paragraph [['C']]] = Block.paragraph ls :: cs) ∧
      (Block.preformat [['x'], [], Text.of "  y"]).IsProper := by
  have hblocks : Block.ofText headedNotes = [.paragraph [Text.of "A"]] ++
      .heading (Text.of "More") ::
        [.paragraph [Text.of "B"], .preformat [['x'], [], Text.of "  y"], .paragraph [['C']]] := by
    decide +kernel
  obtain ⟨hheadings, hforms⟩ := wellFormed_ofText headedNotes
  exact ⟨hblocks, hheadings _ _ _ hblocks, hforms _ (by rw [hblocks]; simp)⟩

/-! ### Headings among the lines -/

/-- **The lines around a heading.** A blank line comes behind it and then a line of prose. Before it
there is a blank line, or the last line of code that stands directly behind a blank line. What is
before it is what the blocks before it say. -/
theorem lines_of_heading {t title : Text} {bs cs : List Block}
    (h : Block.ofText t = bs ++ .heading title :: cs) :
    ∃ front line gap next rest, sourceLines t = front ++ line :: gap :: next :: rest ∧
      title? line = some title ∧ said front = said (bs.flatMap Block.lines) ∧
      Text.isBlank gap ∧ IsProse next ∧
      ((∃ front' b, front = front' ++ [b] ∧ Text.isBlank b) ∨
        ∃ front' b code bs', front = front' ++ b :: code ∧ Text.isBlank b ∧ IsCode code ∧
          bs = bs' ++ [.preformat (unindent code)]) := by
  obtain ⟨ss, hlayout, hlines, hblocks⟩ := exists_layout t
  have hproper := hlayout.isProper
  obtain ⟨front, back, line, gap, rfl, htitle, hbs, -⟩ := Layout.of_heading (hblocks.trans h)
  obtain ⟨hcleared, hgap, ls, back', rfl, hne, hprose⟩ := hlayout.titleStands rfl
  obtain ⟨next, ls, rfl⟩ := List.exists_cons_of_ne_nil hne
  obtain ⟨hfront, -⟩ := List.forall_mem_append.mp hproper
  refine ⟨front.flatMap Stretch.lines, line, gap, next, ls ++ back'.flatMap Stretch.lines, ?_,
    htitle, ?_, hgap, hprose next List.mem_cons_self, ?_⟩
  · rw [← hlines, List.flatMap_append, List.flatMap_cons, List.flatMap_cons]
    rfl
  · rw [← hbs, said_blocks hfront]
  · rcases hcleared with ⟨a, b, rfl⟩ | ⟨a, b, code, rfl⟩
    · have hb : Text.isBlank b := hfront (.blank b) (by simp)
      exact .inl ⟨_, b, List.flatMap_append, hb⟩
    · have hb : Text.isBlank b := hfront (.blank b) (by simp)
      have hcode : IsCode code := hfront (.code code) (by simp)
      refine .inr ⟨a.flatMap Stretch.lines, b, code, a.filterMap Stretch.block?, ?_, hb, hcode, ?_⟩
      · simp [Stretch.lines]
      · rw [← hbs, List.filterMap_append]
        rfl

/-- Notes with a title directly behind code. -/
def codeNotes : Text := Text.of "A\n\n    x\nMore\n\nB"

/-- The blocks of `codeNotes` before the heading. -/
def codeFront : List Block := [.paragraph [['A']], .preformat [['x']]]

/-- A heading directly behind code. -/
theorem ofText_codeNotes : Block.ofText codeNotes =
    codeFront ++ .heading (Text.of "More") :: [.paragraph [['B']]] := by
  decide +kernel

/-- The blank line of that heading is the one before the code. -/
theorem lines_of_heading_codeNotes :
    Block.ofText codeNotes = codeFront ++ .heading (Text.of "More") :: [.paragraph [['B']]] ∧
    ∃ front line gap next rest, sourceLines codeNotes = front ++ line :: gap :: next :: rest ∧
      title? line = some (Text.of "More") ∧ said front = said (codeFront.flatMap Block.lines) ∧
      Text.isBlank gap ∧ IsProse next ∧
      ((∃ front' b, front = front' ++ [b] ∧ Text.isBlank b) ∨
        ∃ front' b code bs', front = front' ++ b :: code ∧ Text.isBlank b ∧ IsCode code ∧
          codeFront = bs' ++ [.preformat (unindent code)]) :=
  ⟨ofText_codeNotes, lines_of_heading ofText_codeNotes⟩

/-- **A heading may have no blank line before it**: that of `codeNotes` stands right behind code,
and none of its six lines that reads as this title has a blank line before it. -/
theorem exists_heading_behind_code : ∃ t bs title cs,
    Block.ofText t = bs ++ .heading title :: cs ∧
      ¬∃ front b line gap next rest, sourceLines t = front ++ b :: line :: gap :: next :: rest ∧
        Text.isBlank b ∧ title? line = some title ∧ Text.isBlank gap ∧ IsProse next := by
  refine ⟨codeNotes, _, _, _, ofText_codeNotes, ?_⟩
  rintro ⟨front, b, line, gap, next, rest, hlines, hb, htitle, -⟩
  have hall : ∀ k < 6, (sourceLines codeNotes)[k + 1]?.bind title? = some (Text.of "More") →
      (sourceLines codeNotes)[k]?.all (fun l => !Text.isBlank l) = true := by
    decide +kernel
  have hlength : (sourceLines codeNotes).length = 6 := by decide +kernel
  have hlt : front.length < 6 := by
    rw [hlines, List.length_append, List.length_cons] at hlength
    omega
  have hbefore := hall front.length hlt
  rw [hlines] at hbefore
  simp [htitle, hb] at hbefore

end Prose
end ApiPage
