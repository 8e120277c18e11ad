import ApiPage.Proofs.Indents
import ApiPage.Proofs.Lexemes

/-!
# Segmentation of lines

Documentation is cut into stretches of lines, each of which becomes a block, apart from the blank
lines between them. Segmentation is a machine that goes through the lines and keeps the open
paragraph and two flags. A step takes a blank line, a piece of code, a title with the blank line
behind it or a line of prose, and closes the open paragraph in all cases but the last.

What the machine takes until the end of the lines is a layout. That a title is followed by a
paragraph is seen at once from its step, since a line of prose is next and no title follows a title.
Where a title may stand is kept by a flag, which a blank line raises and only prose lowers. So it
says that a blank line is before the place, or code directly behind a blank line; there is never
more than one piece of code, because a piece takes all the lines that it can.

## Main definitions

* `Prose.Stretch`: lines that are taken together.
* `Prose.Layout`: stretches in an order that segmentation gives.
* `Prose.Segmenter.Step`: a step of segmentation.
* `Prose.Placed`: a place that segmentation comes to.

## Main results

* `Prose.Segmenter.Step.placed`: a step leads from place to place.
* `Prose.exists_layout`: the lines of a text have a layout that gives its blocks.
-/

namespace ApiPage.Prose

/-! ### Lines -/

/-- **A line of prose** is neither blank nor indented. -/
structure IsProse (l : Text) : Prop where
  isBlank_eq : Text.isBlank l = false
  isIndented_eq : isIndented l = false

/-- **Lines of code**: blank and indented ones, the first and the last not blank. -/
structure IsCode (ls : List Text) : Prop where
  first : ∃ l ∈ ls.head?, Text.isBlank l = false ∧ isIndented l
  last : ∀ l ∈ ls.getLast?, Text.isBlank l = false
  lines : ∀ l ∈ ls, Text.isBlank l ∨ isIndented l

/-- Code has a line. -/
theorem IsCode.ne_nil {ls : List Text} (h : IsCode ls) : ls ≠ [] := by
  obtain ⟨l, hl, -⟩ := h.first
  rintro rfl
  cases hl

/-- Code begins with an indented line that is not blank. -/
theorem IsCode.head {l : Text} {ls : List Text} (h : IsCode (l :: ls)) :
    Text.isBlank l = false ∧ isIndented l := by
  obtain ⟨_, ⟨⟩, hl⟩ := h.first
  exact hl

/-- Prose follows where a blank line and a line of prose come next. -/
theorem proseFollows_iff {ls : List Text} : proseFollows ls = true ↔
    ∃ gap next rest, ls = gap :: next :: rest ∧ Text.isBlank gap ∧ IsProse next := by
  constructor
  · intro h
    rw [proseFollows.eq_def] at h
    split at h
    · next gap next rest =>
      simp only [Bool.and_eq_true, Bool.not_eq_true'] at h
      exact ⟨gap, next, rest, rfl, h.1.1, h.1.2, h.2⟩
    · cases h
  · rintro ⟨gap, next, rest, rfl, hgap, hnext⟩
    simp [proseFollows, hgap, hnext.isBlank_eq, hnext.isIndented_eq]

/-! ### Stretches -/

/-- **Stretch** of lines that segmentation takes together: a blank line, a paragraph, code, or a
title with the blank line behind it. -/
inductive Stretch
  | blank (line : Text)
  | prose (lines : List Text)
  | code (lines : List Text)
  | title (line gap : Text)

namespace Stretch

/-- The lines of a stretch. -/
def lines : Stretch → List Text
  | blank l => [l]
  | prose ls => ls
  | code ls => ls
  | title l gap => [l, gap]

/-- The block that a stretch becomes, if it becomes one. -/
def block? : Stretch → Option Block
  | blank _ => none
  | prose ls => some (.paragraph ls)
  | code ls => some (.preformat (unindent ls))
  | title l _ => (title? l).map .heading

end Stretch

/-- **A place where a title may stand**: behind a blank line, or behind code behind one. -/
def Cleared (ss : List Stretch) : Prop :=
  (∃ front l, ss = front ++ [.blank l]) ∨ ∃ front l ls, ss = front ++ [.blank l, .code ls]

/-- **Layout**: stretches in the order that segmentation gives them. A title stands where one may,
and a paragraph follows it. -/
inductive Layout : List Stretch → Prop
  | nil : Layout []
  | blank {ss : List Stretch} {l : Text} : Layout ss → Text.isBlank l → Layout (ss ++ [.blank l])
  | prose {ss : List Stretch} {ls : List Text} : Layout ss → ls ≠ [] → (∀ l ∈ ls, IsProse l) →
      Layout (ss ++ [.prose ls])
  | code {ss : List Stretch} {ls : List Text} : Layout ss → IsCode ls → Layout (ss ++ [.code ls])
  | title {ss : List Stretch} {l gap t : Text} {ls : List Text} : Layout ss → Cleared ss →
      title? l = some t → Text.isBlank gap → ls ≠ [] → (∀ l ∈ ls, IsProse l) →
      Layout (ss ++ [.title l gap, .prose ls])

/-- A paragraph may be replaced. -/
theorem Layout.replace {ss : List Stretch} {ls ms : List Text} (h : Layout (ss ++ [.prose ls]))
    (hne : ms ≠ []) (hms : ∀ l ∈ ms, IsProse l) : Layout (ss ++ [.prose ms]) := by
  generalize hts : ss ++ [.prose ls] = ts at h
  cases h with
  | nil => exact absurd hts (by simp)
  | blank _ _ => simp at hts
  | prose hss _ _ =>
    obtain ⟨rfl, -⟩ := List.append_inj' hts rfl
    exact .prose hss hne hms
  | code _ _ => simp at hts
  | title hss hcleared ht hgap _ _ =>
    obtain ⟨rfl, -⟩ := List.append_inj' (hts.trans (List.append_cons ..)) rfl
    have hlayout := Layout.title hss hcleared ht hgap hne hms
    rwa [List.append_cons] at hlayout

/-! ### Runs of code -/

/-- No more of a piece of code is ahead: the next line, if there is one, is blank or not
indented. -/
def CodeEnds (rest : List Text) : Prop := ∀ l ∈ rest.head?, Text.isBlank l ∨ isIndented l = false

/-- Only blank lines are dropped from the end, and all of them. -/
theorem exists_dropBlankEnd {l : Text} (hl : Text.isBlank l = false) (ls : List Text) :
    ∃ run blanks, ls = run ++ blanks ∧ dropBlankEnd (l :: ls) = l :: run ∧
      (∀ m ∈ blanks, Text.isBlank m) ∧ ∀ m ∈ (l :: run).getLast?, Text.isBlank m = false := by
  have hconcat (ls : List Text) (z : Text) : dropBlankEnd (ls ++ [z]) =
      if Text.isBlank z then dropBlankEnd ls else ls ++ [z] := List.rdropWhile_concat _ ls z
  induction ls using List.reverseRecOn with
  | nil =>
    refine ⟨[], [], rfl, ?_, List.forall_mem_nil _, by simpa using hl⟩
    rw [← List.nil_append [l], hconcat, if_neg (by simp [hl])]
  | append_singleton ls z ih =>
    rw [← List.cons_append, hconcat]
    split
    · next hz =>
      obtain ⟨run, blanks, hls, hrun, hblanks, hlast⟩ := ih
      refine ⟨run, blanks ++ [z], by rw [hls, List.append_assoc], hrun, ?_, hlast⟩
      rw [List.forall_mem_append, List.forall_mem_singleton]
      exact ⟨hblanks, hz⟩
    · next hz =>
      refine ⟨ls ++ [z], [], (List.append_nil _).symm, rfl, List.forall_mem_nil _, ?_⟩
      rw [← List.cons_append, List.getLast?_concat]
      simpa using hz

/-- **The code that starts with an indented line.** -/
theorem exists_preformatRun {l : Text} (hblank : Text.isBlank l = false)
    (hindent : isIndented l = true) (rest : List Text) : ∃ run rest', rest = run ++ rest' ∧
      preformatRun (l :: rest) = l :: run ∧ IsCode (l :: run) ∧ CodeEnds rest' := by
  obtain ⟨run, blanks, htaken, hrun, hblanks, hlast⟩ := exists_dropBlankEnd hblank
    (rest.takeWhile fun m => Text.isBlank m || isIndented m)
  refine ⟨run, blanks ++ rest.dropWhile fun m => Text.isBlank m || isIndented m, ?_, ?_,
    ⟨⟨l, rfl, hblank, hindent⟩, hlast, ?_⟩, ?_⟩
  · rw [← List.append_assoc, ← htaken, List.takeWhile_append_dropWhile]
  · rw [preformatRun, List.takeWhile_cons_of_pos (by simp [hindent]), hrun]
  · rw [List.forall_mem_cons]
    refine ⟨.inr hindent, fun m hm => ?_⟩
    have htake := List.mem_takeWhile_imp (htaken ▸ List.mem_append_left blanks hm)
    simpa using htake
  · intro m hm
    cases blanks with
    | nil =>
      have hstop := List.head?_dropWhile_not (fun m => Text.isBlank m || isIndented m) rest
      rw [List.nil_append] at hm
      rw [Option.mem_def.mp hm] at hstop
      exact .inr (Bool.or_eq_false_iff.mp hstop).2
    | cons b blanks =>
      obtain rfl := Option.some.inj hm
      exact .inl (hblanks _ List.mem_cons_self)

/-! ### Steps -/

/-- The open paragraph as a stretch, if it has lines. -/
def Segmenter.openStretch (s : Segmenter) : List Stretch :=
  if s.para.isEmpty then [] else [.prose s.para.reverse]

/-- **Step of segmentation**: from the lines `ls` in the state `s` it takes the stretches `out`, the
open paragraph included if it ends, and leaves `rest` in the state `s'`. -/
inductive Segmenter.Step : (s : Segmenter) → (ls : List Text) → (out : List Stretch) →
    (s' : Segmenter) → (rest : List Text) → Prop
  | blank {s : Segmenter} {l : Text} {rest : List Text} : Text.isBlank l →
      Step s (l :: rest) (s.openStretch ++ [.blank l]) ⟨[], true, s.heading⟩ rest
  | code {s : Segmenter} {l : Text} {run rest : List Text} : IsCode (l :: run) → CodeEnds rest →
      preformatRun (l :: (run ++ rest)) = l :: run →
      Step s (l :: (run ++ rest)) (s.openStretch ++ [.code (l :: run)]) ⟨[], s.blank, false⟩ rest
  | title {s : Segmenter} {l gap next t : Text} {rest : List Text} : IsProse l → s.blank →
      s.heading = false → Text.isBlank gap → IsProse next → title? l = some t →
      Step s (l :: gap :: next :: rest) (s.openStretch ++ [.title l gap]) ⟨[], s.blank, true⟩
        (next :: rest)
  | prose {s : Segmenter} {l : Text} {rest : List Text} : IsProse l →
      (if s.blank && !s.heading && proseFollows rest then title? l else none) = none →
      Step s (l :: rest) [] ⟨l :: s.para, false, false⟩ rest

/-- Lines that are skipped are dropped. -/
theorem segment_skip (s : Segmenter) (skip : Nat) (ls : List Text) :
    segment s skip ls = segment s 0 (ls.drop skip) := by
  induction ls generalizing skip with
  | nil => simp [segment]
  | cons l ls ih =>
    cases skip with
    | zero => rfl
    | succ skip => rw [segment, ih, List.drop_succ_cons]

/-- Closing gives the block of the open stretch. -/
theorem Segmenter.filterMap_openStretch (s : Segmenter) :
    s.openStretch.filterMap Stretch.block? = s.close := by
  rw [openStretch, close]
  split
  · rfl
  · rfl

namespace Segmenter.Step

variable {s s' : Segmenter} {ls rest : List Text} {out : List Stretch}

/-- **The blocks of a step** are the first of all. -/
theorem segment_eq (h : Step s ls out s' rest) :
    segment s 0 ls = out.filterMap Stretch.block? ++ segment s' 0 rest := by
  cases h with
  | blank hl =>
    rw [List.filterMap_append, filterMap_openStretch, segment, if_pos hl]
    simp [Stretch.block?]
  | code hcode _ hrun =>
    rw [List.filterMap_append, filterMap_openStretch, segment, if_neg (by simp [hcode.head.1]),
      if_pos hcode.head.2]
    dsimp only
    rw [hrun, segment_skip]
    simp [Stretch.block?]
  | @title l gap next t rest hl hblank hheading hgap hnext ht =>
    have hfollows : proseFollows (gap :: next :: rest) = true :=
      proseFollows_iff.mpr ⟨gap, next, rest, rfl, hgap, hnext⟩
    rw [List.filterMap_append, filterMap_openStretch, segment, if_neg (by simp [hl.isBlank_eq]),
      if_neg (by simp [hl.isIndented_eq])]
    simp [hblank, hheading, hfollows, ht, segment_skip, Stretch.block?]
  | prose hl hnone =>
    rw [segment, if_neg (by simp [hl.isBlank_eq]), if_neg (by simp [hl.isIndented_eq])]
    dsimp only
    rw [hnone]
    rfl

/-- What a step takes comes off the lines. -/
theorem lines_eq (h : Step s ls out s' rest) :
    (out ++ s'.openStretch).flatMap Stretch.lines ++ rest =
      s.openStretch.flatMap Stretch.lines ++ ls := by
  cases h with
  | blank hl => simp [openStretch, Stretch.lines]
  | code _ _ _ => simp [openStretch, Stretch.lines]
  | title _ _ _ _ _ _ => simp [openStretch, Stretch.lines]
  | prose _ _ =>
    rw [openStretch, openStretch]
    split
    · next hnil => simp at hnil
    · split
      · next hnil => simp [List.isEmpty_iff.mp hnil, Stretch.lines]
      · simp [Stretch.lines]

/-- A step takes at least one line. -/
theorem length_lt (h : Step s ls out s' rest) : rest.length < ls.length := by
  cases h with
  | blank _ => exact Nat.lt_succ_self _
  | code _ _ _ =>
    rw [List.length_cons, List.length_append]
    omega
  | title _ _ _ _ _ _ => exact Nat.lt_succ_of_lt (Nat.lt_succ_self _)
  | prose _ _ => exact Nat.lt_succ_self _

end Segmenter.Step

/-- Lines that are not used up allow a step. -/
theorem Segmenter.exists_step (s : Segmenter) {ls : List Text} (hls : ls ≠ []) :
    ∃ out s' rest, Segmenter.Step s ls out s' rest := by
  obtain ⟨l, rest, rfl⟩ := List.exists_cons_of_ne_nil hls
  cases hblank : Text.isBlank l with
  | true => exact ⟨_, _, _, .blank hblank⟩
  | false =>
    cases hindent : isIndented l with
    | true =>
      obtain ⟨run, rest, rfl, hrun, hcode, hends⟩ := exists_preformatRun hblank hindent rest
      exact ⟨_, _, _, .code hcode hends hrun⟩
    | false =>
      have hl : IsProse l := ⟨hblank, hindent⟩
      cases htitle : if s.blank && !s.heading && proseFollows rest then title? l else none with
      | none => exact ⟨_, _, _, .prose hl htitle⟩
      | some t =>
        split at htitle
        · next hplace =>
          simp only [Bool.and_eq_true, Bool.not_eq_true'] at hplace
          obtain ⟨⟨hs, hheading⟩, hfollows⟩ := hplace
          obtain ⟨gap, next, rest, rfl, hgap, hnext⟩ := proseFollows_iff.mp hfollows
          exact ⟨_, _, _, .title hl hs hheading hgap hnext htitle⟩
        · cases htitle

/-! ### Runs -/

/-- **Place of a run**: `front` are the stretches that are closed, and `rest` the lines ahead. Right
behind a title a line of prose is ahead. Everywhere else the stretches are a layout, with the open
paragraph as the last; a title may stand where the state says that a blank line came, and behind
code no more of it is ahead. -/
inductive Placed : (front : List Stretch) → (s : Segmenter) → (rest : List Text) → Prop
  | behindTitle {ss : List Stretch} {l gap t next : Text} {rest : List Text} : Layout ss →
      Cleared ss → title? l = some t → Text.isBlank gap → IsProse next →
      Placed (ss ++ [.title l gap]) ⟨[], true, true⟩ (next :: rest)
  | elsewhere {front : List Stretch} {s : Segmenter} {rest : List Text} :
      Layout (front ++ s.openStretch) → s.heading = false → (∀ l ∈ s.para, IsProse l) →
      (s.blank → Cleared front ∧ s.para = []) →
      (∀ ss ls, front = ss ++ [.code ls] → s.para = [] → CodeEnds rest) →
      Placed front s rest

/-- **A step leads from place to place.** Where a title is taken a line of prose is ahead, and no
title follows a title; and two pieces of code are never next to each other, as no more of the first
is ahead. -/
theorem Segmenter.Step.placed {front out : List Stretch} {s s' : Segmenter} {ls rest : List Text}
    (h : Segmenter.Step s ls out s' rest) (hp : Placed front s ls) :
    Placed (front ++ out) s' rest := by
  cases hp with
  | behindTitle hss hcleared ht hgap hnext =>
    cases h with
    | blank hl =>
      rw [hnext.isBlank_eq] at hl
      cases hl
    | code hcode _ _ =>
      have hindent := hcode.head.2
      rw [hnext.isIndented_eq] at hindent
      cases hindent
    | title _ _ hheading _ _ _ => cases hheading
    | prose hl _ =>
      refine .elsewhere ?_ rfl (by simpa using hl) (by simp) (by simp)
      simpa [openStretch] using
        Layout.title hss hcleared ht hgap (List.cons_ne_nil _ []) (by simpa using hl)
  | elsewhere hlayout hheading hpara hcleared hcode =>
    cases h with
    | blank hl =>
      rw [← List.append_assoc]
      refine .elsewhere ?_ hheading (List.forall_mem_nil _) (fun _ => ⟨.inl ⟨_, _, rfl⟩, rfl⟩) ?_
      · simpa [openStretch] using hlayout.blank hl
      · intro ss ls heq
        have hlast := List.append_inj_right' heq rfl
        cases hlast
    | @code l run rest hcode' hends _ =>
      rw [← List.append_assoc]
      refine .elsewhere ?_ rfl (List.forall_mem_nil _) (fun hs => ⟨.inr ?_, rfl⟩)
        fun _ _ _ _ => hends
      · simpa [openStretch] using hlayout.code hcode'
      · obtain ⟨⟨a, b, rfl⟩ | ⟨a, b, ls, rfl⟩, hnil⟩ := hcleared hs
        · exact ⟨a, b, l :: run, by simp [openStretch, hnil]⟩
        · rcases hcode (a ++ [.blank b]) ls (List.append_cons ..) hnil _ rfl with hblank | hindent
          · rw [hcode'.head.1] at hblank
            cases hblank
          · have hhead := hcode'.head.2
            rw [hindent] at hhead
            cases hhead
    | title hl hblank _ hgap hnext ht =>
      obtain ⟨hfront, hnil⟩ := hcleared hblank
      have hopen : s.openStretch = [] := by simp [openStretch, hnil]
      rw [hopen, List.append_nil] at hlayout
      rw [hopen, List.nil_append, hblank]
      exact .behindTitle hlayout hfront ht hgap hnext
    | @prose l rest hl _ =>
      rw [List.append_nil]
      have hlines : ∀ m ∈ l :: s.para, IsProse m := List.forall_mem_cons.mpr ⟨hl, hpara⟩
      refine .elsewhere ?_ rfl hlines (by simp) (by simp)
      have hne : (l :: s.para).reverse ≠ [] := by simp
      have hlines : ∀ m ∈ (l :: s.para).reverse, IsProse m :=
        fun m hm => hlines m (List.mem_reverse.mp hm)
      by_cases hnil : s.para = []
      · simp only [openStretch, hnil, List.isEmpty_nil, if_true, List.append_nil] at hlayout
        exact hlayout.prose hne hlines
      · rw [openStretch, if_neg (by simpa using hnil)] at hlayout
        exact hlayout.replace hne hlines

/-- **A run comes to the end of the lines**, and all that it takes is a layout. A step may take many
lines, so the induction is on how many are left. -/
theorem exists_layout_of_placed {front : List Stretch} {s : Segmenter} {ls : List Text}
    (h : Placed front s ls) : ∃ ss, Layout ss ∧
      ss.flatMap Stretch.lines = (front ++ s.openStretch).flatMap Stretch.lines ++ ls ∧
      ss.filterMap Stretch.block? = front.filterMap Stretch.block? ++ segment s 0 ls := by
  induction hlength : ls.length using Nat.strong_induction_on generalizing front s ls with
  | _ n ih =>
    by_cases hls : ls = []
    · subst hls
      cases h with
      | elsewhere hlayout _ _ _ _ =>
        refine ⟨_, hlayout, (List.append_nil _).symm, ?_⟩
        rw [List.filterMap_append, Segmenter.filterMap_openStretch, segment]
    · obtain ⟨out, s', rest, hstep⟩ := s.exists_step hls
      obtain ⟨ss, hlayout, hlines, hblocks⟩ :=
        ih rest.length (hlength ▸ hstep.length_lt) (hstep.placed h) rfl
      refine ⟨ss, hlayout, ?_, ?_⟩
      · rw [hlines, List.append_assoc, List.flatMap_append, List.append_assoc, hstep.lines_eq,
          List.flatMap_append, List.append_assoc]
      · rw [hblocks, hstep.segment_eq, List.filterMap_append, List.append_assoc]

/-! ### The lines of a text -/

/-- **The lines of a text as they are segmented**: without the newlines around it, and
unindented. -/
def sourceLines (t : Text) : List Text := unindent (Text.lines (Text.stripOf (· == '\n') t))

/-- **The lines of a text have a layout** that gives its blocks. -/
theorem exists_layout (t : Text) : ∃ ss, Layout ss ∧ ss.flatMap Stretch.lines = sourceLines t ∧
    ss.filterMap Stretch.block? = Block.ofText t := by
  have hstart : Placed [] ⟨[], false, false⟩ (sourceLines t) :=
    .elsewhere .nil rfl (List.forall_mem_nil _) (by simp) (by simp)
  exact exists_layout_of_placed hstart

end ApiPage.Prose
