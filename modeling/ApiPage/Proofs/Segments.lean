import ApiPage.Proofs.ShownCode

/-!
# Segments of examples

The segments of code have one form, whatever lexer cuts it, if no piece is empty and the pieces make
up the code. What stands between two comments is one segment, unless it is nothing: its strings are
as they are in the code, and what stands between the strings is without indentation. The comments
are those of the code. From the comment on that announces the output nothing is shown, and at the
end no blank lines are.

## Main definitions

* `Example.ShownRun`: how pieces between two comments are shown.
* `Example.Segmented`: the segments of pieces.
* `Example.Trimmed`: segments without the blank lines at their end.
* `Example.EndsInBlankLine`: a text that ends in blank lines.

## Main results

* `Example.segmented_segmentPieces`: what a run of segmenting comes to.
* `Example.segments_canonical`: the form of the segments of code.
-/

namespace ApiPage.Example

/-! ### The segments of pieces -/

/-- **What is shown of pieces between two comments**: strings as they are, and what stands between
two strings without the indentation. -/
inductive ShownRun (indent : Text) : List Piece → Text → Prop
  | nil : ShownRun indent [] []
  | string {ps : List Piece} {u : Text} (t : Text) : ShownRun indent ps u →
      ShownRun indent (ps ++ [⟨.string, t⟩]) (u ++ t)
  | code {ps : List Piece} {u : Text} {ts : List Text} : ShownRun indent ps u →
      (∀ p ∈ ps.getLast?, p.shade = .string) → ts ≠ [] →
      ShownRun indent (ps ++ ts.map (⟨.other, ·⟩)) (u ++ unindent indent ts.flatten)

/-- The segment of what stands between two comments, unless that is nothing. -/
def codeSegments (u : Text) : List Segment := if u.isEmpty then [] else [⟨u, false⟩]

/-- The segments of pieces up to a comment, or of none. -/
inductive Parted (indent : Text) : List Piece → List Segment → Prop
  | nil : Parted indent [] []
  | comment {ps run : List Piece} {ss : List Segment} {u : Text} (t : Text) :
      Parted indent ps ss → ShownRun indent run u →
      Parted indent (ps ++ run ++ [⟨.comment, t⟩]) (ss ++ codeSegments u ++ [⟨t, true⟩])

/-- **The segments of pieces**: the comments, and what is shown before, between and behind them. -/
inductive Segmented (indent : Text) : List Piece → List Segment → Prop
  | mk {ps run : List Piece} {ss : List Segment} {u : Text} :
      Parted indent ps ss → ShownRun indent run u →
      Segmented indent (ps ++ run) (ss ++ codeSegments u)

variable {indent u : Text} {ps run : List Piece} {ss : List Segment}

/-- What is shown of code behind a string, be it nothing. -/
theorem ShownRun.endCode (h : ShownRun indent run u) (hlast : ∀ p ∈ run.getLast?, p.shade = .string)
    (ts : List Text) :
    ShownRun indent (run ++ ts.map (⟨.other, ·⟩)) (u ++ unindent indent ts.flatten) := by
  cases ts with
  | nil => simpa [unindent, unindentFrom] using h
  | cons t ts => exact h.code hlast (List.cons_ne_nil t ts)

/-- A run of code has no comments. -/
theorem ShownRun.commentless (h : ShownRun indent run u) :
    run.filter (·.shade = .comment) = [] := by
  induction h with
  | nil => rfl
  | string t _ ih => simp [List.filter_append, ih]
  | code _ _ _ ih => simp [List.filter_append, ih, List.filter_map]

/-- There is at most one segment of code. -/
@[simp] theorem reverse_codeSegments (u : Text) : (codeSegments u).reverse = codeSegments u := by
  rw [codeSegments]
  split <;> rfl

/-- A segment of code is no comment and not empty. -/
theorem mem_codeSegments {s : Segment} (h : s ∈ codeSegments u) :
    s.isComment = false ∧ s.text ≠ [] := by
  rw [codeSegments] at h
  split at h
  · exact nomatch h
  · next hu =>
    obtain rfl := List.mem_singleton.mp h
    exact ⟨rfl, by simpa using hu⟩

/-! ### A run of segmenting -/

/-- **Progress at the end of some pieces**: up to the last comment they are in the segments, up to
the last string behind it in the pending texts, and the rest is the code. None of the texts is
empty. -/
inductive Progress.At (indent : Text) : List Piece → Progress → Prop
  | mk {ps run : List Piece} {ss : List Segment} {us ts : List Text} :
      Parted indent ps ss → ShownRun indent run us.flatten →
      (∀ p ∈ run.getLast?, p.shade = .string) → (∀ u ∈ us, u ≠ []) → (∀ t ∈ ts, t ≠ []) →
      At indent (ps ++ run ++ ts.map (⟨.other, ·⟩)) ⟨ss.reverse, us, ts⟩

/-- Nothing is segmented at the start. -/
theorem at_start (indent : Text) : Progress.At indent [] ⟨[], [], []⟩ :=
  .mk .nil (.nil : ShownRun indent [] ([] : List Text).flatten) (by simp) (List.forall_mem_nil _)
    (List.forall_mem_nil (· ≠ []))

/-- A text that is not empty is none without its indentation either. -/
theorem unindent_ne_nil (indent : Text) {t : Text} (h : t ≠ []) : unindent indent t ≠ [] := by
  obtain ⟨c, r, rfl⟩ := List.exists_cons_of_ne_nil h
  rw [unindent, unindentFrom]
  split <;> exact List.cons_ne_nil _ _

/-- Texts that are not empty make up none that is. -/
theorem flatten_ne_nil {ts : List Text} (hts : ∀ t ∈ ts, t ≠ []) (h : ts ≠ []) :
    ts.flatten ≠ [] := by
  obtain ⟨t, us, rfl⟩ := List.exists_cons_of_ne_nil h
  exact mt List.flatten_eq_nil_iff.mp fun hnil => hts t List.mem_cons_self (hnil t List.mem_cons_self)

/-- Where code ends it is shown behind the pending texts, and none of them is empty. -/
theorem endCode_spec (indent : Text) {p : Progress} (hpending : ∀ u ∈ p.pending, u ≠ [])
    (hcode : ∀ t ∈ p.code, t ≠ []) :
    ∃ us, p.endCode indent = ⟨p.segments, us, []⟩ ∧ (∀ u ∈ us, u ≠ []) ∧
      us.flatten = p.pending.flatten ++ unindent indent p.code.flatten := by
  rw [Progress.endCode]
  split
  · next hnil =>
    have hnil : p.code = [] := List.isEmpty_iff.mp hnil
    exact ⟨p.pending, by rw [← hnil], hpending, by simp [hnil, unindent, unindentFrom]⟩
  · next hne =>
    have hlast := unindent_ne_nil indent (flatten_ne_nil hcode (by simpa using hne))
    exact ⟨_, rfl, List.forall_mem_append.mpr ⟨hpending, List.forall_mem_singleton.mpr hlast⟩,
      by simp⟩

/-- Where the text between comments ends it is a segment, unless it is nothing. -/
theorem flush_eq (indent : Text) {p : Progress} (hpending : ∀ u ∈ p.pending, u ≠ [])
    (hcode : ∀ t ∈ p.code, t ≠ []) : p.flush indent =
      ⟨codeSegments (p.pending.flatten ++ unindent indent p.code.flatten) ++ p.segments, [], []⟩ := by
  obtain ⟨us, hend, hus, hflatten⟩ := endCode_spec indent hpending hcode
  rw [Progress.flush, hend, codeSegments, ← hflatten]
  cases us with
  | nil => rfl
  | cons u us => simp [List.forall_mem_cons.mp hus]

/-- What is segmented so far makes segments. -/
theorem segmented_flush {p : Progress} (h : p.At indent ps) :
    Segmented indent ps (p.flush indent).segments.reverse := by
  obtain ⟨hparted, hrun, hlast, hus, hts⟩ := h
  rw [flush_eq indent hus hts, List.reverse_append, List.reverse_reverse, reverse_codeSegments,
    List.append_assoc]
  exact .mk hparted (hrun.endCode hlast _)

/-- One more piece of code. -/
theorem at_other {p : Progress} (h : p.At indent ps) {t : Text} (ht : t ≠ []) :
    Progress.At indent (ps ++ [⟨.other, t⟩]) { p with code := p.code ++ [t] } := by
  obtain ⟨hparted, hrun, hlast, hus, hts⟩ := h
  have hnext := Progress.At.mk hparted hrun hlast hus
    (List.forall_mem_append.mpr ⟨hts, List.forall_mem_singleton.mpr ht⟩)
  simpa using hnext

/-- One more string. -/
theorem at_string {p : Progress} (h : p.At indent ps) {t : Text} (ht : t ≠ []) :
    Progress.At indent (ps ++ [⟨.string, t⟩])
      { p.endCode indent with pending := (p.endCode indent).pending ++ [t] } := by
  obtain @⟨_, _, ss, us, ts, hparted, hrun, hlast, hus, hts⟩ := h
  obtain ⟨vs, hend, hne, hflatten⟩ := endCode_spec indent (p := ⟨ss.reverse, us, ts⟩) hus hts
  rw [hend]
  have hshown := (hrun.endCode hlast ts).string t
  rw [← hflatten, ← List.flatten_concat] at hshown
  have hnext := Progress.At.mk hparted hshown (by simp)
    (List.forall_mem_append.mpr ⟨hne, List.forall_mem_singleton.mpr ht⟩) (List.forall_mem_nil _)
  simpa using hnext

/-- One more comment. -/
theorem at_comment {p : Progress} (h : p.At indent ps) (t : Text) :
    Progress.At indent (ps ++ [⟨.comment, t⟩])
      { p.flush indent with segments := ⟨t, true⟩ :: (p.flush indent).segments } := by
  obtain @⟨_, _, ss, us, ts, hparted, hrun, hlast, hus, hts⟩ := h
  have hnext := Progress.At.mk (hparted.comment t (hrun.endCode hlast ts))
    (.nil : ShownRun indent [] ([] : List Text).flatten) (by simp) (List.forall_mem_nil _)
    (List.forall_mem_nil (· ≠ []))
  rw [flush_eq indent (p := ⟨ss.reverse, us, ts⟩) hus hts]
  simpa using hnext

/-- **A run of segmenting** ends with the segments of the pieces up to the announcement. The
induction moves one piece at a time from those to come to those that the progress is at the end of.
-/
theorem segmented_segmentPieces {p : Progress} (h : p.At indent ps) {qs : List Piece}
    (hqs : ∀ q ∈ qs, q.text ≠ []) :
    Segmented indent (ps ++ qs.takeWhile (!·.announces)) (segmentPieces indent p qs).reverse := by
  induction qs generalizing ps p with
  | nil =>
    rw [segmentPieces, List.takeWhile_nil, List.append_nil]
    exact segmented_flush h
  | cons q qs ih =>
    have hshown (hq : q.announces = false) : ps ++ (q :: qs).takeWhile (!·.announces) =
        ps ++ [q] ++ qs.takeWhile (!·.announces) := by
      rw [List.takeWhile_cons_of_pos (by simp [hq]), List.append_assoc]
      rfl
    obtain ⟨ht, hbelow⟩ := List.forall_mem_cons.mp hqs
    obtain ⟨shade, t⟩ := q
    cases shade with
    | other =>
      rw [segmentPieces, hshown rfl]
      exact ih (at_other h ht) hbelow
    | string =>
      rw [segmentPieces, hshown rfl]
      exact ih (at_string h ht) hbelow
    | comment =>
      rw [segmentPieces]
      split
      · next hmark =>
        rw [List.takeWhile_cons_of_neg (by simp [Piece.announces, hmark]), List.append_nil]
        exact segmented_flush h
      · next hmark =>
        rw [hshown (by simpa [Piece.announces] using hmark)]
        exact ih (at_comment h t) hbelow

/-! ### Blank lines at the end -/

/-- **A text that ends in blank lines**: in a newline and blanks and newlines behind it. -/
def EndsInBlankLine (t : Text) : Prop :=
  ∃ u blanks, t = u ++ '\n' :: blanks ∧ ∀ c ∈ blanks, isLayoutChar c

/-- A newline with blanks behind it is layout. -/
theorem isLayoutChar_of_blanks {blanks : Text} (h : ∀ c ∈ blanks, isLayoutChar c) :
    ∀ c ∈ '\n' :: blanks, isLayoutChar c := List.forall_mem_cons.mpr ⟨rfl, h⟩

/-- Blanks without a newline, behind a text whose last character is no blank or newline. -/
theorem not_endsInBlankLine {t w : Text} (ht : ∀ c ∈ t.getLast?, isLayoutChar c = false)
    (hw : '\n' ∉ w) : ¬ EndsInBlankLine (t ++ w) := by
  rintro ⟨u, blanks, heq, hblanks⟩
  rcases List.append_eq_append_iff.mp heq with ⟨x, -, rfl⟩ | ⟨x, rfl, hx⟩
  · exact hw (List.mem_append_right x List.mem_cons_self)
  · cases x with
    | nil =>
      rw [List.nil_append] at hx
      exact hw (hx ▸ List.mem_cons_self)
    | cons c x =>
      have hlast : (u ++ c :: x).getLast? = some ((c :: x).getLast (List.cons_ne_nil c x)) := by
        rw [List.getLast?_append_of_ne_nil u (List.cons_ne_nil c x), List.getLast?_eq_some_getLast]
      have hmem : (c :: x).getLast (List.cons_ne_nil c x) ∈ '\n' :: blanks :=
        hx ▸ List.mem_append_left w (List.getLast_mem _)
      have hno := ht _ hlast
      rw [isLayoutChar_of_blanks hblanks _ hmem] at hno
      cases hno

/-- **A text without the blank lines at its end**: there are none left, and nothing else is taken
away. -/
theorem trimBlankLines_spec (t : Text) : ¬ EndsInBlankLine (trimBlankLines t) ∧
    (trimBlankLines t = t ∨
      ∃ blanks, t = trimBlankLines t ++ '\n' :: blanks ∧ ∀ c ∈ blanks, isLayoutChar c) := by
  set kept := Text.dropEnd isLayoutChar t with hkept
  set w := (t.reverse.takeWhile isLayoutChar).reverse with hw
  have hsplit : kept ++ w = t := by
    rw [hkept, hw, Text.dropEnd, ← List.reverse_append, List.takeWhile_append_dropWhile,
      List.reverse_reverse]
  have hlast : ∀ c ∈ kept.getLast?, isLayoutChar c = false := by
    intro c hc
    rw [hkept, Text.dropEnd, List.getLast?_reverse] at hc
    simpa [Option.mem_def.mp hc] using List.head?_dropWhile_not isLayoutChar t.reverse
  have hlayout : ∀ c ∈ w, isLayoutChar c :=
    fun c hc => List.mem_takeWhile_imp (List.mem_reverse.mp hc)
  rw [trimBlankLines_eq]
  refine ⟨not_endsInBlankLine hlast fun hmem => ?_, ?_⟩
  · simpa using List.mem_takeWhile_imp hmem
  · have hrest := List.takeWhile_append_dropWhile (p := (· ≠ '\n')) (l := w)
    cases hdrop : w.dropWhile (· ≠ '\n') with
    | nil =>
      rw [hdrop, List.append_nil] at hrest
      exact .inl (by rw [hrest, hsplit])
    | cons c blanks =>
      have hhead := List.head?_dropWhile_not (· ≠ '\n') w
      rw [hdrop] at hhead
      obtain rfl : c = '\n' := by simpa using hhead
      rw [hdrop] at hrest
      refine .inr ⟨blanks, by rw [List.append_assoc, hrest, hsplit], fun c hc => hlayout c ?_⟩
      rw [← hrest]
      exact List.mem_append_right _ (List.mem_cons_of_mem _ hc)

/-- **Segments without the blank lines at their end**: those of the last segment, if it is code.
Where nothing else is in it, it goes. -/
inductive Trimmed : List Segment → List Segment → Prop
  | kept {ss : List Segment} :
      (∀ s ∈ ss.getLast?, s.isComment = false → ¬ EndsInBlankLine s.text) → Trimmed ss ss
  | cut {ss : List Segment} {t blanks : Text} : ¬ EndsInBlankLine t →
      (∀ c ∈ blanks, isLayoutChar c) →
      Trimmed (ss ++ [⟨t ++ '\n' :: blanks, false⟩]) (ss ++ codeSegments t)

/-- Trimming the last segment leaves the others as they are. -/
theorem trimmed_trimLast (hne : ∀ s ∈ ss, s.text ≠ []) :
    Trimmed ss.reverse (trimLast ss).reverse := by
  match ss with
  | [] => exact .kept (by simp)
  | ⟨t, true⟩ :: ss => exact .kept (by simp)
  | ⟨t, false⟩ :: ss =>
    have hcut : (trimLast (⟨t, false⟩ :: ss)).reverse =
        ss.reverse ++ codeSegments (trimBlankLines t) := by
      rw [trimLast, codeSegments]
      split
      · rw [List.append_nil]
      · rw [List.reverse_cons]
    obtain ⟨hends, hsame | ⟨blanks, hblanks, hlayout⟩⟩ := trimBlankLines_spec t
    · have hkept : codeSegments (trimBlankLines t) = [⟨t, false⟩] := by
        rw [hsame, codeSegments, if_neg (by simpa using (List.forall_mem_cons.mp hne).1)]
      rw [hcut, hkept, List.reverse_cons]
      exact .kept (by simpa [hsame] using hends)
    · rw [hcut, List.reverse_cons]
      have hcutting : Trimmed (ss.reverse ++ [⟨trimBlankLines t ++ '\n' :: blanks, false⟩])
          (ss.reverse ++ codeSegments (trimBlankLines t)) := .cut hends hlayout
      rwa [← hblanks] at hcutting

/-! ### The form of segments -/

/-- **Tidy segments**: none is empty, and of two neighbours one is a comment. -/
structure AreTidy (ss : List Segment) : Prop where
  text_ne : ∀ s ∈ ss, s.text ≠ []
  parted : ss.IsChain fun a b => a.isComment ∨ b.isComment

/-- The texts of the comments among segments. -/
def commentsOf (ss : List Segment) : List Text := (ss.filter Segment.isComment).map Segment.text

/-- A comment behind tidy segments. -/
theorem AreTidy.comment (h : AreTidy ss) {t : Text} (ht : t ≠ []) :
    AreTidy (ss ++ [⟨t, true⟩]) where
  text_ne := List.forall_mem_append.mpr ⟨h.text_ne, List.forall_mem_singleton.mpr ht⟩
  parted := List.isChain_append.mpr ⟨h.parted, .singleton _, by simp⟩

/-- Behind a comment there is code, or none. -/
theorem AreTidy.code (h : AreTidy ss) (hlast : ∀ s ∈ ss.getLast?, s.isComment) (u : Text) :
    AreTidy (ss ++ codeSegments u) where
  text_ne := List.forall_mem_append.mpr ⟨h.text_ne, fun s hs => (mem_codeSegments hs).2⟩
  parted := by
    refine List.isChain_append.mpr ⟨h.parted, ?_, fun s hs _ _ => .inl (hlast s hs)⟩
    rw [codeSegments]
    split
    · exact .nil
    · exact .singleton _

/-- Before code there is a comment, or nothing. -/
theorem AreTidy.of_append {s : Segment} (h : AreTidy (ss ++ [s])) (hs : s.isComment = false) :
    AreTidy ss ∧ ∀ s ∈ ss.getLast?, s.isComment := by
  obtain ⟨hparted, -, hbetween⟩ := List.isChain_append.mp h.parted
  refine ⟨⟨(List.forall_mem_append.mp h.text_ne).1, hparted⟩, fun a ha => ?_⟩
  exact (hbetween a ha s rfl).resolve_right (by simp [hs])

/-- The comments of two parts, in order. -/
theorem commentsOf_append (ss us : List Segment) :
    commentsOf (ss ++ us) = commentsOf ss ++ commentsOf us := by
  rw [commentsOf, List.filter_append, List.map_append]
  rfl

/-- A segment of code is no comment. -/
@[simp] theorem commentsOf_codeSegments (u : Text) : commentsOf (codeSegments u) = [] := by
  rw [codeSegments]
  split <;> rfl

/-- The comments among the pieces of two parts, in order. -/
theorem commentTexts_append (ps qs : List Piece) :
    commentTexts (ps ++ qs) = commentTexts ps ++ commentTexts qs := by
  rw [commentTexts, List.filter_append, List.map_append]
  rfl

/-- A run of code has no texts of comments. -/
theorem ShownRun.commentTexts_eq (h : ShownRun indent run u) : commentTexts run = [] := by
  rw [commentTexts, h.commentless, List.map_nil]

/-- The segments up to a comment are tidy, with the comments of the pieces. -/
theorem Parted.tidy (h : Parted indent ps ss) (hps : ∀ t ∈ commentTexts ps, t ≠ []) :
    AreTidy ss ∧ (∀ s ∈ ss.getLast?, s.isComment) ∧ commentsOf ss = commentTexts ps := by
  induction h with
  | nil => exact ⟨⟨List.forall_mem_nil _, .nil⟩, by simp, rfl⟩
  | @comment ps run ss u t _ hrun ih =>
    have hcomments : commentTexts (ps ++ run ++ [⟨.comment, t⟩]) = commentTexts ps ++ [t] := by
      rw [commentTexts_append, commentTexts_append, hrun.commentTexts_eq, List.append_nil]
      rfl
    rw [hcomments] at hps ⊢
    obtain ⟨hfront, ht⟩ := List.forall_mem_append.mp hps
    obtain ⟨htidy, hlast, heq⟩ := ih hfront
    refine ⟨(htidy.code hlast u).comment (ht t (List.mem_singleton_self t)), by simp, ?_⟩
    rw [commentsOf_append, commentsOf_append, commentsOf_codeSegments, List.append_nil, heq]
    rfl

/-- **The segments of pieces are tidy**, with the comments of the pieces. -/
theorem Segmented.tidy (h : Segmented indent ps ss) (hps : ∀ t ∈ commentTexts ps, t ≠ []) :
    AreTidy ss ∧ commentsOf ss = commentTexts ps := by
  obtain ⟨hparted, hrun⟩ := h
  rw [commentTexts_append, hrun.commentTexts_eq, List.append_nil] at hps ⊢
  obtain ⟨htidy, hlast, heq⟩ := hparted.tidy hps
  refine ⟨htidy.code hlast _, ?_⟩
  rw [commentsOf_append, commentsOf_codeSegments, List.append_nil, heq]

/-- **Tidy segments stay so** without the blank lines at their end, and keep their comments. -/
theorem Trimmed.tidy {us : List Segment} (h : Trimmed us ss) (hus : AreTidy us) :
    AreTidy ss ∧ commentsOf ss = commentsOf us ∧
      ∀ s ∈ ss.getLast?, s.isComment = false → ¬ EndsInBlankLine s.text := by
  cases h with
  | kept hends => exact ⟨hus, rfl, hends⟩
  | @cut ss t blanks hends hblanks =>
    obtain ⟨htidy, hlast⟩ := hus.of_append rfl
    refine ⟨htidy.code hlast t, ?_, fun s hs hcode => ?_⟩
    · rw [commentsOf_append, commentsOf_append, commentsOf_codeSegments]
      rfl
    · rw [codeSegments] at hs
      split at hs
      · rw [List.append_nil] at hs
        rw [hlast s hs] at hcode
        cases hcode
      · rw [List.getLast?_concat] at hs
        obtain rfl := Option.some.inj hs
        exact hends

/-- The indentation of the first line of what is shown of code. -/
def firstIndent (code : Text) : Text := (shownPart code).takeWhile Text.isBlankChar

/-- **The segments of code have one form**, whatever lexer cuts the code. Code that is not blank has
segments. None is empty, and no two neighbours are code. The comments are those of the code up to
the one that announces the output, and none of them announces any. But for blank lines that are
taken away at the end, the segments are those of the pieces up to there, which are a beginning of
the code, so strings are as they are in the code. At the end of the last segment, if it is code, no
blank lines are left. -/
theorem segments_canonical {lexer : Lexer} (hlexer : lexer.Cuts) {code : Text}
    (hblank : Text.isBlank code = false) :
    ∃ ps ss us, ps = (lexer (scanned code)).takeWhile (!·.announces) ∧
      ps.flatMap Piece.text <+: scanned code ∧ segments lexer (some code) = .ok ss ∧
      (∀ s ∈ ss, s.text ≠ []) ∧ ss.IsChain (fun a b => a.isComment ∨ b.isComment) ∧
      commentsOf ss = commentTexts ps ∧
      (∀ t ∈ commentsOf ss, ∀ isUnordered rest, ¬ IsAnnouncement isUnordered rest t) ∧
      Segmented (firstIndent code) ps us ∧ Trimmed us ss ∧
      ∀ s ∈ ss.getLast?, s.isComment = false → ¬ EndsInBlankLine s.text := by
  set ps := (lexer (scanned code)).takeWhile (!·.announces) with hps
  set us := (segmentPieces (firstIndent code) ⟨[], [], []⟩ (lexer (scanned code))).reverse with hus
  have hfront : ps <+: lexer (scanned code) := List.takeWhile_prefix _
  have hbegins : ps.flatMap Piece.text <+: scanned code := by
    obtain ⟨qs, hqs⟩ := hfront
    exact ⟨qs.flatMap Piece.text, by rw [← List.flatMap_append, hqs, hlexer.concatenates]⟩
  have hsegments : segments lexer (some code) = .ok (trimLast us.reverse).reverse := by
    rw [segments, hblank, hus, List.reverse_reverse, scanned, ← Text.drop_length_takeWhile]
    rfl
  have hrun : Segmented (firstIndent code) ps us := segmented_segmentPieces
    (at_start (firstIndent code)) (hlexer.text_ne (scanned code))
  have hmem : ∀ t ∈ commentTexts ps, ∃ p ∈ ps, p.shade = .comment ∧ p.text = t := by
    simp only [commentTexts, List.mem_map, List.mem_filter, decide_eq_true_eq, and_assoc]
    exact fun _ h => h
  have hcomments : ∀ t ∈ commentTexts ps, t ≠ [] := by
    intro t ht
    obtain ⟨p, hp, -, rfl⟩ := hmem t ht
    exact hlexer.text_ne _ p (hfront.subset hp)
  obtain ⟨htidy, heq⟩ := hrun.tidy hcomments
  have htrimmed : Trimmed us (trimLast us.reverse).reverse := by
    have hne : ∀ s ∈ us.reverse, s.text ≠ [] := fun s hs =>
      htidy.text_ne s (List.mem_reverse.mp hs)
    simpa using trimmed_trimLast hne
  obtain ⟨hform, hsame, hends⟩ := htrimmed.tidy htidy
  rw [heq] at hsame
  refine ⟨ps, _, us, rfl, hbegins, hsegments, hform.text_ne, hform.parted, hsame,
    fun t ht b rest hmark => ?_, hrun, htrimmed, hends⟩
  obtain ⟨p, hp, hshade, rfl⟩ := hmem t (hsame ▸ ht)
  have hnot := List.mem_takeWhile_imp hp
  rw [announces_iff.mpr ⟨hshade, b, rest, hmark⟩] at hnot
  cases hnot

/-- The code of an example with a string over two lines, and with output. -/
def stringExample : Text :=
  Text.of "def example():\n    # Prints.\n    s = '''a\n    b'''\n    print(s)\n\n" ++
    Text.of "    # Output: a\n    #     b\n"

/-- The string keeps its indentation, and what stands before the announcement has no blank line at
its end. -/
theorem segments_canonical_stringExample : ∃ ss us, Lexer.Cuts pieces ∧
    Text.isBlank stringExample = false ∧ segments pieces (some stringExample) = .ok ss ∧
    ss = [⟨Text.of "# Prints.", true⟩, ⟨Text.of "\ns = '''a\n    b'''\nprint(s)", false⟩] ∧
    commentsOf ss = [Text.of "# Prints."] ∧
    Segmented (Text.of "    ") ((pieces (scanned stringExample)).takeWhile (!·.announces)) us ∧
    Trimmed us ss ∧ ∀ s ∈ ss.getLast?, s.isComment = false → ¬ EndsInBlankLine s.text := by
  have hblank : Text.isBlank stringExample = false := by decide +kernel
  have hrun : (segments pieces (some stringExample)).toOption =
      some [⟨Text.of "# Prints.", true⟩, ⟨Text.of "\ns = '''a\n    b'''\nprint(s)", false⟩] := by
    decide +kernel
  have hindent : firstIndent stringExample = Text.of "    " := by decide +kernel
  obtain ⟨_, ss, us, rfl, -, hss, -, -, -, -, hsegmented, htrimmed, hends⟩ :=
    segments_canonical cuts_pieces hblank
  obtain rfl := Except.ok.inj (hss.symm.trans (eq_ok_of_toOption hrun))
  rw [hindent] at hsegmented
  exact ⟨_, us, cuts_pieces, hblank, hss, rfl, rfl, hsegmented, htrimmed, hends⟩

end ApiPage.Example
