import ApiPage.Example.Basic
import ApiPage.Proofs.Pieces

/-!
# Declared output

Output that is written below its announcement, each line of it as a comment, is read off again by
any lexer that loses nothing and takes comments by the line. What the lines hold does not matter:
once output is announced, no comment announces any. What stands between the comments is blank, for
the lexer has nothing left for it but newlines.

## Main definitions

* `Example.IsAnnouncement`: the grammar of the comments that announce an output.
* `Example.Announces`: the spellings of the line of an announcement.
* `Example.commentLine`: a line of output as a comment.
* `Example.outputText`: the text of lines of output.

## Main results

* `Example.outputMark?_eq_some_iff`: which comments are read as announcements.
* `Example.isBlank_of_not_comment`: between comment lines there is nothing but newlines.
* `Example.expectedOutput_joinLines`: what is written below an announcement is what is read.
-/

namespace ApiPage.Example

/-! ### Announcements -/

/-- The words of an announcement. -/
def announcement (isUnordered : Bool) : Text :=
  Text.of (if isUnordered then "unordered output:" else "output:")

/-- **Announcement of an output**: a hash, white space if there is any, and the words of the
announcement in letters of either case; `rest` is what follows them. -/
inductive IsAnnouncement (isUnordered : Bool) (rest : Text) : Text → Prop
  | mk {gap words : Text} : (∀ c ∈ gap, Text.isSpaceChar c) →
      words.map Char.toLower = announcement isUnordered →
      IsAnnouncement isUnordered rest ('#' :: (gap ++ (words ++ rest)))

/-- A character that is no capital of ASCII stays as it is in lower case. -/
theorem toLower_of_toNat {c : Char} (h : ¬ (65 ≤ c.toNat ∧ c.toNat ≤ 90)) : c.toLower = c :=
  Char.toLower_eq_of_not_isUpper (by simpa [Char.isUpper, UInt32.le_iff_toNat_le] using h)

/-- Taking lower case changes ASCII only. -/
theorem map_lower (t : Text) :
    (t.map fun c => if c.toNat < 128 then c.toLower else c) = t.map Char.toLower := by
  refine List.map_congr_left fun c _ => ?_
  split
  · rfl
  · exact (toLower_of_toNat (by omega)).symm

/-- White space has no case. -/
theorem toLower_of_isSpaceChar {c : Char} (h : Text.isSpaceChar c = true) : c.toLower = c := by
  refine toLower_of_toNat fun hc => ?_
  rw [Text.isSpaceChar, Text.isSpace, if_pos (by omega)] at h
  simp only [Bool.or_eq_true, Bool.and_eq_true, decide_eq_true_eq] at h
  omega

/-- What is no small letter in lower case is no other character before. -/
theorem eq_of_toLower_eq {c d : Char} (hd : d.isLower = false) (h : c.toLower = d) : c = d := by
  by_cases hc : c.isUpper = true
  · have hlower := Char.isLower_toLower_eq_isAlpha (c := c)
    rw [h, hd, Char.isAlpha, hc, Bool.true_or] at hlower
    cases hlower
  · rwa [Char.toLower_eq_of_not_isUpper hc] at h

/-- The first letter of the words. -/
theorem exists_of_words {isUnordered : Bool} {words : Text}
    (h : words.map Char.toLower = announcement isUnordered) :
    ∃ c w, words = c :: w ∧ c.toLower = (if isUnordered then 'u' else 'o') ∧
      Text.isSpaceChar c = false := by
  obtain ⟨c, w, rfl, hc, -⟩ := List.map_eq_cons_iff.mp (h.trans (by cases isUnordered <;> rfl :
    announcement isUnordered =
      (if isUnordered then 'u' else 'o') :: (announcement isUnordered).tail))
  refine ⟨c, w, rfl, hc, ?_⟩
  cases hspace : Text.isSpaceChar c with
  | false => rfl
  | true =>
    rw [toLower_of_isSpaceChar hspace] at hc
    subst hc
    cases isUnordered <;> cases hspace

/-- What is read as the words of an announcement makes one. -/
theorem isAnnouncement_of_take {isUnordered : Bool} {r : Text} {n : Nat}
    (h : ((r.dropWhile Text.isSpaceChar).take n).map Char.toLower = announcement isUnordered) :
    IsAnnouncement isUnordered ((r.dropWhile Text.isSpaceChar).drop n) ('#' :: r) := by
  have hsplit : r.takeWhile Text.isSpaceChar ++ ((r.dropWhile Text.isSpaceChar).take n ++
      (r.dropWhile Text.isSpaceChar).drop n) = r := by
    rw [List.take_append_drop, List.takeWhile_append_dropWhile]
  have hgap : ∀ c ∈ r.takeWhile Text.isSpaceChar, Text.isSpaceChar c :=
    fun c hc => List.mem_takeWhile_imp hc
  have hmark : IsAnnouncement isUnordered ((r.dropWhile Text.isSpaceChar).drop n)
      ('#' :: (r.takeWhile Text.isSpaceChar ++ ((r.dropWhile Text.isSpaceChar).take n ++
        (r.dropWhile Text.isSpaceChar).drop n))) := .mk hgap h
  rwa [hsplit] at hmark

/-- **A comment is read as an announcement** just if it is one. -/
theorem outputMark?_eq_some_iff {isUnordered : Bool} {t rest : Text} :
    outputMark? t = some (rest, isUnordered) ↔ IsAnnouncement isUnordered rest t := by
  constructor
  · intro h
    unfold outputMark? at h
    simp only [map_lower] at h
    split at h
    · next r =>
      split at h
      · next hmark =>
        obtain ⟨hwords, hrest⟩ := Option.ite_none_right_eq_some.mp hmark
        obtain rfl := Option.some.inj hrest
        obtain ⟨rfl, rfl⟩ := Prod.mk.inj (Option.some.inj h)
        exact isAnnouncement_of_take hwords
      · obtain ⟨_, hmark, hpair⟩ := Option.map_eq_some_iff.mp h
        obtain ⟨hwords, hrest⟩ := Option.ite_none_right_eq_some.mp hmark
        obtain rfl := Option.some.inj hrest
        obtain ⟨rfl, rfl⟩ := Prod.mk.inj hpair
        exact isAnnouncement_of_take hwords
    · cases h
  · rintro ⟨hgap, hwords⟩
    rename_i gap words
    obtain ⟨c, w, rfl, hc, hspace⟩ := exists_of_words hwords
    have hlength := congrArg List.length hwords
    rw [List.length_map] at hlength
    have hdrop : (gap ++ (c :: w ++ rest)).dropWhile Text.isSpaceChar = c :: w ++ rest := by
      rw [List.dropWhile_append_of_pos hgap, List.cons_append,
        List.dropWhile_cons_of_neg (by simp [hspace])]
    cases isUnordered with
    | true =>
      have hwidth : "unordered output:".length = (c :: w).length := hlength.symm
      simp only [outputMark?, map_lower, hdrop, hwidth, List.take_left, List.drop_left, hwords]
      rfl
    | false =>
      have hwidth : "output:".length = (c :: w).length := hlength.symm
      have hother : ((c :: w ++ rest).take "unordered output:".length).map Char.toLower ≠
          Text.of "unordered output:" := by
        intro heq
        obtain ⟨hu, -⟩ := List.cons.inj heq
        rw [hc] at hu
        cases hu
      simp only [outputMark?, map_lower, hdrop, if_neg hother, hwidth, List.take_left,
        List.drop_left, hwords]
      rfl

/-- **The line of an announcement** and nothing else, in letters of either case. -/
def Announces (isUnordered : Bool) (l : Text) : Prop :=
  l.map Char.toLower = '#' :: ' ' :: announcement isUnordered

/-- A line that announces output is a number sign, a blank and the words, in any case. -/
theorem exists_of_announces {isUnordered : Bool} {l : Text} (h : Announces isUnordered l) :
    ∃ words, l = '#' :: ' ' :: words ∧ words.map Char.toLower = announcement isUnordered := by
  obtain ⟨a, t, rfl, ha, ht⟩ := List.map_eq_cons_iff.mp h
  obtain ⟨b, words, rfl, hb, hwords⟩ := List.map_eq_cons_iff.mp ht
  exact ⟨words, by rw [eq_of_toLower_eq (by decide) ha, eq_of_toLower_eq (by decide) hb], hwords⟩

/-- **Every spelling is read as an announcement**, with nothing behind it. -/
theorem outputMark?_of_announces {isUnordered : Bool} {l : Text} (h : Announces isUnordered l) :
    outputMark? l = some ([], isUnordered) := by
  obtain ⟨words, rfl, hwords⟩ := exists_of_announces h
  have hmark : IsAnnouncement isUnordered [] ('#' :: ([' '] ++ (words ++ []))) :=
    .mk (List.forall_mem_singleton.mpr (by decide)) hwords
  rw [List.append_nil] at hmark
  exact outputMark?_eq_some_iff.mpr hmark

/-! ### Lines of output -/

/-- A line of output as a comment. -/
def commentLine (l : Text) : Text := '#' :: ' ' :: l

/-- **The text of lines of output**: the lines without the newlines around them, and a newline
behind them if anything is left. -/
def outputText (ls : List Text) : Text :=
  match stripNewlines (Text.joinLines ls) with
  | [] => []
  | out => out ++ ['\n']

/-- An empty line at the start is stripped. -/
theorem stripNewlines_joinLines (ls : List Text) :
    stripNewlines (Text.joinLines ([] :: ls)) = stripNewlines (Text.joinLines ls) := by
  cases ls <;> rfl

/-- A line that announces output is a comment line. -/
theorem isCommentLine_of_announces {isUnordered : Bool} {l : Text} (h : Announces isUnordered l) :
    IsCommentLine l := by
  obtain ⟨words, rfl, hwords⟩ := exists_of_announces h
  refine ⟨' ' :: words, rfl, fun hmem => ?_⟩
  rcases List.mem_cons.mp hmem with hspace | hmem
  · cases hspace
  · have hletter : '\n' ∈ words.map Char.toLower := List.mem_map.mpr ⟨'\n', hmem, by decide⟩
    rw [hwords] at hletter
    cases isUnordered <;> exact absurd hletter (by decide)

/-! ### What a lexer makes of comment lines -/

/-- What pieces hold is held by the comments or by the others. -/
theorem count_flatMap_text (c : Char) (ps : List Piece) : (ps.flatMap Piece.text).count c =
    (commentTexts ps).flatten.count c +
      ((ps.filter (·.shade ≠ .comment)).flatMap Piece.text).count c := by
  induction ps with
  | nil => rfl
  | cons p ps ih =>
    rw [List.flatMap_cons, List.count_append, ih]
    by_cases hp : p.shade = .comment
    · simp [commentTexts, hp, Nat.add_assoc]
    · simp [commentTexts, hp, Nat.add_left_comm]

/-- Joined lines hold what the lines hold, and newlines. -/
theorem count_joinLines {c : Char} (hc : c ≠ '\n') (ls : List Text) :
    (Text.joinLines ls).count c = ls.flatten.count c := by
  induction ls with
  | nil => rfl
  | cons l ls ih =>
    cases ls with
    | nil => simp [Text.joinLines, Text.join]
    | cons m ls =>
      have hflatten : (l :: m :: ls).flatten = l ++ (m :: ls).flatten := List.flatten_cons
      rw [Text.joinLines_cons l (List.cons_ne_nil m ls), hflatten, List.count_append, List.count_append, List.count_cons_of_ne hc.symm, ih]

/-- **Between comment lines there is nothing but newlines**: all other characters of the text are
used up by the comments. -/
theorem isBlank_of_not_comment {lexer : Lexer} (hlexer : lexer.Concatenates) {ls : List Text}
    (hls : commentTexts (lexer (Text.joinLines ls)) = ls) :
    ∀ p ∈ lexer (Text.joinLines ls), p.shade ≠ .comment → Text.isBlank p.text := by
  intro p hp hshade
  rw [Text.isBlank, List.all_eq_true]
  intro c hc
  by_cases hnewline : c = '\n'
  · rw [hnewline]
    decide
  have hcount := count_flatMap_text c (lexer (Text.joinLines ls))
  rw [hlexer, hls, count_joinLines hnewline] at hcount
  have hnone : c ∉ ((lexer (Text.joinLines ls)).filter (·.shade ≠ .comment)).flatMap Piece.text :=
    List.count_eq_zero.mp (by omega)
  exact absurd (List.mem_flatMap.mpr ⟨p, List.mem_filter.mpr ⟨hp, by simpa using hshade⟩, hc⟩) hnone

section Output
variable {ps : List Piece} (hps : ∀ p ∈ ps, p.shade ≠ .comment → Text.isBlank p.text)
include hps

/-- **The lines below an announcement** are what the comments hold, if there is nothing else. -/
theorem outputLines_eq : outputLines ps = (commentTexts ps).map outputLine := by
  induction ps with
  | nil => rfl
  | cons p ps ih =>
    obtain ⟨hp, hbelow⟩ := List.forall_mem_cons.mp hps
    obtain ⟨shade, t⟩ := p
    cases shade with
    | comment => exact congrArg (outputLine t :: ·) (ih hbelow)
    | string => exact (if_pos (hp (by simp))).trans (ih hbelow)
    | other => exact (if_pos (hp (by simp))).trans (ih hbelow)

/-- **The output of comments**, the first of which announces it. -/
theorem outputOf_eq {mark first : Text} {rest : List Text} {isUnordered : Bool}
    (hcomments : commentTexts ps = mark :: rest)
    (hmark : outputMark? mark = some (first, isUnordered)) : outputOf ps =
      (outputText (Text.strip first :: rest.map outputLine), isUnordered) := by
  induction ps with
  | nil => cases hcomments
  | cons p ps ih =>
    obtain ⟨-, hbelow⟩ := List.forall_mem_cons.mp hps
    obtain ⟨shade, t⟩ := p
    cases shade with
    | comment =>
      obtain ⟨ht, hrest⟩ : t = mark ∧ commentTexts ps = rest := List.cons.inj hcomments
      rw [outputOf, if_pos rfl, ht, hmark]
      dsimp only
      rw [outputLines_eq hbelow, hrest, outputText]
      cases stripNewlines (Text.joinLines (Text.strip first :: rest.map outputLine)) <;> rfl
    | string => exact ih hbelow hcomments
    | other => exact ih hbelow hcomments

end Output

/-- A comment holds the line that was written in it. -/
theorem outputLine_commentLine (l : Text) : outputLine (commentLine l) = l := rfl

/-- **What is written below an announcement is what is read**, whatever lexer reads it, if that
loses nothing and takes comments by the line. The output of code that announces output and goes on
with lines of comments is the text of what they hold, whatever that is; and it is unordered if the
announcement says so. -/
theorem expectedOutput_joinLines {lexer : Lexer} (hlexer : lexer.Concatenates)
    (htakes : lexer.TakesCommentLines) {isUnordered : Bool} {mark : Text} {ls : List Text}
    (hmark : Announces isUnordered mark) (hls : ∀ l ∈ ls, '\n' ∉ l) :
    expectedOutput lexer (some (Text.joinLines (mark :: ls.map commentLine))) =
      (outputText ls, isUnordered) := by
  have hlines : ∀ l ∈ mark :: ls.map commentLine, IsCommentLine l := by
    refine List.forall_mem_cons.mpr ⟨isCommentLine_of_announces hmark, fun l hl => ?_⟩
    obtain ⟨l, hmem, rfl⟩ := List.mem_map.mp hl
    exact ⟨' ' :: l, rfl, by simpa using hls l hmem⟩
  have hcomments := htakes _ hlines
  have hread := outputOf_eq (isBlank_of_not_comment hlexer hcomments) hcomments
    (outputMark?_of_announces hmark)
  have hempty : Text.strip [] = [] := rfl
  have hheld : (ls.map commentLine).map outputLine = ls := by
    simp [Function.comp_def, outputLine_commentLine]
  rw [hempty, hheld, outputText, stripNewlines_joinLines, ← outputText] at hread
  obtain ⟨words, rfl, -⟩ := exists_of_announces hmark
  obtain ⟨r, hr⟩ : ∃ r, Text.joinLines (('#' :: ' ' :: words) :: ls.map commentLine) = '#' :: r := by
    cases ls with
    | nil => exact ⟨_, rfl⟩
    | cons l ls => exact ⟨_, rfl⟩
  rw [hr] at hread ⊢
  exact hread

/-- Lines of output that look like code, blank text, a string and an announcement. -/
def oddLines : List Text :=
  ["", "x = 1", "  ", "'''", "# Output: 2", "-", "", ""].map Text.of

/-- They are read as they are, but for the empty ones around them. -/
theorem expectedOutput_joinLines_oddLines :
    Lexer.Concatenates pieces ∧ Lexer.TakesCommentLines pieces ∧
    Announces true (Text.of "# Unordered OUTPUT:") ∧ (∀ l ∈ oddLines, '\n' ∉ l) ∧
    expectedOutput pieces (some (Text.joinLines
      (Text.of "# Unordered OUTPUT:" :: oddLines.map commentLine))) =
        (Text.of "x = 1\n  \n'''\n# Output: 2\n-\n", true) := by
  have hmark : Announces true (Text.of "# Unordered OUTPUT:") := by
    rw [Announces]
    decide
  have hlines : ∀ l ∈ oddLines, '\n' ∉ l := by decide
  refine ⟨cuts_pieces.concatenates, takesCommentLines_pieces, hmark, hlines, ?_⟩
  rw [expectedOutput_joinLines cuts_pieces.concatenates takesCommentLines_pieces hmark hlines]
  decide

end ApiPage.Example
