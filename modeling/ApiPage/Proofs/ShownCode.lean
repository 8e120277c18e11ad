import ApiPage.Package.Names
import ApiPage.Proofs.DeclaredOutput
import ApiPage.Proofs.Heads
import ApiPage.Proofs.Identified
import ApiPage.Proofs.Indents
import ApiPage.Syntax.Parser

/-!
# The shown code of examples

What is displayed of an example is its code from behind the head of a function on, if it begins with
one. Nothing else but white space is lost: indentation goes at the starts of lines, and newlines and
blank lines at the ends. So the characters of the segments other than white space are those of the
code up to the announcement of the output, whatever lexer cuts the code, if it loses nothing.

## Main definitions

* `Text.visible`: the characters of a text other than white space.
* `Example.scanned`: the part of code that is scanned for segments.
* `Example.Piece.announces`: a comment that announces the output.
* `Example.Progress.text`: the text that is segmented so far.

## Main results

* `Example.visible_unindent`, `Example.visible_trimBlankLines`: only white space is taken away.
* `Example.visible_segmentPieces`: what a run of segmenting keeps.
* `Example.visible_segments`: the segments show what stands before the announcement.
* `Example.shows_segments`: all code is shown but for the shortest head at its start.
* `Example.exists_lost_statement`: a head may stretch over statements.
-/

namespace ApiPage

namespace Text

/-- **The characters of a text other than white space**, in order. -/
def visible (t : Text) : Text := t.filter fun c => !isSpaceChar c

/-- An empty text shows nothing. -/
@[simp] theorem visible_nil : visible [] = [] := rfl

/-- What a text shows comes before what the next one does. -/
@[simp] theorem visible_append (t u : Text) : visible (t ++ u) = visible t ++ visible u :=
  List.filter_append ..

/-- What a text shows begins with what its first character does. -/
theorem visible_cons (c : Char) (t : Text) : visible (c :: t) = visible [c] ++ visible t :=
  visible_append [c] t

/-- White space shows nothing. -/
theorem visible_eq_nil {t : Text} (h : ∀ c ∈ t, isSpaceChar c) : visible t = [] := by
  rw [visible, List.filter_eq_nil_iff]
  intro c hc
  simp [h c hc]

/-! ### Trimmed texts -/

section Trimming
variable {p : Char → Bool} (hp : ∀ c, p c = true → isSpaceChar c = true) (t : Text)
include hp

/-- White space at the start shows nothing. -/
theorem visible_takeWhile : visible (t.takeWhile p) = [] :=
  visible_eq_nil fun c hc => hp c (List.mem_takeWhile_imp hc)

/-- Without white space at the start a text shows the same. -/
theorem visible_dropWhile : visible (t.dropWhile p) = visible t := by
  have h := congrArg visible (List.takeWhile_append_dropWhile (p := p) (l := t))
  rwa [visible_append, visible_takeWhile hp, List.nil_append] at h

/-- Without white space at the end a text shows the same. -/
theorem visible_dropEnd : visible (dropEnd p t) = visible t := by
  have h := visible_dropWhile hp t.reverse
  rw [visible, visible, List.filter_reverse] at h
  rw [dropEnd, visible, List.filter_reverse, h, List.reverse_reverse]
  rfl

/-- Without white space at both ends a text shows the same. -/
theorem visible_stripOf : visible (stripOf p t) = visible t := by
  rw [stripOf, visible_dropEnd hp, visible_dropWhile hp]

end Trimming

end Text

namespace Example

open Syntax (parseModule)
open Text (visible)

/-- Without newlines at both ends a text shows the same. -/
theorem visible_stripNewlines (t : Text) : visible (stripNewlines t) = visible t :=
  Text.visible_stripOf (fun c hc => by rw [eq_of_beq hc]; decide) t

/-- What is left out between statements is white space. -/
theorem isSpaceChar_of_isLayoutChar (c : Char) (h : isLayoutChar c = true) :
    Text.isSpaceChar c = true := by
  rw [isLayoutChar, Bool.or_eq_true, beq_iff_eq] at h
  rcases h with rfl | hblank
  · decide
  · exact Text.isSpaceChar_of_isBlankChar hblank

/-- Of the blanks and newlines at the end those before the first newline stay. -/
theorem trimBlankLines_eq (t : Text) : trimBlankLines t = Text.dropEnd isLayoutChar t ++
    (t.reverse.takeWhile isLayoutChar).reverse.takeWhile (· ≠ '\n') := by
  have hkept : t.take (t.length - (t.reverse.takeWhile isLayoutChar).length) =
      Text.dropEnd isLayoutChar t := by
    rw [Text.dropEnd, ← Text.drop_length_takeWhile, List.reverse_drop, List.reverse_reverse,
      List.length_reverse]
  rw [trimBlankLines, hkept]

/-- Only white space is taken away with the blank lines at the end. -/
theorem visible_trimBlankLines (t : Text) : visible (trimBlankLines t) = visible t := by
  have htail : visible ((t.reverse.takeWhile isLayoutChar).reverse.takeWhile (· ≠ '\n')) = [] :=
    Text.visible_eq_nil fun c hc => isSpaceChar_of_isLayoutChar c (List.mem_takeWhile_imp
      (List.mem_reverse.mp ((List.takeWhile_prefix _).subset hc)))
  rw [trimBlankLines_eq, Text.visible_append, htail, List.append_nil,
    Text.visible_dropEnd isSpaceChar_of_isLayoutChar]

/-! ### Indentation -/

/-- Without the indent of its lines a text shows the same. -/
theorem visible_unindentFrom {indent : Text} (h : ∀ c ∈ indent, Text.isBlankChar c)
    (skip : Nat) (t : Text) : visible (unindentFrom indent skip t) = visible (t.drop skip) := by
  induction t generalizing skip with
  | nil => simp [unindentFrom]
  | cons c r ih =>
    cases skip with
    | succ skip => rw [unindentFrom, ih, List.drop_succ_cons]
    | zero =>
      rw [unindentFrom, List.drop_zero]
      split
      · next hline =>
        rw [Bool.and_eq_true] at hline
        obtain ⟨rest, rfl⟩ := List.isPrefixOf_iff_prefix.mp hline.2
        have hindent : visible indent = [] :=
          Text.visible_eq_nil fun c hc => Text.isSpaceChar_of_isBlankChar (h c hc)
        rw [Text.visible_cons, ih, List.drop_left, Text.visible_cons c (indent ++ rest),
          Text.visible_append, hindent, List.nil_append]
      · rw [Text.visible_cons, ih, List.drop_zero, ← Text.visible_cons]

/-- Only white space is taken away with the indentation. -/
theorem visible_unindent {indent : Text} (h : ∀ c ∈ indent, Text.isBlankChar c) (t : Text) :
    visible (unindent indent t) = visible t := visible_unindentFrom h 0 t

/-! ### Segmenting -/

/-- The text of segments. -/
def textOf (ss : List Segment) : Text := ss.flatMap Segment.text

/-- The text that is segmented so far. -/
def Progress.text (p : Progress) : Text :=
  textOf p.segments.reverse ++ (p.pending.flatten ++ p.code.flatten)

/-- A comment that announces the output. -/
def Piece.announces (p : Piece) : Bool := p.shade == .comment && (outputMark? p.text).isSome

/-- **A piece announces** the output if it is a comment and its text is an announcement. -/
theorem announces_iff {p : Piece} : p.announces = true ↔
    p.shade = .comment ∧ ∃ isUnordered rest, IsAnnouncement isUnordered rest p.text := by
  rw [Piece.announces, Bool.and_eq_true, beq_iff_eq, Option.isSome_iff_exists]
  refine and_congr_right fun _ => ⟨?_, ?_⟩
  · rintro ⟨⟨rest, isUnordered⟩, hmark⟩
    exact ⟨isUnordered, rest, outputMark?_eq_some_iff.mp hmark⟩
  · rintro ⟨isUnordered, rest, hmark⟩
    exact ⟨(rest, isUnordered), outputMark?_eq_some_iff.mpr hmark⟩

/-- One segment more is text behind the others. -/
theorem textOf_reverse_cons (s : Segment) (ss : List Segment) :
    textOf (s :: ss).reverse = textOf ss.reverse ++ s.text := by
  rw [textOf, List.reverse_cons, List.flatMap_append, List.flatMap_singleton]
  rfl

section Run
variable {indent : Text} (h : ∀ c ∈ indent, Text.isBlankChar c) (p : Progress)
include h

/-- Only white space is taken away where code ends. -/
theorem visible_endCode :
    visible (p.endCode indent).text = visible p.text ∧ (p.endCode indent).code = [] := by
  rw [Progress.endCode]
  split
  · next hnil => exact ⟨rfl, List.isEmpty_iff.mp hnil⟩
  · exact ⟨by simp [Progress.text, visible_unindent h], rfl⟩

/-- What is segmented so far is in the segments. -/
theorem visible_flush : visible (textOf (p.flush indent).segments.reverse) = visible p.text ∧
    (p.flush indent).pending = [] ∧ (p.flush indent).code = [] := by
  obtain ⟨hvisible, hcode⟩ := visible_endCode h p
  rw [← hvisible, Progress.flush, Progress.text, hcode]
  split
  · next hnil =>
    have hpending : (p.endCode indent).pending = [] := List.isEmpty_iff.mp hnil
    refine ⟨?_, hpending, hcode⟩
    rw [hpending]
    simp
  · refine ⟨?_, rfl, rfl⟩
    rw [textOf_reverse_cons]
    simp

/-- **A run of segmenting** keeps all that is not white space, up to the announcement of the output.
-/
theorem visible_segmentPieces (ps : List Piece) :
    visible (textOf (segmentPieces indent p ps).reverse) =
      visible (p.text ++ (ps.takeWhile (!·.announces)).flatMap Piece.text) := by
  induction ps generalizing p with
  | nil =>
    rw [segmentPieces, List.takeWhile_nil, List.flatMap_nil, List.append_nil]
    exact (visible_flush h p).1
  | cons piece ps ih =>
    obtain ⟨hsegments, hpending, hcode⟩ := visible_flush h p
    obtain ⟨shade, t⟩ := piece
    cases shade with
    | comment =>
      rw [segmentPieces]
      split
      · next hmark =>
        have hannounces : (!Piece.announces ⟨.comment, t⟩) = false := by
          simp [Piece.announces, hmark]
        rw [List.takeWhile_cons_of_neg (by simp [hannounces]), List.flatMap_nil, List.append_nil,
          hsegments]
      · next hmark =>
        have hannounces : (!Piece.announces ⟨.comment, t⟩) = true := by
          simpa [Piece.announces] using hmark
        rw [ih, List.takeWhile_cons_of_pos (p := (!Piece.announces ·)) hannounces,
          List.flatMap_cons, ← List.append_assoc, Text.visible_append, Text.visible_append]
        congr 1
        rw [Progress.text, textOf_reverse_cons, hpending, hcode]
        simp [hsegments]
    | string =>
      obtain ⟨hvisible, hnil⟩ := visible_endCode h p
      rw [segmentPieces, ih, List.takeWhile_cons_of_pos rfl, List.flatMap_cons, ← List.append_assoc,
        Text.visible_append, Text.visible_append _ (List.flatMap _ _), Text.visible_append p.text,
        ← hvisible, Progress.text, Progress.text, hnil]
      simp
    | other =>
      rw [segmentPieces, ih, List.takeWhile_cons_of_pos rfl, List.flatMap_cons]
      simp [Progress.text]

end Run

/-- Only white space is taken away from the last segment. -/
theorem visible_trimLast (ss : List Segment) :
    visible (textOf (trimLast ss).reverse) = visible (textOf ss.reverse) := by
  rw [trimLast.eq_def]
  split
  · next t ss =>
    rw [textOf_reverse_cons, Text.visible_append, ← visible_trimBlankLines t]
    dsimp only
    split
    · next hnil =>
      rw [List.isEmpty_iff.mp hnil]
      exact (List.append_nil _).symm
    · rw [textOf_reverse_cons, Text.visible_append]
  · rfl

/-! ### Shown code -/

/-- The part of code that is scanned for segments: what is shown of it, from behind the indentation
of its first line on. -/
def scanned (code : Text) : Text := (shownPart code).dropWhile Text.isBlankChar

variable {lexer : Lexer} {code : Text}

/-- **What segments show**: what the lexer makes of the code that is scanned, up to the announcement
of the output. -/
theorem visible_segments {ss : List Segment} (h : segments lexer (some code) = .ok ss) :
    visible (textOf ss) = visible
      (((lexer (scanned code)).takeWhile (!·.announces)).flatMap Piece.text) := by
  rw [segments] at h
  split at h
  · cases h
  · obtain rfl := Except.ok.inj h
    rw [Text.drop_length_takeWhile, visible_trimLast,
      visible_segmentPieces fun c hc => List.mem_takeWhile_imp hc]
    rfl

/-- **Code without an announcement** is shown as far as it is scanned. -/
theorem visible_segments_of_unmarked (hlexer : lexer.Concatenates)
    (hmarks : ∀ p ∈ lexer (scanned code), p.announces = false) {ss : List Segment}
    (h : segments lexer (some code) = .ok ss) : visible (textOf ss) = visible (scanned code) := by
  have hall : (lexer (scanned code)).takeWhile (!·.announces) = lexer (scanned code) :=
    List.takeWhile_eq_self_iff.mpr fun p hp => by simp [hmarks p hp]
  rw [visible_segments h, hall, hlexer]

/-- **Code that is not blank** has segments. -/
theorem exists_segments (lexer : Lexer) (hblank : Text.isBlank code = false) :
    ∃ ss, segments lexer (some code) = .ok ss := by
  rw [segments, hblank]
  exact ⟨_, rfl⟩

/-- The code that is scanned shows what the shown part does. -/
theorem visible_scanned (code : Text) : visible (scanned code) = visible (shownPart code) :=
  Text.visible_dropWhile (fun _ hc => Text.isSpaceChar_of_isBlankChar hc) _

/-- **All code is shown but for the shortest head at its start**, by every lexer that loses nothing.
Code that is not blank and does not announce output has segments. If it begins with a head, that and
the characters of the segments are those of the code, but for white space; otherwise the characters
of the segments are. -/
theorem shows_segments (hlexer : lexer.Concatenates) (hblank : Text.isBlank code = false)
    (hmarks : ∀ p ∈ lexer (scanned code), p.announces = false) :
    ∃ ss, segments lexer (some code) = .ok ss ∧
      (∀ head, Heads head (stripNewlines code) →
        visible head ++ visible (textOf ss) = visible code) ∧
      ((∀ head, IsHead head → ¬ head <+: stripNewlines code) →
        visible (textOf ss) = visible code) := by
  obtain ⟨ss, hss⟩ := exists_segments lexer hblank
  have hshown : visible (textOf ss) = visible (shownPart code) := by
    rw [visible_segments_of_unmarked hlexer hmarks hss, visible_scanned]
  refine ⟨ss, hss, fun head hhead => ?_, fun hnone => ?_⟩
  · obtain ⟨body, hsplit⟩ := hhead.isPrefix
    have hbody : shownPart code = stripNewlines body := by
      rw [shownPart, wrapped?_eq_some_iff.mpr ⟨head, hhead, hsplit.symm⟩]
    rw [hshown, hbody, visible_stripNewlines, ← Text.visible_append, hsplit, visible_stripNewlines]
  · have hbare : shownPart code = stripNewlines code := by
      rw [shownPart, wrapped?_eq_none_iff.mpr hnone]
    rw [hshown, hbare, visible_stripNewlines]

/-- The code of an example in a function. -/
def countingExample : Text :=
  Text.of "async def example(n: int = 2) -> None:\n" ++
    Text.of "    # Counts.\n    for i in range(n):\n        print(i)\n"

/-- The line of the function is left out, and the rest is shown. -/
theorem shows_segments_countingExample : ∃ head ss, Lexer.Concatenates pieces ∧
    Text.isBlank countingExample = false ∧
    (∀ p ∈ pieces (scanned countingExample), p.announces = false) ∧
    head = Text.of "async def example(n: int = 2) -> None:\n" ∧
    Heads head (stripNewlines countingExample) ∧ segments pieces (some countingExample) = .ok ss ∧
    ss = [⟨Text.of "# Counts.", true⟩, ⟨Text.of "\nfor i in range(n):\n    print(i)", false⟩] ∧
    visible head ++ visible (textOf ss) = visible countingExample := by
  have hblank : Text.isBlank countingExample = false := by decide +kernel
  have hmarks : ∀ p ∈ pieces (scanned countingExample), p.announces = false := by decide +kernel
  have hrun : (segments pieces (some countingExample)).toOption =
      some [⟨Text.of "# Counts.", true⟩,
        ⟨Text.of "\nfor i in range(n):\n    print(i)", false⟩] := by
    decide +kernel
  have hbody : wrapped? (stripNewlines countingExample) =
      some (Text.of "    # Counts.\n    for i in range(n):\n        print(i)") := by
    decide +kernel
  obtain ⟨head, hheads, hsplit⟩ := wrapped?_eq_some_iff.mp hbody
  have hhead : Text.of "async def example(n: int = 2) -> None:\n" ++
      Text.of "    # Counts.\n    for i in range(n):\n        print(i)" =
        stripNewlines countingExample := by
    decide +kernel
  obtain ⟨ss, hss, hshown, -⟩ := shows_segments cuts_pieces.concatenates hblank hmarks
  rw [eq_ok_of_toOption hrun] at hss
  obtain rfl := Except.ok.inj hss
  exact ⟨head, _, cuts_pieces.concatenates, hblank, hmarks,
    List.append_cancel_right (hsplit.symm.trans hhead.symm), hheads, eq_ok_of_toOption hrun, rfl,
    hshown head hheads⟩

/-! ### Statements that are lost -/

/-- **Where no hash stands nothing announces output**, by any lexer that loses nothing. -/
theorem not_announces (hlexer : lexer.Concatenates) (h : '#' ∉ code) :
    ∀ p ∈ lexer code, p.announces = false := by
  intro p hp
  cases hmark : p.announces with
  | false => rfl
  | true =>
    have hhash : '#' ∈ p.text := by
      obtain ⟨-, isUnordered, rest, htext⟩ := announces_iff.mp hmark
      generalize p.text = t at htext
      cases htext
      exact List.mem_cons_self
    rw [← hlexer code] at h
    exact absurd (List.mem_flatMap.mpr ⟨p, hp, hhash⟩) h

/-- A function whose body stands on the line of its head, and a statement behind it. -/
def oneLineFunction : Text := Text.of "def f(x): return x\nif f(1):\n    print(2)\n"

/-- **A head may stretch over statements**: to the next parenthesis and colon that end a line. The
code is a function and a statement behind it, and announces no output; but every lexer that loses
nothing shows the last line alone. -/
theorem exists_lost_statement : ∃ f s, parseModule oneLineFunction = .ok [f, s] ∧
    f.isFunction = true ∧ Text.isBlank oneLineFunction = false ∧
    ∀ lexer : Lexer, lexer.Concatenates →
      (∀ p ∈ lexer oneLineFunction, p.announces = false) ∧
      ∃ ss, segments lexer (some oneLineFunction) = .ok ss ∧
        visible (textOf ss) = Text.of "print(2)" ∧
        visible (textOf ss) ≠ visible oneLineFunction := by
  have hcheck : ((parseModule oneLineFunction).toOption.filter fun fs =>
      fs.length = 2 && fs.headI.isFunction).isSome = true := by
    decide +kernel
  obtain ⟨fs, hfs⟩ := Option.isSome_iff_exists.mp hcheck
  obtain ⟨hparse, hfunction⟩ := Option.filter_eq_some_iff.mp hfs
  simp only [Bool.and_eq_true, decide_eq_true_eq] at hfunction
  obtain ⟨f, s, rfl⟩ := List.length_eq_two.mp hfunction.1
  have hblank : Text.isBlank oneLineFunction = false := by decide +kernel
  have hscanned : scanned oneLineFunction = Text.of "print(2)" := by decide +kernel
  refine ⟨f, s, eq_ok_of_toOption hparse, hfunction.2, hblank, fun lexer hlexer =>
    ⟨not_announces hlexer (by decide), ?_⟩⟩
  obtain ⟨ss, hss⟩ := exists_segments lexer hblank
  have hshown := visible_segments_of_unmarked hlexer
    (not_announces hlexer (by rw [hscanned]; decide)) hss
  have hlast : visible (textOf ss) = Text.of "print(2)" := by
    rw [hshown, hscanned]
    decide
  exact ⟨ss, hss, hlast, by rw [hlast]; decide +kernel⟩

end Example
end ApiPage
