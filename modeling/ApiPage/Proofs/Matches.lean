import ApiPage.Proofs.RfcReferences

/-!
# What a match is taken for

A place of a line may match as a URL, as a reference to an RFC or as a name, and the first of these
that matches counts. Which of them it was can be told from the text of the match alone: a URL has
`://` in it, and a reference begins with `RFC` and white space. So a scan that only keeps the text
of a match, and looks at it again, takes the same pieces. No name and no URL is ever taken for a
reference to an RFC, and every reference is taken for one and becomes a link to what it names.

## Main definitions

* `Prose.matchLength?`: the length of the match at the start of a text.
* `Prose.looksLikeUrl`, `Prose.looksLikeRfc`: what the text of a match is taken for.
* `Prose.pieceOf`: the piece of a match, by its text.

## Main results

* `Prose.reference?_eq_pieceOf`: pieces are told from the text of the match alone.
* `Prose.rfc_of_reaches`: references to an RFC become links to what they name.
-/

namespace ApiPage

/-- A text is found in another where it is a part of it. -/
theorem Text.hasInfix_iff {t p : Text} : hasInfix t p = true ↔ p <:+: t := by
  induction t with
  | nil =>
    rw [hasInfix, find?, startsWith, List.infix_nil, ← List.prefix_nil,
      ← List.isPrefixOf_iff_prefix]
    split
    · next h => simp [h]
    · next h => simp [h]
  | cons c t ih =>
    rw [List.infix_cons_iff, ← List.isPrefixOf_iff_prefix, ← ih, hasInfix, find?, startsWith]
    split
    · next h => simp [h]
    · next h => simp [h, hasInfix]

namespace Prose

/-! ### Looking at a match again -/

/-- The length of the match at the start of a text: of a URL, else of a reference to an RFC, else of
a name. -/
def matchLength? (t : Text) : Option Nat := (urlLength? t).or ((rfcLength? t).or (nameLength? t))

/-- A match is taken for a URL if it has `://` in it. -/
def looksLikeUrl (w : Text) : Bool := Text.hasInfix w (Text.of "://")

/-- A match that is no URL is taken for a reference to an RFC if it begins with the letters and
white space. -/
def looksLikeRfc (w : Text) : Bool :=
  Text.startsWith w (Text.of "RFC") && (w.drop 3).head?.any Text.isSpaceChar

/-- **The piece of a match** by its text `w` alone, and how much of the line it takes. `before` and
`after` are the characters around it, and `quotes` the number of quotation marks before it. -/
def pieceOf (before : Char) (quotes : Nat) (after : Char) (w : Text) : Piece × Nat :=
  if looksLikeUrl w then (.link (trimUrl w) (trimUrl w), (trimUrl w).length)
  else if looksLikeRfc w then (rfcPiece w, w.length)
  else if nameMayFollow before && nameMayPrecede after && quotes % 2 = 0 then (.name w, w.length)
  else (.plain w, w.length)

/-- A text without a colon is not taken for a URL. -/
theorem looksLikeUrl_of_notMem {w : Text} (h : ':' ∉ w) : looksLikeUrl w = false := by
  rw [looksLikeUrl, Bool.eq_false_iff, Ne, Text.hasInfix_iff]
  exact fun hpart => h (hpart.subset List.mem_cons_self)

/-! ### URLs -/

/-- **A URL is taken for one.** -/
theorem looksLikeUrl_of_isUrl {scheme host path m : Text} (h : IsUrl scheme host path m) :
    looksLikeUrl m = true := by
  refine Text.hasInfix_iff.mpr ⟨scheme, host ++ path, ?_⟩
  rw [h.eq, List.append_assoc (scheme ++ _)]

/-! ### References to an RFC -/

/-- White space holds no colon. -/
theorem IsGap.colon_notMem {gap : Text} (h : IsGap gap) : ':' ∉ gap :=
  fun hmem => absurd (h.space ':' hmem) (by decide)

/-- Digits hold no colon. -/
theorem IsDigits.colon_notMem {d : Text} (h : IsDigits d) : ':' ∉ d :=
  fun hmem => absurd (h.digit ':' hmem) (by decide)

/-- A dotted number holds no colon. -/
theorem IsDotted.colon_notMem {part : Text} (h : IsDotted part) : ':' ∉ part :=
  fun hmem => absurd (h.undivided ':' hmem) (by decide)

/-- The name of a section holds no colon. -/
theorem NamesSection.colon_notMem {part : Option Text} {w : Text} (h : NamesSection part w) :
    ':' ∉ w := by
  cases h with
  | bare => exact List.not_mem_nil
  | named hcomma hgap hs hgap' hpart =>
    have hword : ':' ∉ Text.of "ection" := by decide
    rcases hcomma with rfl | rfl <;> rcases hs with rfl | rfl <;>
      simp [hgap.colon_notMem, hgap'.colon_notMem, hpart.colon_notMem, hword]

/-- **A reference to an RFC is taken for one.** -/
theorem looksLikeRfc_of_isRfc {number : Text} {part : Option Text} {w : Text}
    (h : IsRfc number part w) : looksLikeUrl w = false ∧ looksLikeRfc w = true := by
  obtain ⟨hgap, hnumber, -, -, hsection⟩ := h
  next gap rest =>
  constructor
  · refine looksLikeUrl_of_notMem ?_
    have hletters : ':' ∉ Text.of "RFC" := by decide
    simp [hletters, hgap.colon_notMem, hnumber.colon_notMem, hsection.colon_notMem]
  · obtain ⟨c, gap, rfl⟩ := List.exists_cons_of_ne_nil hgap.ne_nil
    have hspace := hgap.space c List.mem_cons_self
    rw [looksLikeRfc, Text.startsWith, Bool.and_eq_true, List.isPrefixOf_iff_prefix]
    exact ⟨List.prefix_append _ _, hspace⟩

/-! ### Names -/

/-- **A character of a dotted name.** -/
def isNameChar (c : Char) : Bool := Text.isWord c.toNat || c == '.'

/-- A word that is matched is made of characters of names. -/
theorem exists_of_wordLength? {t : Text} {n : Nat} (h : wordLength? t = some n) :
    ∃ w r, t = w ++ r ∧ n = w.length ∧ w ≠ [] ∧ ∀ c ∈ w, isNameChar c := by
  cases t with
  | nil => cases h
  | cons c t =>
    rw [wordLength?] at h
    split at h
    · next hstart =>
      obtain rfl := Option.some.inj h
      rw [isWordStart, Bool.and_eq_true] at hstart
      refine ⟨c :: t.takeWhile (fun d => Text.isWord d.toNat),
        t.dropWhile fun d => Text.isWord d.toNat, ?_, Nat.add_comm _ _, List.cons_ne_nil _ _, ?_⟩
      · rw [List.cons_append, List.takeWhile_append_dropWhile]
      · rw [List.forall_mem_cons]
        refine ⟨by simp [isNameChar, hstart.1], fun d hd => ?_⟩
        have hword := List.mem_takeWhile_imp hd
        simp [isNameChar, hword]
    · cases h

/-- The words behind points are made of characters of names. -/
theorem exists_of_dottedWordLength (fuel : Nat) (t : Text) : ∃ w r, t = w ++ r ∧
    dottedWordLength fuel t = w.length ∧ ∀ c ∈ w, isNameChar c := by
  induction fuel generalizing t with
  | zero => exact ⟨[], t, rfl, rfl, List.forall_mem_nil _⟩
  | succ fuel ih =>
    rw [dottedWordLength.eq_def]
    split
    · exact ⟨[], _, rfl, rfl, List.forall_mem_nil _⟩
    · next k u heq =>
      obtain rfl := Nat.succ.inj heq
      split
      · exact ⟨[], _, rfl, rfl, List.forall_mem_nil _⟩
      · next n hn =>
        obtain ⟨w, r, rfl, rfl, -, hw⟩ := exists_of_wordLength? hn
        obtain ⟨w', r', hr, hlength, hw'⟩ := ih r
        refine ⟨'.' :: (w ++ w'), r', ?_, ?_, ?_⟩
        · rw [List.cons_append, List.append_assoc, ← hr]
        · rw [List.drop_left, hlength, List.length_cons, List.length_append]
          omega
        · rw [List.forall_mem_cons, List.forall_mem_append]
          exact ⟨by decide, hw, hw'⟩
    · exact ⟨[], _, rfl, rfl, List.forall_mem_nil _⟩

/-- **What matches as a name** holds characters of names only. -/
theorem exists_of_nameLength? {t : Text} {n : Nat} (h : nameLength? t = some n) :
    ∃ w r, t = w ++ r ∧ n = w.length ∧ w ≠ [] ∧ ∀ c ∈ w, isNameChar c := by
  obtain ⟨k, hk, rfl⟩ := Option.map_eq_some_iff.mp h
  obtain ⟨w, r, rfl, rfl, hne, hw⟩ := exists_of_wordLength? hk
  obtain ⟨w', r', hr, hlength, hw'⟩ := exists_of_dottedWordLength (w ++ r).length r
  refine ⟨w ++ w', r', ?_, ?_, List.append_ne_nil_of_left_ne_nil hne _, ?_⟩
  · rw [List.append_assoc, ← hr]
  · rw [List.drop_left, hlength, List.length_append]
  · rw [List.forall_mem_append]
    exact ⟨hw, hw'⟩

/-- White space is in no name. -/
theorem isNameChar_of_isSpaceChar {c : Char} (h : Text.isSpaceChar c = true) :
    isNameChar c = false := by
  have hpoint : c ≠ '.' := by
    rintro rfl
    exact absurd h (by decide)
  simp [isNameChar, hpoint, Text.isWord_of_isSpace h]

/-- **A name is taken for nothing else.** -/
theorem looksLike_of_forall_isNameChar {w : Text} (h : ∀ c ∈ w, isNameChar c) :
    looksLikeUrl w = false ∧ looksLikeRfc w = false := by
  constructor
  · exact looksLikeUrl_of_notMem fun hmem => absurd (h ':' hmem) (by decide)
  · rw [looksLikeRfc, Bool.and_eq_false_iff, Option.any_eq_false]
    refine .inr fun c hc => ?_
    have hname := h c (List.mem_of_mem_drop (List.mem_of_mem_head? hc))
    rw [← Bool.not_eq_true]
    intro hspace
    rw [isNameChar_of_isSpaceChar hspace] at hname
    cases hname

/-! ### Pieces by their text -/

/-- **What a match is, and what it is taken for**: these agree in each of the three cases. -/
theorem matchLength?_cases {t : Text} {n : Nat} (h : matchLength? t = some n) :
    (t.take n).length = n ∧
    ((urlLength? t = some n ∧ looksLikeUrl (t.take n) = true) ∨
      (urlLength? t = none ∧ rfcLength? t = some n ∧
        looksLikeUrl (t.take n) = false ∧ looksLikeRfc (t.take n) = true) ∨
      (urlLength? t = none ∧ rfcLength? t = none ∧ nameLength? t = some n ∧
        looksLikeUrl (t.take n) = false ∧ looksLikeRfc (t.take n) = false)) := by
  rw [matchLength?] at h
  cases hurl : urlLength? t with
  | some k =>
    rw [hurl] at h
    obtain rfl := Option.some.inj h
    obtain ⟨scheme, host, path, hparts⟩ := isUrl_of_urlLength? hurl
    exact ⟨List.length_take_of_le (urlLength?_le_length hurl),
      .inl ⟨rfl, looksLikeUrl_of_isUrl hparts⟩⟩
  | none =>
    cases hrfc : rfcLength? t with
    | some k =>
      rw [hurl, hrfc] at h
      obtain rfl := Option.some.inj h
      obtain ⟨number, part, w, r, hw, rfl, rfl⟩ := exists_of_rfcLength? hrfc
      rw [List.take_left' rfl]
      exact ⟨rfl, .inr (.inl ⟨rfl, rfl, looksLikeRfc_of_isRfc hw⟩)⟩
    | none =>
      rw [hurl, hrfc] at h
      have hname : nameLength? t = some n := h
      obtain ⟨w, r, rfl, rfl, -, hw⟩ := exists_of_nameLength? hname
      rw [List.take_left' rfl]
      exact ⟨rfl, .inr (.inr ⟨rfl, rfl, hname, looksLike_of_forall_isNameChar hw⟩)⟩

/-- **Pieces are told from the text of the match alone.** -/
theorem reference?_eq_pieceOf (before : Char) (quotes : Nat) (t : Text) :
    reference? before quotes t = (matchLength? t).map fun n =>
      pieceOf before quotes ((t.drop n).head?.getD '\x00') (t.take n) := by
  cases h : matchLength? t with
  | none =>
    simp only [matchLength?, Option.or_eq_none_iff] at h
    rw [reference?, h.1, h.2.1, h.2.2]
    rfl
  | some n =>
    obtain ⟨hlength, ⟨hurl, hlooks⟩ | ⟨hurl, hrfc, hnot, hlooks⟩ |
      ⟨hurl, hrfc, hname, hnot, hnot'⟩⟩ := matchLength?_cases h
    · rw [reference?, hurl, Option.map_some, pieceOf, if_pos hlooks]
    · rw [reference?, hurl, hrfc, Option.map_some, pieceOf, if_neg (by simp [hnot]),
        if_pos hlooks, hlength]
    · rw [reference?, hurl, hrfc, hname, Option.map_some, pieceOf, if_neg (by simp [hnot]),
        if_neg (by simp [hnot']), hlength]
      dsimp only
      split
      · rfl
      · rfl

/-- **A match is taken for a reference to an RFC if it is one.** -/
theorem looksLikeRfc_iff {t : Text} {n : Nat} (h : matchLength? t = some n) :
    looksLikeUrl (t.take n) = false ∧ looksLikeRfc (t.take n) = true ↔
      urlLength? t = none ∧ rfcLength? t = some n := by
  obtain ⟨-, ⟨hurl, hlooks⟩ | ⟨hurl, hrfc, hnot, hlooks⟩ | ⟨hurl, hrfc, -, hnot, hnot'⟩⟩ :=
    matchLength?_cases h
  · simp [hurl, hlooks]
  · simp [hurl, hrfc, hnot, hlooks]
  · simp [hurl, hrfc, hnot, hnot']

/-! ### References that are linked -/

/-- **References to an RFC become links to what they name**, wherever the scan of a line comes to
one. What matches there is taken for a reference if it is the match of one and of no URL; this is
the longest reference there, and is linked to the text of its number and, if it has a section, to
the whole dotted number of that. -/
theorem rfc_of_reaches {line : Text} {ps : List Piece} {before : Char} {t : Text} {n : Nat}
    (h : Reaches (convertQuotes line) ps before t) (hmatch : matchLength? t = some n) :
    reference? before (countQuotes (ps.flatMap Piece.shown)) t =
        some (pieceOf before (countQuotes (ps.flatMap Piece.shown))
          ((t.drop n).head?.getD '\x00') (t.take n)) ∧
      (looksLikeUrl (t.take n) = false ∧ looksLikeRfc (t.take n) = true ↔
        urlLength? t = none ∧ rfcLength? t = some n) ∧
      (urlLength? t = none → rfcLength? t = some n → ∃ number part qs,
        IsRfc number part (t.take n) ∧
        (∀ number' part' w, IsRfc number' part' w → w <+: t → w.length ≤ n) ∧
        pieces (convertQuotes line) = ps ++ .link (rfcHref number part) (t.take n) :: qs ∧
        qs.flatMap Piece.shown = t.drop n ∧
        ∀ resolve, formatLine resolve line = ps.flatMap (Piece.html resolve) ++
          (Html.link (rfcHref number part) (t.take n) ++ qs.flatMap (Piece.html resolve))) := by
  refine ⟨by rw [reference?_eq_pieceOf, hmatch]; rfl, looksLikeRfc_iff hmatch, fun hurl hrfc => ?_⟩
  obtain ⟨number, part, w, r, hw, rfl, rfl⟩ := exists_of_rfcLength? hrfc
  have href : reference? before (countQuotes (ps.flatMap Piece.shown)) (w ++ r) =
      some (.link (rfcHref number part) w, w.length) := by
    rw [reference?, hurl, hrfc]
    dsimp only
    rw [List.take_left' rfl, hw.rfcPiece_eq]
  obtain ⟨qs, hpieces, hqs⟩ :=
    h.pieces_of_reference? (List.append_ne_nil_of_left_ne_nil hw.ne_nil r) href
  rw [List.take_left' rfl]
  refine ⟨number, part, qs, hw, fun number' part' w' hw' hstart => ?_, hpieces, hqs,
    fun resolve => ?_⟩
  · obtain ⟨u, hu⟩ := hstart
    obtain ⟨m, hm, hle⟩ := hw'.length_le u
    rw [hu, hrfc] at hm
    exact hle.trans (Option.some.inj hm).ge
  · rw [formatLine, hpieces, List.flatMap_append, List.flatMap_cons]
    rfl

/-- A sentence with a reference to a section of an RFC, behind a space that does not break. -/
def sectionSentence : Text := Text.of "See RFC\u00a09110, section 5.1.2."

/-- A section with a point behind it, which ends the sentence. -/
theorem rfc_of_reaches_sectionSentence :
    ∃ before, Reaches (convertQuotes sectionSentence) [.name (Text.of "See"), .plain [' ']] before
        (Text.of "RFC\u00a09110, section 5.1.2.") ∧
      matchLength? (Text.of "RFC\u00a09110, section 5.1.2.") = some 23 ∧
      urlLength? (Text.of "RFC\u00a09110, section 5.1.2.") = none ∧
      rfcLength? (Text.of "RFC\u00a09110, section 5.1.2.") = some 23 ∧
      ∃ number part, IsRfc number part (Text.of "RFC\u00a09110, section 5.1.2") ∧
        (∀ number' part' w, IsRfc number' part' w →
          w <+: Text.of "RFC\u00a09110, section 5.1.2." → w.length ≤ 23) ∧
        rfcHref number part =
          Text.of "https://rfc-editor.org/rfc/rfc9110.html#section-5.1.2" := by
  have hpieces : pieces (convertQuotes sectionSentence) =
      [.name (Text.of "See"), .plain [' ']] ++
        .link (Text.of "https://rfc-editor.org/rfc/rfc9110.html#section-5.1.2")
          (Text.of "RFC\u00a09110, section 5.1.2") :: [.plain ['.']] := by
    decide +kernel
  obtain ⟨before, -, hreach, -⟩ := step_of_pieces hpieces
  have hmatch : matchLength? (Text.of "RFC\u00a09110, section 5.1.2.") = some 23 := by
    decide +kernel
  have hurl : urlLength? (Text.of "RFC\u00a09110, section 5.1.2.") = none := by decide +kernel
  have hrfc : rfcLength? (Text.of "RFC\u00a09110, section 5.1.2.") = some 23 := by decide +kernel
  obtain ⟨number, part, qs, hw, hlongest, hqs, -⟩ :=
    (rfc_of_reaches hreach hmatch).2.2 hurl hrfc
  rw [hpieces] at hqs
  have hlink := (List.cons_eq_cons.mp (List.append_cancel_left hqs)).1
  exact ⟨before, hreach, hmatch, hurl, hrfc, number, part, hw, hlongest,
    (Piece.link.inj hlink).1.symm⟩

end Prose
end ApiPage
