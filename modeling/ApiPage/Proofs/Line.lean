import Mathlib
import ApiPage.Page.Resolver
import ApiPage.Proofs.Markup
import ApiPage.Prose.Line

/-!
# Lines of prose as HTML

A line of prose is cut into pieces, and each piece becomes HTML on its own. Here the pieces are
shown to be a cut: put together they are the line. A reference is a prefix of what is left of the
line, also after a URL is cut back, and a resolver shows the word that it is given.

## Main results

* `Prose.flatMap_shown_pieces`: the pieces of a text show the text.
* `Resolver.html_forms`: the forms of a resolved word.
* `Resolver.displays_html`: a resolved word is markup of the word.
* `Prose.displays_formatLine`: the HTML of a line is markup of the line with its quotes converted.
-/

namespace ApiPage

open Html (Displays)

/-! ### Joining and cutting texts -/

/-- One more line before some. -/
theorem Text.joinLines_cons (l : Text) {ls : List Text} (h : ls ≠ []) :
    Text.joinLines (l :: ls) = l ++ '\n' :: Text.joinLines ls := by
  cases ls with
  | nil => exact absurd rfl h
  | cons m ls => simp [Text.joinLines, Text.join]

/-- A text cannot be cut at a character it does not hold. -/
theorem Text.cutAt?_eq_none {c : Char} {t : Text} (h : c ∉ t) : Text.cutAt? c t = none := by
  induction t with
  | nil => rfl
  | cons d t ih =>
    have hd : ¬(d == c) = true := fun hd => h (eq_of_beq hd ▸ List.mem_cons_self)
    rw [Text.cutAt?, if_neg hd, ih fun hmem => h (List.mem_cons_of_mem d hmem)]
    rfl

/-- A text is cut at the first place that a character stands at. -/
theorem Text.cutAt?_append {c : Char} {t : Text} (h : c ∉ t) (u : Text) :
    Text.cutAt? c (t ++ c :: u) = some (t, u) := by
  induction t with
  | nil => simp [Text.cutAt?]
  | cons d t ih =>
    have hd : ¬(d == c) = true := fun hd => h (eq_of_beq hd ▸ List.mem_cons_self)
    rw [List.cons_append, Text.cutAt?, if_neg hd, ih fun hmem => h (List.mem_cons_of_mem d hmem)]
    rfl

/-- **A text is cut at the first** of the characters that it may be cut at. -/
theorem Text.cutAt?_eq_some_iff {c : Char} {t a b : Text} :
    Text.cutAt? c t = some (a, b) ↔ c ∉ a ∧ t = a ++ c :: b := by
  constructor
  · intro h
    induction t generalizing a with
    | nil => simp [Text.cutAt?] at h
    | cons d r ih =>
      rw [Text.cutAt?] at h
      by_cases hd : (d == c) = true
      · rw [if_pos hd] at h
        obtain ⟨rfl, rfl⟩ : [] = a ∧ r = b := by simpa using h
        simp [eq_of_beq hd]
      · rw [if_neg hd, Option.map_eq_some_iff] at h
        obtain ⟨⟨a', b'⟩, hcut, heq⟩ := h
        obtain ⟨rfl, rfl⟩ : d :: a' = a ∧ b' = b := by simpa using heq
        obtain ⟨hnotMem, rfl⟩ := ih hcut
        have hc : c ≠ d := fun hc => hd (beq_iff_eq.mpr hc.symm)
        exact ⟨List.not_mem_cons_of_ne_of_not_mem hc hnotMem, rfl⟩
  · rintro ⟨ha, rfl⟩
    exact Text.cutAt?_append ha b

/-- A text that is cut at a character is what comes before it, the character, and what follows. -/
theorem Text.eq_of_cutAt? {c : Char} {t a b : Text} (h : Text.cutAt? c t = some (a, b)) :
    t = a ++ c :: b :=
  (Text.cutAt?_eq_some_iff.mp h).2

/-- A text that begins with another is that text and the rest. -/
theorem Text.eq_of_dropPrefix? {t q r : Text} (h : Text.dropPrefix? t q = some r) : t = q ++ r := by
  induction q generalizing t with
  | nil =>
    cases t with
    | nil => exact Option.some.inj h
    | cons c t => exact Option.some.inj h
  | cons d q ih =>
    cases t with
    | nil => cases h
    | cons c t =>
      rw [Text.dropPrefix?] at h
      split at h
      · next hc => rw [eq_of_beq hc, ih h, List.cons_append]
      · cases h

/-- What follows the run of some characters at the start of a text. -/
theorem Text.drop_length_takeWhile (p : Char → Bool) (t : Text) :
    t.drop (t.takeWhile p).length = t.dropWhile p := by
  have h : (t.takeWhile p ++ t.dropWhile p).drop (t.takeWhile p).length = t.dropWhile p :=
    List.drop_left' rfl
  rwa [List.takeWhile_append_dropWhile] at h

namespace Prose

/-! ### Trimmed URLs are prefixes -/

/-- Without a stray closer a beginning is left. -/
theorem cutStrayCloser_isPrefix (opener closer : Char) (t : Text) :
    cutStrayCloser opener closer t <+: t := by
  unfold cutStrayCloser
  split
  · next before after h =>
    split
    · exact ⟨closer :: after, (Text.eq_of_cutAt? h).symm⟩
    · exact List.prefix_refl t
  · exact List.prefix_refl t

/-- Cut at its last bracket, a text leaves a beginning. -/
theorem cutLastBracket_isPrefix (opener closer : Char) (t : Text) :
    cutLastBracket opener closer t <+: t := by
  unfold cutLastBracket
  split
  · rw [← List.reverse_suffix, List.reverse_reverse]
    exact (List.drop_suffix _ _).trans (List.dropWhile_suffix _)
  · exact List.prefix_refl t

/-- Cut until it balances, a text leaves a beginning. -/
theorem balanceBrackets_isPrefix (opener closer : Char) (n : Nat) (t : Text) :
    balanceBrackets opener closer n t <+: t := by
  induction n generalizing t with
  | zero => exact List.prefix_refl t
  | succ n ih =>
    rw [balanceBrackets]
    split
    · exact List.prefix_refl t
    · exact (ih _).trans (cutLastBracket_isPrefix opener closer t)

/-- A URL is only ever cut at its end. -/
theorem trimUrl_isPrefix (t : Text) : trimUrl t <+: t :=
  (balanceBrackets_isPrefix _ _ _ _).trans <| (balanceBrackets_isPrefix _ _ _ _).trans <|
    (cutStrayCloser_isPrefix _ _ _).trans (cutStrayCloser_isPrefix _ _ _)

/-! ### Pieces -/

/-- A reference to an RFC shows its text. -/
theorem shown_rfcPiece (w : Text) : (rfcPiece w).shown = w := by
  unfold rfcPiece
  split <;> rfl

/-- **What a reference is**: a URL that is cut back, else a reference to an RFC, else a name, which is
offered where the characters around it and the quotation marks before it allow that. -/
theorem reference?_cases {before : Char} {quotes n : Nat} {t : Text} {p : Piece}
    (h : reference? before quotes t = some (p, n)) :
    (∃ k, urlLength? t = some k ∧ n = (trimUrl (t.take k)).length ∧
      p = .link (trimUrl (t.take k)) (trimUrl (t.take k))) ∨
    (urlLength? t = none ∧ rfcLength? t = some n ∧ p = rfcPiece (t.take n)) ∨
    (urlLength? t = none ∧ rfcLength? t = none ∧ nameLength? t = some n ∧
      (p = .plain (t.take n) ∨ p = .name (t.take n) ∧ nameMayFollow before ∧
        nameMayPrecede ((t.drop n).head?.getD '\x00') ∧ quotes % 2 = 0)) := by
  rw [reference?] at h
  cases hurl : urlLength? t with
  | some k =>
    rw [hurl] at h
    obtain ⟨rfl, rfl⟩ := Prod.mk.inj (Option.some.inj h)
    exact .inl ⟨k, rfl, rfl, rfl⟩
  | none =>
    cases hrfc : rfcLength? t with
    | some k =>
      rw [hurl, hrfc] at h
      obtain ⟨rfl, rfl⟩ := Prod.mk.inj (Option.some.inj h)
      exact .inr (.inl ⟨rfl, rfl, rfl⟩)
    | none =>
      cases hname : nameLength? t with
      | none =>
        rw [hurl, hrfc, hname] at h
        cases h
      | some k =>
        rw [hurl, hrfc, hname] at h
        dsimp only at h
        split at h
        · next hoffered =>
          obtain ⟨rfl, rfl⟩ := Prod.mk.inj (Option.some.inj h)
          simp only [Bool.and_eq_true, decide_eq_true_eq] at hoffered
          exact .inr (.inr ⟨rfl, rfl, rfl, .inr ⟨rfl, hoffered.1.1, hoffered.1.2, hoffered.2⟩⟩)
        · obtain ⟨rfl, rfl⟩ := Prod.mk.inj (Option.some.inj h)
          exact .inr (.inr ⟨rfl, rfl, rfl, .inl rfl⟩)

/-- A reference at the start of a text shows the characters that it takes. -/
theorem shown_of_reference? {before : Char} {quotes n : Nat} {t : Text} {p : Piece}
    (h : reference? before quotes t = some (p, n)) : p.shown = t.take n := by
  rcases reference?_cases h with
    ⟨k, -, rfl, rfl⟩ | ⟨-, -, rfl⟩ | ⟨-, -, -, rfl | ⟨rfl, -⟩⟩
  · exact List.prefix_iff_eq_take.mp ((trimUrl_isPrefix _).trans (List.take_prefix k t))
  · exact shown_rfcPiece _
  · rfl
  · rfl

/-- The pieces of a text show what is not skipped. -/
theorem flatMap_shown_piecesFrom (before : Char) (quotes skip : Nat) (t : Text) :
    (piecesFrom before quotes skip t).flatMap Piece.shown = t.drop skip := by
  induction t generalizing before quotes skip with
  | nil => simp [piecesFrom]
  | cons c r ih =>
    cases skip with
    | succ skip => simpa [piecesFrom] using ih before _ skip
    | zero =>
      rw [piecesFrom]
      split
      · next p n h =>
        have hp : p.shown = c :: r.take n := by simpa using shown_of_reference? h
        rw [List.flatMap_cons, ih, hp]
        simp
      · simpa [Piece.shown] using ih c _ 0

/-- **The pieces of a text show the text.** -/
theorem flatMap_shown_pieces (t : Text) : (pieces t).flatMap Piece.shown = t := by
  simpa [pieces] using flatMap_shown_piecesFrom '\x00' 0 0 t

/-! ### HTML of pieces -/

/-- A piece is markup of what it shows, if the resolver's words are. -/
theorem Piece.displays_html {resolve : Option (Text → Text)}
    (hr : ∀ f ∈ resolve, ∀ w, Displays (f w) w []) (p : Piece) :
    Displays (p.html resolve) p.shown [] := by
  cases p with
  | plain t => exact Html.displays_escape t
  | link href label => exact Html.displays_link href label
  | name w =>
    cases resolve with
    | none => exact Html.displays_escape w
    | some f => exact hr f rfl w

/-- **The HTML of a line is markup of the line** with its quotes converted. -/
theorem displays_formatLine {resolve : Option (Text → Text)}
    (hr : ∀ f ∈ resolve, ∀ w, Displays (f w) w []) (line : Text) :
    Displays (formatLine resolve line) (convertQuotes line) [] := by
  have h : Displays ((pieces (convertQuotes line)).flatMap (Piece.html resolve))
      ((pieces (convertQuotes line)).flatMap Piece.shown)
      ((pieces (convertQuotes line)).flatMap fun _ => []) :=
    Displays.flatMap fun p _ => p.displays_html hr
  rwa [flatMap_shown_pieces, List.flatMap_eq_nil_iff.mpr fun _ _ => rfl] at h

end Prose

/-! ### Resolved words -/

namespace Resolver

/-- A word in prose is its text, or a link that shows it. -/
theorem plainHtml_forms (r : Resolver) (w : Text) :
    r.plainHtml w = Html.escape w ∨ ∃ href, r.plainHtml w = Html.link href w := by
  rw [plainHtml]
  split
  · exact .inr ⟨_, rfl⟩
  · split
    · exact .inr ⟨_, rfl⟩
    · split
      · exact .inr ⟨_, rfl⟩
      · split
        · exact .inr ⟨_, rfl⟩
        · exact .inl rfl

/-- **Forms of a resolved word**: its text, a link, or links before and behind its first point. -/
theorem html_forms (r : Resolver) (w : Text) :
    r.html w = Html.escape w ∨ (∃ href, r.html w = Html.link href w) ∨
      ∃ a b head rest, w = head ++ (['.'] ++ rest) ∧
        r.html w = Html.link a head ++ (['.'] ++ Html.link b rest) := by
  rw [html]
  split
  · next head rest h =>
    split
    · exact .inr (.inr ⟨_, _, head, rest, Text.eq_of_cutAt? h, rfl⟩)
    · exact (r.plainHtml_forms w).imp_right .inl
  · exact (r.plainHtml_forms w).imp_right .inl

/-- **A resolved word is markup of the word**, also where it becomes two links. -/
theorem displays_html (r : Resolver) (w : Text) : Displays (r.html w) w [] := by
  rcases r.html_forms w with h | ⟨href, h⟩ | ⟨a, b, head, rest, rfl, h⟩
  · rw [h]
    exact Html.displays_escape w
  · rw [h]
    exact Html.displays_link href w
  · have hdot : Displays (Html.escape ['.']) ['.'] [] := Html.displays_escape ['.']
    rw [h]
    exact (Html.displays_link a head).append (hdot.append (Html.displays_link b rest))

end Resolver
end ApiPage
