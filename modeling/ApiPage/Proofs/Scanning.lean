import ApiPage.Proofs.Documents
import ApiPage.Proofs.Urls

/-!
# The scan of a line

A line is scanned from left to right. Where a reference begins, the scan takes it as one piece, and
elsewhere a single character; it keeps the last character that belongs to no reference, and the
number of quotation marks so far. Here the scan is a machine that goes from place to place of the
line, and the pieces of a line are what it has taken when it comes to the end. Each step takes at
least one character, so it always does.

## Main definitions

* `Prose.Step`: a step of the scan.
* `Prose.Reaches`: the places that the scan of a line comes to.
* `Prose.LinksUrl`: a line links a URL, with what it cuts off and what stands around it.

## Main results

* `Prose.reaches_end`: the scan of a line comes to its end with the pieces of the line.
* `Prose.step_of_pieces`: each piece is taken by a step.
* `Prose.LinksUrl.trimUrl_eq`: a URL that is linked is what is left of a match.
* `Prose.formatLine_shows`: the HTML of a line is text and links that show the line.
-/

namespace ApiPage.Prose

/-! ### Quotation marks -/

/-- The quotation marks of two texts are counted together. -/
theorem countQuotes_append (t u : Text) : countQuotes (t ++ u) = countQuotes t + countQuotes u :=
  List.countP_append

/-! ### Steps -/

/-- **Step of the scan** after `quotes` quotation marks: from the text `t` it takes the piece `p`
and leaves `r`. `before` is the last character that belongs to no reference, `before'` that after
the step. -/
inductive Step (quotes : Nat) : (before : Char) → (t : Text) → (p : Piece) → (before' : Char) →
    (r : Text) → Prop
  | plain {before c : Char} {r : Text} : reference? before quotes (c :: r) = none →
      Step quotes before (c :: r) (.plain [c]) c r
  | reference {before : Char} {p : Piece} {n : Nat} {r : Text} : p.shown ≠ [] →
      reference? before quotes (p.shown ++ r) = some (p, n) →
      Step quotes before (p.shown ++ r) p before r

namespace Step

variable {quotes : Nat} {before before' : Char} {t r : Text} {p : Piece}

/-- What a step takes comes off the text. -/
theorem eq_append (h : Step quotes before t p before' r) : t = p.shown ++ r := by
  cases h with
  | plain _ => rfl
  | reference _ _ => rfl

/-- A step takes at least one character. -/
theorem length_lt (h : Step quotes before t p before' r) : r.length < t.length := by
  cases h with
  | plain _ => exact Nat.lt_succ_self _
  | reference hne _ =>
    have hpos := List.length_pos_of_ne_nil hne
    rw [List.length_append]
    omega

end Step

/-- A reference takes at least one character. -/
theorem pos_of_reference? {before : Char} {quotes n : Nat} {t : Text} {p : Piece}
    (h : reference? before quotes t = some (p, n)) : 0 < n := by
  rcases reference?_cases h with ⟨k, hk, rfl, -⟩ | ⟨-, hrfc, -⟩ | ⟨-, -, hname, -⟩
  · obtain ⟨scheme, host, path, hurl⟩ := isUrl_of_urlLength? hk
    exact List.length_pos_of_ne_nil hurl.trimUrl_ne_nil
  · rw [rfcLength?] at hrfc
    split at hrfc
    · cases hrfc
    · dsimp only at hrfc
      split at hrfc
      · cases hrfc
      · obtain rfl := Option.some.inj hrfc
        omega
  · obtain ⟨k, hk, rfl⟩ := Option.map_eq_some_iff.mp hname
    cases t with
    | nil => cases hk
    | cons c r =>
      rw [wordLength?] at hk
      split at hk
      · obtain rfl := Option.some.inj hk
        omega
      · cases hk

/-- What follows a reference is what it leaves. -/
theorem drop_of_reference? {before : Char} {quotes n : Nat} {r : Text} {p : Piece}
    (h : reference? before quotes (p.shown ++ r) = some (p, n)) : (p.shown ++ r).drop n = r := by
  have hsplit := List.take_append_drop n (p.shown ++ r)
  rw [← shown_of_reference? h] at hsplit
  exact List.append_cancel_left hsplit

/-- **What a step is**: it takes a character where no reference begins, or a reference. -/
theorem Step.inv {quotes : Nat} {before before' : Char} {t r : Text} {p : Piece}
    (h : Step quotes before t p before' r) :
    (∃ c, p = .plain [c] ∧ t = c :: r ∧ before' = c ∧ reference? before quotes t = none) ∨
    (t ≠ [] ∧ before' = before ∧ ∃ n, reference? before quotes t = some (p, n) ∧ t.drop n = r) := by
  cases h with
  | plain hnone => exact .inl ⟨_, rfl, rfl, rfl, hnone⟩
  | reference hne href =>
    exact .inr ⟨List.append_ne_nil_of_left_ne_nil hne _, rfl, _, href, drop_of_reference? href⟩

/-- A reference is taken in one step, if it is not empty. -/
theorem step_of_reference? {before : Char} {quotes n : Nat} {t : Text} {p : Piece} (ht : t ≠ [])
    (h : reference? before quotes t = some (p, n)) :
    Step quotes before t p before (t.drop n) := by
  have hshown := shown_of_reference? h
  have hsplit : t = p.shown ++ t.drop n := by
    rw [hshown, List.take_append_drop]
  have hne : p.shown ≠ [] := by
    have hpos := pos_of_reference? h
    rw [hshown, Ne, List.take_eq_nil_iff]
    exact fun hnil => hnil.elim hpos.ne' ht
  have hstep := Step.reference hne (hsplit ▸ h)
  rwa [← hsplit] at hstep

/-! ### Places -/

/-- **Places of a scan**: after the pieces `ps` the scan of `line` has `t` left, and `before` is the
last character that belongs to no reference. -/
inductive Reaches (line : Text) : (ps : List Piece) → (before : Char) → (t : Text) → Prop
  | start : Reaches line [] '\x00' line
  | step {ps : List Piece} {before before' : Char} {t r : Text} {p : Piece} :
      Reaches line ps before t →
      Step (countQuotes (ps.flatMap Piece.shown)) before t p before' r →
      Reaches line (ps ++ [p]) before' r

variable {line : Text}

/-- The last step of a scan. -/
theorem Reaches.of_concat {ps : List Piece} {p : Piece} {before' : Char} {r : Text}
    (h : Reaches line (ps ++ [p]) before' r) :
    ∃ before, Reaches line ps before (p.shown ++ r) ∧
      Step (countQuotes (ps.flatMap Piece.shown)) before (p.shown ++ r) p before' r := by
  generalize hqs : ps ++ [p] = qs at h
  cases h with
  | start => exact absurd hqs (by simp)
  | step hreach hstep =>
    obtain ⟨rfl, hp⟩ := List.append_inj' hqs rfl
    obtain rfl := List.singleton_inj.mp hp
    rw [← hstep.eq_append]
    exact ⟨_, hreach, hstep⟩

/-- A scan comes by every piece that it takes. -/
theorem Reaches.of_append {ps qs : List Piece} {before' : Char} {r : Text}
    (h : Reaches line (ps ++ qs) before' r) :
    ∃ before, Reaches line ps before (qs.flatMap Piece.shown ++ r) := by
  induction qs using List.reverseRecOn generalizing before' r with
  | nil => exact ⟨before', by simpa using h⟩
  | append_singleton qs q ih =>
    rw [← List.append_assoc] at h
    obtain ⟨before, hreach, -⟩ := h.of_concat
    obtain ⟨b, hb⟩ := ih hreach
    exact ⟨b, by simpa using hb⟩

/-! ### The pieces of a line -/

/-- What is skipped still counts its quotation marks. -/
theorem piecesFrom_skip (before : Char) (quotes skip : Nat) (t : Text) :
    piecesFrom before quotes skip t =
      piecesFrom before (quotes + countQuotes (t.take skip)) 0 (t.drop skip) := by
  induction t generalizing quotes skip with
  | nil => simp [piecesFrom]
  | cons c r ih =>
    cases skip with
    | zero => rfl
    | succ skip =>
      have hcount : countQuotes (c :: r.take skip) =
          countQuotes [c] + countQuotes (r.take skip) := countQuotes_append [c] _
      rw [piecesFrom, ih, List.take_succ_cons, List.drop_succ_cons, hcount, Nat.add_assoc]

/-- A step gives the first of the pieces. -/
theorem piecesFrom_of_step {quotes : Nat} {before before' : Char} {t r : Text} {p : Piece}
    (h : Step quotes before t p before' r) : piecesFrom before quotes 0 t =
      p :: piecesFrom before' (quotes + countQuotes p.shown) 0 r := by
  cases h with
  | plain hnone =>
    rw [piecesFrom, hnone]
    rfl
  | reference hne href =>
    obtain ⟨n, hn⟩ := Nat.exists_eq_succ_of_ne_zero (pos_of_reference? href).ne'
    subst hn
    have hdrop : (p.shown ++ r).drop (n + 1) = r := drop_of_reference? href
    obtain ⟨c, u, hcu⟩ := List.exists_cons_of_ne_nil hne
    have hshown : p.shown = [c] ++ (u ++ r).take n := by
      rw [shown_of_reference? href, hcu]
      rfl
    rw [hcu, List.cons_append, List.drop_succ_cons] at hdrop
    rw [hcu, List.cons_append] at href
    rw [hshown, countQuotes_append, ← hshown, hcu, List.cons_append, piecesFrom, href]
    dsimp only
    rw [piecesFrom_skip, hdrop, Nat.add_assoc]

/-- A text that is not used up allows a step. -/
theorem exists_step (quotes : Nat) (before : Char) {t : Text} (ht : t ≠ []) :
    ∃ p before' r, Step quotes before t p before' r := by
  obtain ⟨c, r, rfl⟩ := List.exists_cons_of_ne_nil ht
  cases href : reference? before quotes (c :: r) with
  | none => exact ⟨_, _, _, .plain href⟩
  | some pn => exact ⟨_, _, _, step_of_reference? ht href⟩

/-- **The pieces of a line** are those that its scan has taken and those of what is left. -/
theorem Reaches.pieces_eq {ps : List Piece} {before : Char} {t : Text}
    (h : Reaches line ps before t) : pieces line =
      ps ++ piecesFrom before (countQuotes (ps.flatMap Piece.shown)) 0 t := by
  induction h with
  | start => rfl
  | step _ hstep ih =>
    rw [piecesFrom_of_step hstep, List.append_cons] at ih
    rw [ih, List.flatMap_append, countQuotes_append, List.flatMap_singleton]

/-- **A reference that the scan comes to** is the next of the pieces. -/
theorem Reaches.pieces_of_reference? {ps : List Piece} {before : Char} {t : Text} {p : Piece}
    {n : Nat} (h : Reaches line ps before t) (ht : t ≠ [])
    (href : reference? before (countQuotes (ps.flatMap Piece.shown)) t = some (p, n)) :
    ∃ qs, pieces line = ps ++ p :: qs ∧ qs.flatMap Piece.shown = t.drop n := by
  have hpieces := h.pieces_eq
  rw [piecesFrom_of_step (step_of_reference? ht href)] at hpieces
  refine ⟨_, hpieces, ?_⟩
  rw [flatMap_shown_piecesFrom, List.drop_zero]

/-- From every place a scan goes on to the end. -/
theorem Reaches.exists_end {ps : List Piece} {before : Char} {t : Text}
    (h : Reaches line ps before t) : ∃ qs before', Reaches line (ps ++ qs) before' [] := by
  induction hlength : t.length using Nat.strong_induction_on generalizing ps before t with
  | _ k ih =>
    by_cases ht : t = []
    · subst ht
      exact ⟨[], before, by simpa using h⟩
    · obtain ⟨p, before', r, hstep⟩ :=
        exists_step (countQuotes (ps.flatMap Piece.shown)) before ht
      obtain ⟨qs, b, hend⟩ := ih r.length (hlength ▸ hstep.length_lt) (h.step hstep) rfl
      exact ⟨p :: qs, b, by simpa using hend⟩

/-- **The scan of a line comes to its end**, with the pieces of the line. -/
theorem reaches_end (line : Text) : ∃ before, Reaches line (pieces line) before [] := by
  obtain ⟨qs, before, hend⟩ := (@Reaches.start line).exists_end
  have hpieces := hend.pieces_eq
  rw [piecesFrom, List.append_nil, List.nil_append] at hpieces
  rw [hpieces]
  exact ⟨before, hend⟩

/-- **Each piece of a line is taken by a step** of its scan. -/
theorem step_of_pieces {ps qs : List Piece} {p : Piece} (h : pieces line = ps ++ p :: qs) :
    ∃ before before', Reaches line ps before (p.shown ++ qs.flatMap Piece.shown) ∧
      Step (countQuotes (ps.flatMap Piece.shown)) before (p.shown ++ qs.flatMap Piece.shown) p
        before' (qs.flatMap Piece.shown) := by
  obtain ⟨b, hend⟩ := reaches_end line
  rw [h, List.append_cons] at hend
  obtain ⟨before', hreach⟩ := hend.of_append
  rw [List.append_nil] at hreach
  obtain ⟨before, hbefore, hstep⟩ := hreach.of_concat
  exact ⟨before, before', hbefore, hstep⟩

/-! ### URLs that are linked -/

/-- **The line links `url`**, which it cuts out of the match `url ++ cut` of a URL. `front` comes
before the match, and `rest` after it. -/
def LinksUrl (line front url cut rest : Text) : Prop :=
  ∃ ps qs, pieces line = ps ++ .link url url :: qs ∧ ps.flatMap Piece.shown = front ∧
    qs.flatMap Piece.shown = cut ++ rest ∧
    urlLength? (url ++ (cut ++ rest)) = some (url ++ cut).length

namespace LinksUrl

variable {front url cut rest : Text}

/-- A text in front of the rest of one. -/
theorem take_eq (url cut rest : Text) :
    (url ++ (cut ++ rest)).take (url ++ cut).length = url ++ cut := by
  rw [← List.append_assoc]
  exact List.take_left' rfl

/-- A URL that is linked is cut out of a URL. -/
theorem exists_isUrl (h : LinksUrl line front url cut rest) :
    ∃ scheme host path, IsUrl scheme host path (url ++ cut) := by
  obtain ⟨-, -, -, -, -, hurl⟩ := h
  have hparts := isUrl_of_urlLength? hurl
  rwa [take_eq] at hparts

/-- **A URL that is linked is what is left of a match**. -/
theorem trimUrl_eq (h : LinksUrl line front url cut rest) : trimUrl (url ++ cut) = url := by
  obtain ⟨ps, qs, hpieces, -, hrest, hurl⟩ := h
  obtain ⟨before, before', -, hstep⟩ := step_of_pieces hpieces
  obtain ⟨-, -, n, href, -⟩ := hstep.inv.resolve_left (by simp)
  have hshown : (Piece.link url url).shown ++ qs.flatMap Piece.shown = url ++ (cut ++ rest) :=
    congrArg (url ++ ·) hrest
  rw [hshown] at href
  rcases reference?_cases href with ⟨k, hk, -, hp⟩ | ⟨hnone, -⟩ | ⟨hnone, -⟩
  · obtain rfl := Option.some.inj (hurl.symm.trans hk)
    rw [take_eq] at hp
    exact (Piece.link.inj hp).1.symm
  · rw [hurl] at hnone
    cases hnone
  · rw [hurl] at hnone
    cases hnone

end LinksUrl

/-! ### Lines as HTML -/

/-- **HTML of text and links**: `h` is written of escaped text and links, which show `t`. -/
def Written (h t : Text) : Prop :=
  ∃ ps : List Piece, h = ps.flatMap (Piece.html none) ∧ ps.flatMap Piece.shown = t

namespace Written

/-- An empty text is written as nothing. -/
theorem nil : Written [] [] := ⟨[], rfl, rfl⟩

/-- A piece is written as it is shown. -/
theorem piece (p : Piece) : Written (p.html none) p.shown :=
  ⟨[p], (List.flatMap_singleton ..).symm, List.flatMap_singleton ..⟩

/-- What one text writes comes before what the next does. -/
theorem append {g h t u : Text} (hg : Written g t) (hh : Written h u) :
    Written (g ++ h) (t ++ u) := by
  obtain ⟨ps, rfl, rfl⟩ := hg
  obtain ⟨qs, rfl, rfl⟩ := hh
  exact ⟨ps ++ qs, List.flatMap_append.symm, List.flatMap_append⟩

/-- Texts one after another. -/
theorem flatMap {α : Type} {f g : α → Text} {l : List α} (h : ∀ a ∈ l, Written (f a) (g a)) :
    Written (l.flatMap f) (l.flatMap g) := by
  induction l with
  | nil => exact nil
  | cons a l ih =>
    obtain ⟨ha, hl⟩ := List.forall_mem_cons.mp h
    exact ha.append (ih hl)

/-- HTML of text and links is read back, and no link is inside another. -/
theorem exists_tokens {h t : Text} (hh : Written h t) :
    ∃ ts, Html.tokens? h = some ts ∧ Html.isInline false ts ∧ Html.textOf ts = t := by
  obtain ⟨ps, rfl, rfl⟩ := hh
  have hphrase : Html.Phrase (fun _ => True) (ps.flatMap (Piece.html none))
      (ps.flatMap Piece.shown) :=
    Html.Phrase.flatMap fun p _ => p.phrase_html (by simp) fun _ _ _ => trivial
  obtain ⟨ts, hspells, hinline, htext, -⟩ := hphrase
  exact ⟨ts, hspells.tokens, hinline, htext⟩

end Written

/-- A resolved word is text, a link, or two links with a point between them. -/
theorem written_html (r : Resolver) (w : Text) : Written (r.html w) w := by
  rcases r.html_forms w with h | ⟨href, h⟩ | ⟨a, b, head, rest, rfl, h⟩
  · rw [h]
    exact .piece (.plain w)
  · rw [h]
    exact .piece (.link href w)
  · rw [h]
    exact (Written.piece (.link a head)).append
      ((Written.piece (.plain ['.'])).append (.piece (.link b rest)))

/-- A piece is written as it is shown, if its names are. -/
theorem written_piece {resolve : Option (Text → Text)} (hr : ∀ f ∈ resolve, ∀ w, Written (f w) w)
    (p : Piece) : Written (p.html resolve) p.shown := by
  cases p with
  | plain t => exact .piece (.plain t)
  | link href label => exact .piece (.link href label)
  | name w =>
    cases resolve with
    | none => exact .piece (.name w)
    | some f => exact hr f rfl w

/-- **A line is written** as it is with its quotation marks converted. -/
theorem written_formatLine {resolve : Option (Text → Text)}
    (hr : ∀ f ∈ resolve, ∀ w, Written (f w) w) (line : Text) :
    Written (formatLine resolve line) (convertQuotes line) := by
  have h := Written.flatMap (l := pieces (convertQuotes line)) fun p _ => written_piece hr p
  rwa [flatMap_shown_pieces] at h

/-- **The HTML of a line shows the line**, whatever the resolver. The scan comes to the end of the
line; what it has taken is written as escaped text and links, and read back this is text and links,
no link inside another, that show the line with its quotes converted. -/
theorem formatLine_shows (resolver : Option Resolver) (hotlinks : Bool) (line : Text) :
    (∃ before, Reaches (convertQuotes line) (pieces (convertQuotes line)) before []) ∧
    ∃ (ps : List Piece) (ts : List Html.Token),
      formatLine (if hotlinks then resolver.map Resolver.html else none) line =
        ps.flatMap (Piece.html none) ∧
      ps.flatMap Piece.shown = convertQuotes line ∧
      Html.tokens? (formatLine (if hotlinks then resolver.map Resolver.html else none) line) =
        some ts ∧
      Html.isInline false ts ∧ Html.textOf ts = convertQuotes line := by
  have hresolve : ∀ f ∈ (if hotlinks then resolver.map Resolver.html else none), ∀ w,
      Written (f w) w := by
    intro f hf w
    split at hf
    · obtain ⟨r, -, rfl⟩ := Option.map_eq_some_iff.mp hf
      exact written_html r w
    · cases hf
  have hwritten := written_formatLine hresolve line
  obtain ⟨ts, htokens, hinline, htext⟩ := hwritten.exists_tokens
  obtain ⟨ps, hhtml, hshown⟩ := hwritten
  exact ⟨reaches_end _, ps, ts, hhtml, hshown, htokens, hinline, htext⟩

end ApiPage.Prose
