import ApiPage.Proofs.Matches

/-!
# Passes over a line

A line is read in passes. Each goes to the next match, takes it, and leaves what follows; a URL is
cut first, so that the pass may end before the match does. A URL is never cut inside its scheme,
which holds no bracket, and every other match is taken as a whole. So each pass takes a character at
least, and no more passes are made than the line has characters.

A URL is left as it is just if its brackets are in order. Otherwise it is cut before one of them.

## Main definitions

* `Prose.InOrder`: brackets of a kind that give no reason for a cut.
* `Prose.cutEnd`: where the URL ends that is left of a match.
* `Prose.CutAt`: what is known of that place.
* `Prose.nextMatch`, `Prose.afterPass`: the next match, and what a pass leaves.

## Main results

* `Prose.trimUrl_eq_self_iff`: which URLs are not cut.
* `Prose.cutAt_cutEnd`: where URLs are cut.
* `Prose.Reaches.afterPass`: the scan of a line comes to the end of each pass.
* `Prose.urls_cut_and_passes_end`: all of this for every line.
-/

namespace ApiPage

/-- A text is cut no later than at any other place where it might be. -/
theorem Text.isPrefix_of_cutAt? {c : Char} {t before after a b : Text}
    (h : cutAt? c t = some (before, after)) (ht : t = a ++ c :: b) :
    before <+: a ∧ b <:+ after := by
  obtain ⟨hbefore, rfl⟩ := cutAt?_eq_some_iff.mp h
  rcases List.append_eq_append_iff.mp ht with ⟨d, rfl, hd⟩ | ⟨d, rfl, hd⟩
  · refine ⟨List.prefix_append before d, ?_⟩
    cases d with
    | nil => exact (List.cons.inj hd).2 ▸ List.suffix_rfl
    | cons e d => exact (List.cons.inj hd).2 ▸ ⟨d ++ [c], by simp⟩
  · cases d with
    | nil => exact ⟨by simp, (List.cons.inj hd).2 ▸ List.suffix_rfl⟩
    | cons e d =>
      obtain rfl := (List.cons.inj hd).1
      exact absurd (List.mem_append_right a List.mem_cons_self) hbefore

namespace Prose

/-! ### Brackets in order -/

/-- **Brackets in order**: as many of them open as close, and none closes before the first opens. -/
structure InOrder (opener closer : Char) (t : Text) : Prop where
  count : t.count opener = t.count closer
  opens : ∀ a b, t = a ++ closer :: b → opener ∈ b → opener ∈ a

section

variable {opener closer : Char} {t : Text}

/-- Nothing is cut if an opener stands before every closer that one follows. -/
theorem cutStrayCloser_eq_self_iff : cutStrayCloser opener closer t = t ↔
    ∀ a b, t = a ++ closer :: b → opener ∈ b → opener ∈ a := by
  rw [cutStrayCloser]
  split
  · next before after hcut =>
    have ht := Text.eq_of_cutAt? hcut
    split
    · next hstray =>
      simp only [Bool.and_eq_true, Bool.not_eq_true', List.contains_eq_mem, decide_eq_true_eq,
        decide_eq_false_iff_not] at hstray
      refine ⟨fun heq => absurd (heq.trans ht) (by simp), fun hopens => ?_⟩
      exact absurd (hopens before after ht hstray.2) hstray.1
    · next hkept =>
      simp only [Bool.and_eq_true, Bool.not_eq_true', List.contains_eq_mem, decide_eq_true_eq,
        decide_eq_false_iff_not, not_and'] at hkept
      refine ⟨fun _ a b hsplit hb => ?_, fun _ => rfl⟩
      obtain ⟨ha, hafter⟩ := Text.isPrefix_of_cutAt? hcut hsplit
      exact ha.subset (not_not.mp (hkept (hafter.subset hb)))
  · next hnone =>
    refine ⟨fun _ a b hsplit _ => ?_, fun _ => rfl⟩
    have hmem : closer ∈ t := hsplit ▸ List.mem_append_right a List.mem_cons_self
    obtain ⟨before, after, rfl, hbefore⟩ := List.eq_append_cons_of_mem hmem
    rw [Text.cutAt?_append hbefore] at hnone
    cases hnone

/-- Nothing is cut if there are as many openers as closers. -/
theorem balanceBrackets_eq_self_iff {n : Nat} :
    balanceBrackets opener closer (n + 1) t = t ↔ t.count opener = t.count closer := by
  refine ⟨fun heq => by_contra fun hcount => ?_, fun h => balanceBrackets_of_balanced h _⟩
  have hbracket : opener ∈ t ∨ closer ∈ t := by
    by_contra hnone
    rw [not_or] at hnone
    rw [List.count_eq_zero.mpr hnone.1, List.count_eq_zero.mpr hnone.2] at hcount
    exact hcount rfl
  obtain ⟨b, r, ht, -⟩ := exists_cutLastBracket hbracket
  rw [balanceBrackets, if_neg hcount] at heq
  have hle := (balanceBrackets_isPrefix opener closer n (cutLastBracket opener closer t)).length_le
  have hlength := congrArg List.length ht
  rw [List.length_append, List.length_cons] at hlength
  rw [heq] at hle
  omega

/-- A prefix of a prefix is all of the text just if both are. -/
theorem eq_iff_of_isPrefix {u v : Text} (huv : u <+: v) (hvt : v <+: t) :
    u = t ↔ v = t ∧ u = v := by
  refine ⟨fun h => ?_, fun ⟨hv, hu⟩ => hu.trans hv⟩
  subst h
  have hv := hvt.eq_of_length_le huv.length_le
  exact ⟨hv, hv.symm⟩

end

/-- **A URL is left as it is** just if its brackets are in order. -/
theorem trimUrl_eq_self_iff {t : Text} :
    trimUrl t = t ↔ InOrder '(' ')' t ∧ InOrder '[' ']' t := by
  have hround := cutStrayCloser_isPrefix '(' ')' t
  have hsquare := cutStrayCloser_isPrefix '[' ']' (cutStrayCloser '(' ')' t)
  have hbalanced : roundTrimmed t <+: cutStrayCloser '[' ']' (cutStrayCloser '(' ')' t) :=
    balanceBrackets_isPrefix _ _ _ _
  rw [trimUrl_eq, eq_iff_of_isPrefix (balanceBrackets_isPrefix _ _ _ (roundTrimmed t))
      (hbalanced.trans (hsquare.trans hround)),
    eq_iff_of_isPrefix hbalanced (hsquare.trans hround), eq_iff_of_isPrefix hsquare hround,
    roundTrimmed]
  constructor
  · rintro ⟨⟨⟨hclose, hclose'⟩, hcount⟩, hcount'⟩
    rw [hclose'] at hcount hcount'
    rw [hclose] at hclose' hcount hcount'
    rw [hcount] at hcount'
    exact ⟨⟨balanceBrackets_eq_self_iff.mp hcount, cutStrayCloser_eq_self_iff.mp hclose⟩,
      ⟨balanceBrackets_eq_self_iff.mp hcount', cutStrayCloser_eq_self_iff.mp hclose'⟩⟩
  · rintro ⟨hround, hsquare⟩
    rw [cutStrayCloser_eq_self_iff.mpr hround.opens, cutStrayCloser_eq_self_iff.mpr hsquare.opens,
      balanceBrackets_of_balanced hround.count, balanceBrackets_of_balanced hsquare.count]
    exact ⟨⟨⟨rfl, rfl⟩, rfl⟩, rfl⟩

/-! ### Matches that are cut -/

/-- A match is cut off the text before it and behind it. -/
theorem drop_take_add (t : Text) (start n : Nat) :
    (t.take (start + n)).drop start = (t.drop start).take n := by
  rw [List.drop_take, Nat.add_sub_cancel_left]

/-- **The end of the URL** that is left of a match from `start` to `stop`. -/
def cutEnd (t : Text) (start stop : Nat) : Nat :=
  start + (trimUrl ((t.take stop).drop start)).length

/-- **A URL from `start` to `stop` is cut at `e`**. This is behind its scheme; it is the end of the
URL just if the brackets are in order, and otherwise there is a bracket. -/
structure CutAt (t : Text) (start stop e : Nat) : Prop where
  scheme : ∃ scheme host path, IsUrl scheme host path ((t.take stop).drop start) ∧
    start + (scheme.length + (Text.of "://").length) ≤ e
  le : e ≤ stop
  eq_iff : e = stop ↔
    InOrder '(' ')' ((t.take stop).drop start) ∧ InOrder '[' ']' ((t.take stop).drop start)
  bracket : e < stop → ∃ b ∈ brackets, t[e]? = some b

/-- The character behind a beginning that can go on with it. -/
theorem getElem?_of_isPrefix_concat {u v : Text} {b : Char} (h : u ++ [b] <+: v) :
    v[u.length]? = some b := by
  obtain ⟨r, rfl⟩ := h
  simp

/-- **Where URLs are cut**. -/
theorem cutAt_cutEnd {t : Text} {start n : Nat} (h : urlLength? (t.drop start) = some n) :
    CutAt t start (start + n) (cutEnd t start (start + n)) := by
  have hmatch := drop_take_add t start n
  have hlength := List.length_take_of_le (urlLength?_le_length h)
  have hcut := cutBefore_trimUrl ((t.drop start).take n)
  obtain ⟨scheme, host, path, hurl⟩ := isUrl_of_urlLength? h
  have hscheme := hurl.isPrefix_trimUrl.length_le
  have hle := hcut.isPrefix.length_le
  rw [List.length_append] at hscheme
  rw [hlength] at hle
  constructor
  · rw [cutEnd, hmatch]
    exact ⟨scheme, host, path, hurl, Nat.add_le_add_left hscheme start⟩
  · rw [cutEnd, hmatch]
    exact Nat.add_le_add_left hle start
  · rw [cutEnd, hmatch, ← trimUrl_eq_self_iff, Nat.add_left_cancel_iff]
    refine ⟨fun heq => hcut.isPrefix.eq_of_length (heq.trans hlength.symm), fun heq => ?_⟩
    rw [heq, hlength]
  · rw [cutEnd, hmatch]
    intro hlt
    rcases hcut with heq | ⟨b, hb, hstart⟩
    · rw [heq, hlength] at hlt
      exact absurd hlt (Nat.lt_irrefl _)
    · refine ⟨b, hb, ?_⟩
      rw [← List.getElem?_drop]
      exact getElem?_of_isPrefix_concat (hstart.trans (List.take_prefix n (t.drop start)))

/-! ### Passes -/

/-- **The next match** of a text: where it begins and where it ends. Both are the end of the text if
nothing matches. -/
def nextMatch : Text → Nat × Nat
  | [] => (0, 0)
  | c :: r => match matchLength? (c :: r) with
    | some n => (0, n)
    | none => ((nextMatch r).1 + 1, (nextMatch r).2 + 1)

/-- The end of a pass: that of the next match, or of what is left of it if it is a URL. -/
def passEnd (t : Text) : Nat :=
  if looksLikeUrl ((t.take (nextMatch t).2).drop (nextMatch t).1) then
    cutEnd t (nextMatch t).1 (nextMatch t).2
  else (nextMatch t).2

/-- **What a pass leaves** of a text. -/
def afterPass (t : Text) : Text := t.drop (passEnd t)

/-- **The scan comes to the next match**, as no reference begins before it. -/
theorem Reaches.nextMatch {line : Text} {ps : List Piece} {before : Char} {t : Text}
    (h : Reaches line ps before t) :
    ∃ qs before', Reaches line (ps ++ qs) before' (t.drop (nextMatch t).1) ∧
      ((t.drop (nextMatch t).1 = [] ∧ (nextMatch t).2 = (nextMatch t).1) ∨
        ∃ n, matchLength? (t.drop (nextMatch t).1) = some n ∧
          (nextMatch t).2 = (nextMatch t).1 + n) := by
  induction t generalizing ps before with
  | nil => exact ⟨[], before, by simpa using h, .inl ⟨rfl, rfl⟩⟩
  | cons c r ih =>
    cases hmatch : matchLength? (c :: r) with
    | some n =>
      have hnext : Prose.nextMatch (c :: r) = (0, n) := by rw [Prose.nextMatch, hmatch]
      rw [hnext]
      exact ⟨[], before, by simpa using h, .inr ⟨n, hmatch, (Nat.zero_add n).symm⟩⟩
    | none =>
      have hnext : Prose.nextMatch (c :: r) =
          ((Prose.nextMatch r).1 + 1, (Prose.nextMatch r).2 + 1) := by
        rw [Prose.nextMatch, hmatch]
      have hnone : reference? before (countQuotes (ps.flatMap Piece.shown)) (c :: r) = none := by
        rw [reference?_eq_pieceOf, hmatch]
        rfl
      obtain ⟨qs, before', hreach, hend⟩ := ih (h.step (.plain hnone))
      rw [hnext]
      refine ⟨.plain [c] :: qs, before', by simpa using hreach, ?_⟩
      rcases hend with ⟨hnil, hstop⟩ | ⟨n, hn, hstop⟩
      · exact .inl ⟨hnil, congrArg Nat.succ hstop⟩
      · exact .inr ⟨n, hn, by rw [hstop, Nat.add_right_comm]⟩

/-- A match is taken as a whole, unless it is taken for a URL. -/
theorem length_pieceOf (before : Char) (quotes : Nat) (after : Char) (w : Text) :
    (pieceOf before quotes after w).2 =
      if looksLikeUrl w then (trimUrl w).length else w.length := by
  unfold pieceOf
  split
  · rfl
  · split
    · rfl
    · split
      · rfl
      · rfl

/-- A pass that comes to a match takes the reference that begins there. -/
theorem exists_reference_of_nextMatch {t : Text} {n : Nat} (before : Char) (quotes : Nat)
    (hmatch : matchLength? (t.drop (nextMatch t).1) = some n)
    (hstop : (nextMatch t).2 = (nextMatch t).1 + n) :
    ∃ found, reference? before quotes (t.drop (nextMatch t).1) = some found ∧
      passEnd t = (nextMatch t).1 + found.2 := by
  rw [reference?_eq_pieceOf, hmatch, passEnd, hstop, cutEnd, drop_take_add]
  have hlength := (matchLength?_cases hmatch).1
  refine ⟨_, rfl, ?_⟩
  rw [length_pieceOf]
  split
  · rfl
  · rw [hlength]

/-- **The scan comes to the end of each pass**, which takes one character at least. -/
theorem Reaches.afterPass {line : Text} {ps : List Piece} {before : Char} {t : Text}
    (h : Reaches line ps before t) (ht : t ≠ []) :
    (afterPass t).length < t.length ∧
      ∃ qs before', Reaches line (ps ++ qs) before' (afterPass t) := by
  obtain ⟨qs, before', hreach, hend⟩ := h.nextMatch
  rcases hend with ⟨hnil, hstop⟩ | ⟨n, hmatch, hstop⟩
  · have hpass : Prose.afterPass t = [] := by
      have hempty : (t.take (Prose.nextMatch t).1).drop (Prose.nextMatch t).1 = [] :=
        List.drop_eq_nil_of_le (List.length_take_le _ _)
      rw [Prose.afterPass, passEnd, hstop, hempty, if_neg (by decide), hnil]
    rw [hpass]
    rw [hnil] at hreach
    exact ⟨List.length_pos_of_ne_nil ht, qs, before', hreach⟩
  · obtain ⟨⟨p, k⟩, href, hpass⟩ := exists_reference_of_nextMatch before'
      (countQuotes ((ps ++ qs).flatMap Piece.shown)) hmatch hstop
    have hne : t.drop (Prose.nextMatch t).1 ≠ [] := by
      intro hnil
      rw [hnil] at hmatch
      cases hmatch
    have hstep := step_of_reference? hne href
    rw [List.drop_drop, ← hpass] at hstep
    refine ⟨hstep.length_lt.trans_le ((List.drop_suffix _ _).length_le), qs ++ [p], before', ?_⟩
    rw [← List.append_assoc]
    exact hreach.step hstep

/-- **A pass takes a character** at least. -/
theorem length_afterPass_lt {t : Text} (ht : t ≠ []) : (afterPass t).length < t.length :=
  (Reaches.start.afterPass ht).1

/-- Nothing is left of nothing. -/
theorem afterPass_nil : afterPass [] = [] := List.drop_nil

/-- The passes over a line are stages of its scan. -/
theorem reaches_iterate_afterPass (line : Text) (k : Nat) :
    ∃ ps before, Reaches line ps before (afterPass^[k] line) := by
  induction k with
  | zero => exact ⟨[], '\x00', .start⟩
  | succ k ih =>
    obtain ⟨ps, before, h⟩ := ih
    rw [Function.iterate_succ_apply']
    by_cases hnil : afterPass^[k] line = []
    · rw [hnil] at h ⊢
      exact ⟨ps, before, h⟩
    · obtain ⟨-, qs, before', hreach⟩ := h.afterPass hnil
      exact ⟨ps ++ qs, before', hreach⟩

/-- Each pass makes what is left shorter, until nothing is. -/
theorem length_iterate_afterPass_le (line : Text) (k : Nat) :
    (afterPass^[k] line).length ≤ line.length - k := by
  induction k with
  | zero => exact Nat.le_refl _
  | succ k ih =>
    rw [Function.iterate_succ_apply']
    by_cases hnil : afterPass^[k] line = []
    · rw [hnil, afterPass_nil]
      exact Nat.zero_le _
    · have hlt := length_afterPass_lt hnil
      omega

/-- **URLs are cut behind their scheme, and the passes over a line end.** A URL that matches anywhere
in a text ends behind its scheme when it is cut, at its end just if its brackets are in order, and
else before a bracket. Each pass over a line takes a character at least, no more of them are made
than the line has characters, and they are stages of the scan that gives the pieces of the line. -/
theorem urls_cut_and_passes_end :
    (∀ (t : Text) (start n : Nat), urlLength? (t.drop start) = some n →
      CutAt t start (start + n) (cutEnd t start (start + n))) ∧
    ∀ line : Text,
      (∀ k, afterPass^[k] (convertQuotes line) ≠ [] →
        (afterPass^[k + 1] (convertQuotes line)).length <
          (afterPass^[k] (convertQuotes line)).length) ∧
      (∃ k ≤ (convertQuotes line).length, afterPass^[k] (convertQuotes line) = []) ∧
      ∀ k, ∃ ps before,
        Reaches (convertQuotes line) ps before (afterPass^[k] (convertQuotes line)) := by
  refine ⟨fun t start n => cutAt_cutEnd, fun line => ⟨fun k hk => ?_, ?_, ?_⟩⟩
  · rw [Function.iterate_succ_apply']
    exact length_afterPass_lt hk
  · have hle := length_iterate_afterPass_le (convertQuotes line) (convertQuotes line).length
    rw [Nat.sub_self, Nat.le_zero, List.length_eq_zero_iff] at hle
    exact ⟨_, Nat.le_refl _, hle⟩
  · exact reaches_iterate_afterPass (convertQuotes line)

/-- A URL in parentheses, with brackets of both kinds. -/
def enclosedUrl : Text := Text.of "(http://a.b/c_(d)[1])."

/-- Only the bracket that closes the parentheses is cut off. -/
theorem urls_cut_and_passes_end_enclosedUrl :
    urlLength? (enclosedUrl.drop 1) = some 20 ∧ CutAt enclosedUrl 1 21 20 ∧
      afterPass^[4] enclosedUrl = [] := by
  have hurl : urlLength? (enclosedUrl.drop 1) = some 20 := by decide +kernel
  have hend : cutEnd enclosedUrl 1 21 = 20 := by decide +kernel
  have hcut := urls_cut_and_passes_end.1 enclosedUrl 1 20 hurl
  rw [hend] at hcut
  exact ⟨hurl, hcut, by decide +kernel⟩

end Prose
end ApiPage
