import ApiPage.Proofs.Line

/-!
# URLs of a line

A URL is a scheme with `://`, a host and a path. What matches at the start of a text may hold
brackets that belong to the sentence around it, so the match is cut back: before the first closing
bracket, if an opening one comes only behind it, and then before the last bracket, again and again
until those of a kind balance in number or the cuts of the kind are used up. Round brackets come
first, and nothing is looked at again when the square ones are cut.

## Main definitions

* `Prose.IsUrl`: a text with the parts of a URL.
* `Prose.CutBefore`: a text cut before one of some characters, or not cut at all.
* `Prose.countBrackets`: the number of brackets of a kind.
* `Prose.roundTrimmed`: a URL before its square brackets are balanced.

## Main results

* `Prose.exists_of_urlLength?`: what matches as a URL has the parts of one.
* `Prose.cutBefore_trimUrl`: a URL is cut before a bracket only.
* `Prose.IsUrl.isPrefix_trimUrl`: a URL keeps its scheme.
* `Prose.balanceBrackets_balances`: brackets balance, or all cuts are made.
-/

namespace ApiPage.Prose

/-! ### The parts of a URL -/

/-- **The end of a path**: it is empty, or ends in a character that may end one. -/
def EndsPath (path : Text) : Prop := ∀ c ∈ path.getLast?, isPathChar c

/-- **A URL and its parts**: a scheme, a host that is not empty, and a path. -/
structure IsUrl (scheme host path m : Text) : Prop where
  eq : m = scheme ++ Text.of "://" ++ host ++ path
  scheme_mem : scheme ∈ schemes
  host_ne_nil : host ≠ []
  host_chars : ∀ c ∈ host, isHostChar c
  endsPath : EndsPath path

/-- A path takes no punctuation without the path character behind it. -/
theorem pathLength_cases (stops : Nat) (t : Text) :
    pathLength stops t = 0 ∨ ∃ a c b, t = a ++ c :: b ∧ isPathChar c ∧
      pathLength stops t = stops + a.length + 1 := by
  induction t generalizing stops with
  | nil => exact .inl rfl
  | cons c t ih =>
    rw [pathLength]
    split
    · next hc =>
      rcases ih 0 with hzero | ⟨a, d, b, rfl, hd, hlength⟩
      · exact .inr ⟨[], c, t, rfl, hc, by rw [hzero]; rfl⟩
      · refine .inr ⟨c :: a, d, b, rfl, hd, ?_⟩
        rw [hlength, List.length_cons]
        omega
    · split
      · rcases ih (stops + 1) with hzero | ⟨a, d, b, rfl, hd, hlength⟩
        · exact .inl hzero
        · refine .inr ⟨c :: a, d, b, rfl, hd, ?_⟩
          rw [hlength, List.length_cons]
          omega
      · exact .inl rfl

/-- A path that is matched ends as a path may. -/
theorem endsPath_take (t : Text) : EndsPath (t.take (pathLength 0 t)) := by
  rcases pathLength_cases 0 t with hzero | ⟨a, c, b, rfl, hc, hlength⟩
  · rw [hzero]
    simp [EndsPath]
  · have htake : (a ++ c :: b).take (0 + a.length + 1) = a ++ [c] := by
      rw [Nat.zero_add, List.append_cons]
      exact List.take_left' (by simp)
    rw [hlength, htake]
    simpa [EndsPath] using hc

/-- A path is no longer than the text. -/
theorem pathLength_le_length (t : Text) : pathLength 0 t ≤ t.length := by
  rcases pathLength_cases 0 t with hzero | ⟨a, c, b, rfl, -, hlength⟩
  · omega
  · rw [hlength, List.length_append, List.length_cons]
    omega

/-- **What matches as a URL has the parts of one**: the host is the run of its characters, and the
path is taken off what follows them. -/
theorem exists_of_urlLength? {t : Text} {n : Nat} (h : urlLength? t = some n) :
    ∃ scheme host path m rest, IsUrl scheme host path m ∧ t = m ++ rest ∧ n = m.length := by
  rw [urlLength?] at h
  split at h
  · cases h
  · next k r hafter =>
    obtain ⟨s, hs, hmap⟩ := List.exists_of_findSome?_eq_some hafter
    obtain ⟨r', hr, hk⟩ := Option.map_eq_some_iff.mp hmap
    obtain ⟨rfl, rfl⟩ := Prod.mk.inj hk
    dsimp only at h
    split at h
    · cases h
    · next hhost =>
      obtain rfl := Option.some.inj h
      rw [Text.drop_length_takeWhile]
      have hlength : (Text.of "://").length = 3 := rfl
      have hpath := List.length_take_of_le (pathLength_le_length (r'.dropWhile isHostChar))
      refine ⟨s, r'.takeWhile isHostChar, _, _,
        (r'.dropWhile isHostChar).drop (pathLength 0 (r'.dropWhile isHostChar)),
        ⟨rfl, hs, fun hnil => hhost (by rw [hnil]; rfl), fun c hc => List.mem_takeWhile_imp hc,
          endsPath_take (r'.dropWhile isHostChar)⟩, ?_, ?_⟩
      · simp only [Text.eq_of_dropPrefix? hr, List.append_assoc, List.take_append_drop,
          List.takeWhile_append_dropWhile]
      · rw [List.length_append, List.length_append, List.length_append, hlength, hpath]

/-- **What is matched is a URL**: a scheme, a host and a path. -/
theorem isUrl_of_urlLength? {t : Text} {n : Nat} (h : urlLength? t = some n) :
    ∃ scheme host path, IsUrl scheme host path (t.take n) := by
  obtain ⟨scheme, host, path, m, rest, hurl, rfl, rfl⟩ := exists_of_urlLength? h
  rw [List.take_left' rfl]
  exact ⟨scheme, host, path, hurl⟩

/-- A URL is no longer than the text. -/
theorem urlLength?_le_length {t : Text} {n : Nat} (h : urlLength? t = some n) : n ≤ t.length := by
  obtain ⟨-, -, -, m, rest, -, rfl, rfl⟩ := exists_of_urlLength? h
  exact (List.prefix_append m rest).length_le

/-! ### Cuts before a bracket -/

/-- **Cut before one of `bs`**: `u` is all of `t`, or what comes in `t` before one of these
characters. -/
def CutBefore (bs u t : Text) : Prop := u = t ∨ ∃ b ∈ bs, u ++ [b] <+: t

namespace CutBefore

variable {bs cs u v t : Text}

/-- A text that is not cut. -/
theorem refl (bs t : Text) : CutBefore bs t t := .inl rfl

/-- What is cut is a beginning of the text. -/
theorem isPrefix (h : CutBefore bs u t) : u <+: t := by
  rcases h with rfl | ⟨b, -, h⟩
  · exact List.prefix_rfl
  · exact (List.prefix_append u [b]).trans h

/-- A text that is cut twice ends where the second cut is made, or where the first is. -/
theorem trans (h : CutBefore bs u v) (h' : CutBefore bs v t) : CutBefore bs u t := by
  rcases h with rfl | ⟨b, hb, h⟩
  · exact h'
  · exact .inr ⟨b, hb, h.trans h'.isPrefix⟩

/-- A cut before one of some brackets is one before any of more. -/
theorem mono (hbs : bs ⊆ cs) (h : CutBefore bs u t) : CutBefore cs u t :=
  h.imp_right fun ⟨b, hb, hu⟩ => ⟨b, hbs hb, hu⟩

/-- A cut leaves what stands at the start of a text and has none of the characters. -/
theorem isPrefix_of_avoids (h : CutBefore bs u t) (hv : v <+: t) (havoids : ∀ b ∈ bs, b ∉ v) :
    v <+: u := by
  rcases h with rfl | ⟨b, hb, h⟩
  · exact hv
  · have hmem : b ∈ u ++ [b] := List.mem_append_right u List.mem_cons_self
    rcases List.prefix_or_prefix_of_prefix hv h with hvu | huv
    · rcases List.prefix_concat_iff.mp hvu with rfl | hvu
      · exact absurd hmem (havoids b hb)
      · exact hvu
    · exact absurd (huv.subset hmem) (havoids b hb)

end CutBefore

section Brackets

variable {opener closer : Char}

/-- A closer that comes before any opener: the text is cut before it, or not at all. -/
theorem cutBefore_cutStrayCloser (opener closer : Char) (t : Text) :
    CutBefore [opener, closer] (cutStrayCloser opener closer t) t := by
  rw [cutStrayCloser]
  split
  · next before after hcut =>
    split
    · refine .inr ⟨closer, by simp, ⟨after, ?_⟩⟩
      rw [Text.eq_of_cutAt? hcut, List.append_assoc, List.singleton_append]
    · exact CutBefore.refl _ t
  · exact CutBefore.refl _ t

/-- **A cut at the last bracket** of a text that has one. -/
theorem exists_cutLastBracket {t : Text} (h : opener ∈ t ∨ closer ∈ t) :
    ∃ b r, t = cutLastBracket opener closer t ++ b :: r ∧ (b = opener ∨ b = closer) ∧
      opener ∉ r ∧ closer ∉ r := by
  have hany : (t.any fun c => c == opener || c == closer) = true := by
    rw [List.any_eq_true]
    rcases h with h | h
    · exact ⟨opener, h, by simp⟩
    · exact ⟨closer, h, by simp⟩
  rw [cutLastBracket, if_pos hany]
  have hsplit := List.takeWhile_append_dropWhile
    (p := fun c => !(c == opener || c == closer)) (l := t.reverse)
  have hlast := List.head?_dropWhile_not (fun c => !(c == opener || c == closer)) t.reverse
  have hbefore : ∀ c ∈ t.reverse.takeWhile (fun c => !(c == opener || c == closer)),
      c ≠ opener ∧ c ≠ closer := by
    intro c hc
    simpa using List.mem_takeWhile_imp hc
  cases hrest : t.reverse.dropWhile (fun c => !(c == opener || c == closer)) with
  | nil =>
    rw [List.dropWhile_eq_nil_iff] at hrest
    obtain ⟨c, hc, hbracket⟩ := List.any_eq_true.mp hany
    have hnot := hrest c (List.mem_reverse.mpr hc)
    rw [hbracket] at hnot
    cases hnot
  | cons b s =>
    rw [hrest] at hsplit hlast
    refine ⟨b, (t.reverse.takeWhile fun c => !(c == opener || c == closer)).reverse, ?_,
      by simpa [or_iff_not_imp_left] using hlast, ?_, ?_⟩
    · calc t = t.reverse.reverse := t.reverse_reverse.symm
        _ = s.reverse ++ b :: (t.reverse.takeWhile _).reverse := by
          conv_lhs => rw [← hsplit, List.reverse_append, List.reverse_cons, List.append_assoc]
          rfl
    · exact fun hmem => (hbefore _ (List.mem_reverse.mp hmem)).1 rfl
    · exact fun hmem => (hbefore _ (List.mem_reverse.mp hmem)).2 rfl

/-- A text is cut before the last bracket. -/
theorem cutBefore_cutLastBracket (opener closer : Char) (t : Text) :
    CutBefore [opener, closer] (cutLastBracket opener closer t) t := by
  by_cases h : opener ∈ t ∨ closer ∈ t
  · obtain ⟨b, r, ht, hb, -⟩ := exists_cutLastBracket h
    refine .inr ⟨b, by simpa using hb, ⟨r, ?_⟩⟩
    rw [List.append_assoc, List.singleton_append, ← ht]
  · refine .inl (if_neg fun hany => h ?_)
    obtain ⟨c, hc, hbracket⟩ := List.any_eq_true.mp hany
    rcases Bool.or_eq_true_iff.mp hbracket with heq | heq
    · exact .inl (eq_of_beq heq ▸ hc)
    · exact .inr (eq_of_beq heq ▸ hc)

/-- Balancing cuts before a bracket, or nothing. -/
theorem cutBefore_balanceBrackets (opener closer : Char) (n : Nat) (t : Text) :
    CutBefore [opener, closer] (balanceBrackets opener closer n t) t := by
  induction n generalizing t with
  | zero => exact CutBefore.refl _ t
  | succ n ih =>
    rw [balanceBrackets]
    split
    · exact CutBefore.refl _ t
    · exact (ih _).trans (cutBefore_cutLastBracket opener closer t)

/-! ### Numbers of brackets -/

/-- **The number of brackets** of a kind in a text. -/
def countBrackets (opener closer : Char) (t : Text) : Nat := t.count opener + t.count closer

/-- A beginning of a text has no more brackets. -/
theorem countBrackets_le_of_isPrefix {u t : Text} (h : u <+: t) :
    countBrackets opener closer u ≤ countBrackets opener closer t :=
  Nat.add_le_add (h.count_le opener) (h.count_le closer)

/-- A cut at the last bracket takes one bracket away. -/
theorem countBrackets_cutLastBracket (hne : opener ≠ closer) {t : Text}
    (h : opener ∈ t ∨ closer ∈ t) :
    countBrackets opener closer (cutLastBracket opener closer t) + 1 =
      countBrackets opener closer t := by
  obtain ⟨b, r, ht, hb, ho, hc⟩ := exists_cutLastBracket h
  have ho := List.count_eq_zero.mpr ho
  have hc := List.count_eq_zero.mpr hc
  have hcount : countBrackets opener closer t = countBrackets opener closer
      (cutLastBracket opener closer t ++ b :: r) := congrArg _ ht
  rw [hcount]
  rcases hb with rfl | rfl
  · simp only [countBrackets, List.count_append, List.count_cons_self, ho, hc,
      List.count_cons_of_ne hne]
    omega
  · simp only [countBrackets, List.count_append, List.count_cons_self, ho, hc,
      List.count_cons_of_ne hne.symm]
    omega

/-- **Brackets balance, or all cuts are made**, each of which takes one bracket away. -/
theorem balanceBrackets_balances (hne : opener ≠ closer) (n : Nat) (t : Text) :
    (balanceBrackets opener closer n t).count opener =
        (balanceBrackets opener closer n t).count closer ∨
      countBrackets opener closer (balanceBrackets opener closer n t) + n =
        countBrackets opener closer t := by
  induction n generalizing t with
  | zero => exact .inr rfl
  | succ n ih =>
    rw [balanceBrackets]
    split
    · next heq => exact .inl heq
    · next hneq =>
      have hbracket : opener ∈ t ∨ closer ∈ t := by
        by_contra hnone
        rw [not_or] at hnone
        rw [List.count_eq_zero.mpr hnone.1, List.count_eq_zero.mpr hnone.2] at hneq
        exact hneq rfl
      rcases ih (cutLastBracket opener closer t) with hbalanced | hcuts
      · exact .inl hbalanced
      · have hone := countBrackets_cutLastBracket hne hbracket
        exact .inr (by omega)

/-- Balanced brackets are left alone. -/
theorem balanceBrackets_of_balanced {t : Text} (h : t.count opener = t.count closer) (n : Nat) :
    balanceBrackets opener closer n t = t := by
  cases n with
  | zero => rfl
  | succ n => rw [balanceBrackets, if_pos h]

end Brackets

/-! ### Trimmed URLs -/

/-- The brackets before which a URL is cut. -/
def brackets : Text := Text.of "()[]"

/-- **A URL whose round brackets are balanced**, before the square ones are. -/
def roundTrimmed (t : Text) : Text :=
  balanceBrackets '(' ')' bracketFixes (cutStrayCloser '[' ']' (cutStrayCloser '(' ')' t))

/-- The square brackets are balanced last. -/
theorem trimUrl_eq (t : Text) :
    trimUrl t = balanceBrackets '[' ']' bracketFixes (roundTrimmed t) := rfl

/-- Whatever is cut before that is cut before a bracket, or nothing is. -/
theorem cutBefore_roundTrimmed (t : Text) : CutBefore brackets (roundTrimmed t) t := by
  have hround : ['(', ')'] ⊆ brackets := by decide
  have hsquare : ['[', ']'] ⊆ brackets := by decide
  exact ((cutBefore_balanceBrackets _ _ _ _).mono hround).trans <|
    ((cutBefore_cutStrayCloser _ _ _).mono hsquare).trans <|
    (cutBefore_cutStrayCloser _ _ _).mono hround

/-- **A URL is cut before a bracket only**. -/
theorem cutBefore_trimUrl (t : Text) : CutBefore brackets (trimUrl t) t := by
  have hsquare : ['[', ']'] ⊆ brackets := by decide
  exact ((cutBefore_balanceBrackets _ _ _ _).mono hsquare).trans (cutBefore_roundTrimmed t)

/-- **A URL keeps its scheme**, in which there is no bracket. -/
theorem IsUrl.isPrefix_trimUrl {scheme host path m : Text} (h : IsUrl scheme host path m) :
    scheme ++ Text.of "://" <+: trimUrl m := by
  have hall : (schemes.all fun s => (s ++ Text.of "://").all (!brackets.contains ·)) = true := by
    decide
  have hscheme := List.all_eq_true.mp (List.all_eq_true.mp hall scheme h.scheme_mem)
  refine (cutBefore_trimUrl m).isPrefix_of_avoids ?_ fun b hb hmem => ?_
  · rw [h.eq, List.append_assoc (scheme ++ _)]
    exact List.prefix_append _ _
  · have hnot := hscheme b hmem
    rw [List.contains_iff_mem.mpr hb] at hnot
    cases hnot

/-- Something is left of a URL. -/
theorem IsUrl.trimUrl_ne_nil {scheme host path m : Text} (h : IsUrl scheme host path m) :
    trimUrl m ≠ [] := by
  intro hnil
  have hstart := h.isPrefix_trimUrl
  rw [hnil, List.prefix_nil, List.append_eq_nil_iff] at hstart
  exact absurd hstart.2 (by decide)

end ApiPage.Prose
