import ApiPage.Proofs.Scanning

/-!
# URLs that are linked

A URL is linked without the brackets of the sentence around it. Ten cuts are made at most for a kind
of bracket, and no more are needed where there are not more than ten brackets of the kind. The cuts
for square brackets come last and may take one of a pair of round ones away.

No path ends in punctuation, so that a sentence may end in a URL; but a host may, and so may what is
left of a URL that is cut.

## Main definitions

* `Prose.BalancesWithin`: brackets balance, as far as a number of cuts allows.

## Main results

* `Prose.balances_of_linksUrl`: the brackets of a URL that is linked.
* `Prose.not_balanced_deepBrackets`: ten cuts may be too few.
* `Prose.punctuation_of_linksUrl`: which URLs that are linked end in punctuation.
* `Prose.exists_punctuation_hostSentence`: a host takes the full stop of its sentence.
-/

namespace ApiPage.Prose

variable {line front url cut rest : Text}

/-! ### Brackets -/

/-- **Brackets balance within some cuts**: `u` has as many closing as opening ones, or at least so
many brackets of `t` are cut off as there are cuts. -/
def BalancesWithin (opener closer : Char) (cuts : Nat) (u t : Text) : Prop :=
  u.count opener = u.count closer ∨
    countBrackets opener closer u + cuts ≤ countBrackets opener closer t

/-- What is cut until it balances has balanced, or all cuts were made. -/
theorem balancesWithin_balanceBrackets {opener closer : Char} (hne : opener ≠ closer) (n : Nat)
    {t m : Text} (h : t <+: m) :
    BalancesWithin opener closer n (balanceBrackets opener closer n t) m := by
  have hle : countBrackets opener closer t ≤ countBrackets opener closer m :=
    countBrackets_le_of_isPrefix h
  exact (balanceBrackets_balances hne n t).imp_right fun hcuts => by omega

/-- Round brackets balance within the cuts there are. -/
theorem balancesWithin_roundTrimmed (t : Text) :
    BalancesWithin '(' ')' bracketFixes (roundTrimmed t) t :=
  balancesWithin_balanceBrackets (by decide) _
    ((cutStrayCloser_isPrefix _ _ _).trans (cutStrayCloser_isPrefix _ _ _))

/-- Square brackets balance within the cuts there are. -/
theorem balancesWithin_trimUrl (t : Text) : BalancesWithin '[' ']' bracketFixes (trimUrl t) t :=
  balancesWithin_balanceBrackets (by decide) _ (cutBefore_roundTrimmed t).isPrefix

/-- **The brackets of a URL that is linked**. The square ones balance, unless all cuts for them are
made. So do the round ones, if what the cuts for square brackets take away at last has as many
opening as closing ones; they take nothing away where the square brackets balance before. -/
theorem balances_of_linksUrl (h : LinksUrl (convertQuotes line) front url cut rest) :
    BalancesWithin '[' ']' bracketFixes url (url ++ cut) ∧
    ∃ last, roundTrimmed (url ++ cut) = url ++ last ∧
      ((url ++ last).count '[' = (url ++ last).count ']' → last = []) ∧
      (last.count '(' = last.count ')' →
        BalancesWithin '(' ')' bracketFixes url (url ++ cut)) := by
  have htrim := h.trimUrl_eq
  have hsquare := balancesWithin_trimUrl (url ++ cut)
  have hround := balancesWithin_roundTrimmed (url ++ cut)
  rw [htrim] at hsquare
  rw [trimUrl_eq] at htrim
  obtain ⟨last, hlast⟩ := (cutBefore_balanceBrackets '[' ']' bracketFixes _).isPrefix
  rw [htrim] at hlast
  refine ⟨hsquare, last, hlast.symm, fun hbalanced => ?_, fun hcount => ?_⟩
  · rw [hlast] at hbalanced
    rw [balanceBrackets_of_balanced hbalanced, ← hlast] at htrim
    simpa using htrim
  · rw [← hlast] at hround
    simp only [BalancesWithin, countBrackets, List.count_append] at hround ⊢
    omega

/-- A sentence whose URL has brackets of both kinds, and ends inside brackets. -/
def nestedBrackets : Text := Text.of "(http://a.b/c_(d)[1])."

/-- A URL in parentheses, with brackets of its own. -/
theorem balances_of_linksUrl_nestedBrackets :
    ∃ url, LinksUrl (convertQuotes nestedBrackets) ['('] url [')'] ['.'] ∧
      BalancesWithin '[' ']' bracketFixes url (url ++ [')']) ∧
      ∃ last, roundTrimmed (url ++ [')']) = url ++ last ∧
        ((url ++ last).count '[' = (url ++ last).count ']' → last = []) ∧
        (last.count '(' = last.count ')' →
          BalancesWithin '(' ')' bracketFixes url (url ++ [')'])) := by
  have hlinks : LinksUrl (convertQuotes nestedBrackets) ['('] (Text.of "http://a.b/c_(d)[1]")
      [')'] ['.'] :=
    ⟨[.plain ['(']], [.plain [')'], .plain ['.']], by decide +kernel, rfl, rfl, by decide +kernel⟩
  exact ⟨_, hlinks, balances_of_linksUrl hlinks⟩

/-- A URL with six opening and five closing brackets, one inside the other. -/
def deepBrackets : Text := Text.of "http://a/(((((()))))"

/-- **Ten cuts may be too few**, though there are no ten brackets of either kind: one of eleven is
left. -/
theorem not_balanced_deepBrackets :
    ∃ front url cut rest, LinksUrl (convertQuotes deepBrackets) front url cut rest ∧
      (∀ b ∈ brackets, (url ++ cut).count b ≤ 10) ∧ url.count '(' ≠ url.count ')' := by
  refine ⟨[], Text.of "http://a/(", Text.of "((((()))))", [],
    ⟨[], (pieces (convertQuotes deepBrackets)).drop 1, ?_, rfl, ?_, ?_⟩, ?_, ?_⟩
  · decide +kernel
  · decide +kernel
  · decide +kernel
  · have hall : (brackets.all fun b =>
        decide ((Text.of "http://a/(" ++ Text.of "((((()))))").count b ≤ 10)) = true := by decide
    exact fun b hb => of_decide_eq_true (List.all_eq_true.mp hall b hb)
  · decide

/-! ### Punctuation -/

/-- Punctuation that may not end a path is none of its other characters. -/
theorem isPathChar_of_isPathStop {c : Char} (h : isPathStop c) : isPathChar c = false := by
  have hall : ((Text.of ".,:;?!").all fun c => !isPathChar c) = true := by decide
  simpa using List.all_eq_true.mp hall c (List.contains_iff_mem.mp h)

/-- What is cut off a URL begins with a bracket. -/
theorem LinksUrl.cut_cases (h : LinksUrl line front url cut rest) :
    cut = [] ∨ ∃ b ∈ brackets, cut.head? = some b := by
  have hcut := cutBefore_trimUrl (url ++ cut)
  rw [h.trimUrl_eq] at hcut
  rcases hcut with heq | ⟨b, hb, hstart⟩
  · exact .inl (List.self_eq_append_right.mp heq)
  · obtain ⟨r, rfl⟩ := (List.prefix_append_right_inj url).mp hstart
    exact .inr ⟨b, hb, rfl⟩

/-- **Which URLs that are linked end in punctuation**: those that are cut before a bracket behind
it, and those of a host without a path, whose last character it is. -/
theorem punctuation_of_linksUrl (h : LinksUrl (convertQuotes line) front url cut rest) :
    ∀ c ∈ url.getLast?, isPathStop c →
      (∃ b ∈ brackets, cut.head? = some b) ∨
        cut = [] ∧ ∃ scheme host, IsUrl scheme host [] url ∧ isHostChar c := by
  intro c hc hstop
  rcases h.cut_cases with rfl | hbracket
  · obtain ⟨scheme, host, path, hurl⟩ := h.exists_isUrl
    rw [List.append_nil] at hurl
    rw [hurl.eq] at hc
    by_cases hpath : path = []
    · subst hpath
      rw [List.append_nil, List.getLast?_append_of_ne_nil _ hurl.host_ne_nil] at hc
      exact .inr ⟨rfl, scheme, host, hurl, hurl.host_chars c (List.mem_of_getLast? hc)⟩
    · rw [List.getLast?_append_of_ne_nil _ hpath] at hc
      have hchar := hurl.endsPath c hc
      rw [isPathChar_of_isPathStop hstop] at hchar
      cases hchar
  · exact .inl hbracket

/-- A sentence with a URL that is cut behind a full stop. -/
def bracketSentence : Text := Text.of "See http://a.b/c.(d"

/-- A full stop that a bracket behind it leaves in the link. -/
theorem punctuation_of_linksUrl_bracketSentence :
    LinksUrl (convertQuotes bracketSentence) (Text.of "See ") (Text.of "http://a.b/c.")
        (Text.of "(d") [] ∧
      isPathStop '.' ∧ '.' ∈ (Text.of "http://a.b/c.").getLast? ∧
      ((∃ b ∈ brackets, (Text.of "(d").head? = some b) ∨
        Text.of "(d" = [] ∧ ∃ scheme host, IsUrl scheme host [] (Text.of "http://a.b/c.") ∧
          isHostChar '.') := by
  have hlinks : LinksUrl (convertQuotes bracketSentence) (Text.of "See ")
      (Text.of "http://a.b/c.") (Text.of "(d") [] :=
    ⟨[.name (Text.of "See"), .plain [' ']], [.plain ['('], .name ['d']], by decide +kernel, rfl,
      rfl, by decide +kernel⟩
  exact ⟨hlinks, by decide, rfl, punctuation_of_linksUrl hlinks '.' rfl (by decide)⟩

/-- A sentence that ends in a URL without a path. -/
def hostSentence : Text := Text.of "See http://example.com."

/-- **A host takes the full stop of its sentence** into the link. -/
theorem exists_punctuation_hostSentence :
    ∃ front url cut rest, LinksUrl (convertQuotes hostSentence) front url cut rest ∧
      '.' ∈ url.getLast? ∧ isPathStop '.' :=
  ⟨Text.of "See ", Text.of "http://example.com.", [], [],
    ⟨[.name (Text.of "See"), .plain [' ']], [], by decide +kernel, rfl, rfl, by decide +kernel⟩,
    rfl, by decide⟩

end ApiPage.Prose
