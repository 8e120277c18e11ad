import ApiPage.Proofs.Blocks

/-!
# The grammar of titles

A line is a title, once stripped, if it begins with a capital, ends in a letter or digit and holds
no barred character, and if what stands behind each of its apostrophes and periods is in order. The
two tests for these characters look at one occurrence after another; each of them amounts to a
condition on all the ways to cut the line at such a character.

## Main definitions

* `Prose.IsPossessive`: what stands behind an apostrophe.
* `Prose.IsTitle`: the form of a title.

## Main results

* `Prose.possessivesOnly_iff`, `Prose.periodsInside_iff`: the two tests look at every occurrence.
* `Prose.title_iff_isTitle`: a line is taken for a title exactly if it is one.
-/

namespace ApiPage.Prose

variable {c d : Char} {l r t : Text}

/-! ### Occurrences of a character -/

/-- The places of a character are the first one, if it stands there, and those in the rest. -/
theorem forall_cut_cons {P : Text → Prop} :
    (∀ u v, c :: r = u ++ d :: v → P v) ↔ (c = d → P r) ∧ ∀ u v, r = u ++ d :: v → P v := by
  constructor
  · intro h
    constructor
    · rintro rfl
      exact h [] r rfl
    · rintro u v rfl
      exact h (c :: u) v rfl
  · rintro ⟨hfirst, hrest⟩ u v h
    cases u with
    | nil =>
      obtain ⟨rfl, rfl⟩ := List.cons.inj h
      exact hfirst rfl
    | cons b u =>
      obtain ⟨rfl, rfl⟩ := List.cons.inj h
      exact hrest u v rfl

/-- **Behind a possessive apostrophe**: an `s`, and then a space or the end. -/
def IsPossessive (v : Text) : Prop := v = ['s'] ∨ ∃ w, v = 's' :: ' ' :: w

/-- An apostrophe has to begin a possessive. -/
theorem possessivesOnly_apostrophe (r : Text) :
    possessivesOnly ('\'' :: r) = true ↔ IsPossessive r ∧ possessivesOnly r = true := by
  by_cases hr : IsPossessive r
  · rw [and_iff_right hr]
    obtain rfl | ⟨w, rfl⟩ := hr
    · rw [possessivesOnly, Bool.true_and]
    · rw [possessivesOnly, Bool.true_and]
  · rw [possessivesOnly, Bool.false_and]
    · simp [hr]
    · exact fun h => hr (.inl h)
    · exact fun w h => hr (.inr ⟨w, h⟩)

/-- **Every apostrophe** is looked at. -/
theorem possessivesOnly_iff (t : Text) :
    possessivesOnly t = true ↔ ∀ u v, t = u ++ '\'' :: v → IsPossessive v := by
  induction t with
  | nil => simp [possessivesOnly]
  | cons c r ih =>
    rw [forall_cut_cons, ← ih]
    by_cases hc : c = '\''
    · subst hc
      rw [possessivesOnly_apostrophe, imp_iff_right rfl]
    · simp [possessivesOnly, hc]

/-- **Every period** is looked at. -/
theorem periodsInside_iff (t : Text) :
    periodsInside t = true ↔ ∀ u v, t = u ++ '.' :: v → ∃ c w, v = c :: w ∧ c ≠ ' ' := by
  induction t with
  | nil => simp [periodsInside]
  | cons c r ih =>
    rw [forall_cut_cons, ← ih]
    by_cases hc : c = '.'
    · subst hc
      cases r with
      | nil => simp [periodsInside]
      | cons c r => simp [periodsInside]
    · simp [periodsInside, hc]

/-! ### Titles -/

/-- **The form of a title.** -/
structure IsTitle (t : Text) : Prop where
  capital : ∃ c r, t = c :: r ∧ Text.isAlpha c.toNat = true ∧ Text.isUpper c.toNat = true
  last : ∃ r z, t = r ++ [z] ∧ (Text.isAlpha z.toNat = true ∨ Text.isDigit z.toNat = true)
  unbarred : ∀ c ∈ t, c ∉ titleBarred
  possessives : ∀ u v, t = u ++ '\'' :: v → IsPossessive v
  periods : ∀ u v, t = u ++ '.' :: v → ∃ c w, v = c :: w ∧ c ≠ ' '

/-- A title is its line, stripped, if that has the form of one. -/
theorem title?_eq_some_iff : title? l = some t ↔ t = Text.strip l ∧ IsTitle t := by
  rw [title?]
  constructor
  · intro h
    split at h
    · next c r z hcons hlast =>
      split at h
      · next hform =>
        obtain rfl := Option.some.inj h
        simp only [Bool.and_eq_true, Bool.or_eq_true] at hform
        obtain ⟨⟨⟨⟨hcapital, hz⟩, hbarred⟩, hpossessives⟩, hperiods⟩ := hform
        obtain ⟨r', hr'⟩ := List.getLast?_eq_some_iff.mp hlast
        exact ⟨rfl, ⟨c, r, hcons, hcapital⟩, ⟨r', z, hr', hz⟩, by simpa using hbarred,
          (possessivesOnly_iff _).mp hpossessives, (periodsInside_iff _).mp hperiods⟩
      · cases h
    · cases h
  · rintro ⟨rfl, htitle⟩
    obtain ⟨c, r, hcons, hcapital⟩ := htitle.capital
    obtain ⟨r', z, hr', hz⟩ := htitle.last
    have hlast : (Text.strip l).getLast? = some z := by rw [hr', List.getLast?_concat]
    split
    · next c' r'' z' hcons' hlast' =>
      obtain ⟨rfl, -⟩ := List.cons.inj (hcons.symm.trans hcons')
      obtain rfl := Option.some.inj (hlast.symm.trans hlast')
      refine if_pos ?_
      simp only [Bool.and_eq_true, Bool.or_eq_true]
      exact ⟨⟨⟨⟨hcapital, hz⟩, by simpa using htitle.unbarred⟩,
        (possessivesOnly_iff _).mpr htitle.possessives⟩, (periodsInside_iff _).mpr htitle.periods⟩
    · next hneither => exact (hneither c r z hcons hlast).elim

/-- **A line is taken for a title exactly if it is one**, once stripped, and what is taken for a
title is taken for one again. -/
theorem title_iff_isTitle (l : Text) :
    (∀ t, title? l = some t ↔ t = Text.strip l ∧ IsTitle t) ∧
      (title? l = none ↔ ¬IsTitle (Text.strip l)) ∧
      ∀ t, title? l = some t → title? t = some t := by
  refine ⟨fun t => title?_eq_some_iff, ?_, fun t h => ?_⟩
  · rw [Option.eq_none_iff_forall_ne_some]
    constructor
    · exact fun h htitle => h _ (title?_eq_some_iff.mpr ⟨rfl, htitle⟩)
    · rintro h t ht
      obtain ⟨rfl, htitle⟩ := title?_eq_some_iff.mp ht
      exact h htitle
  · obtain ⟨rfl, htitle⟩ := title?_eq_some_iff.mp h
    exact title?_eq_some_iff.mpr ⟨(Text.strip_strip l).symm, htitle⟩

/-- A line with an apostrophe and a period as titles have them. -/
def possessiveLine : Text := Text.of "  Python 3.12's cache\t"

/-- A title with a point and a possessive, and a line that is none. -/
theorem title_iff_isTitle_possessiveLine :
    IsTitle (Text.of "Python 3.12's cache") ∧
      title? (Text.of "Python 3.12's cache") = some (Text.of "Python 3.12's cache") ∧
      ¬IsTitle (Text.strip (Text.of "End. Start")) := by
  have htitle : title? possessiveLine = some (Text.of "Python 3.12's cache") := by decide +kernel
  have hnone : title? (Text.of "End. Start") = none := by decide +kernel
  obtain ⟨hform, -, hagain⟩ := title_iff_isTitle possessiveLine
  obtain ⟨-, hplain, -⟩ := title_iff_isTitle (Text.of "End. Start")
  exact ⟨((hform _).mp htitle).2, hagain _ htitle, hplain.mp hnone⟩

end ApiPage.Prose
