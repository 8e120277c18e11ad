import Mathlib
import ApiPage.Prose.Line

/-!
# Converted quotes

Doubled backticks and doubled apostrophes become quotation marks. Of a run of one of these characters
every two from its start on become a mark. A mark is neither of them, so that what is left over
stands alone, and the conversion of apostrophes brings no two backticks together. A converted text
is therefore converted to itself.

## Main definitions

* `Prose.joinPairs`: a mark in the place of every two of a character.
* `Prose.HasPair`: a character stands twice in a row.

## Main results

* `Prose.not_hasPair_joinPairs`: no two of the character are left next to each other.
* `Prose.convertQuotes_settles`: a converted text has no pairs and is converted to itself, and a line
  is formatted alike whether its quotes are converted before or not.
-/

namespace ApiPage.Prose

variable {q mark c : Char} {t : Text}

/-! ### Pairs of a character -/

/-- **A mark in the place of every two** of a character `q`, from left to right. -/
def joinPairs (q mark : Char) : Text → Text
  | [] => []
  | [c] => [c]
  | c :: d :: r =>
    if c = q ∧ d = q then mark :: joinPairs q mark r else c :: joinPairs q mark (d :: r)

/-- **A pair**: the character stands twice in a row. -/
def HasPair (q : Char) (t : Text) : Prop := [q, q] <:+: t

/-- A character that does not begin a pair stays. -/
theorem joinPairs_cons (h : ¬(c = q ∧ t.head? = some q)) :
    joinPairs q mark (c :: t) = c :: joinPairs q mark t := by
  cases t with
  | nil => rfl
  | cons d r => rw [joinPairs, if_neg (by simpa using h)]

/-- A function that takes text by single characters and by pairs of `q`, as `joinPairs` does. -/
theorem eq_joinPairs {f : Text → Text} (hnil : f [] = [])
    (hpair : ∀ r, f (q :: q :: r) = mark :: f r)
    (hcons : ∀ c r, ¬(c = q ∧ r.head? = some q) → f (c :: r) = c :: f r) (t : Text) :
    f t = joinPairs q mark t := by
  fun_induction joinPairs q mark t with
  | case1 => exact hnil
  | case2 c => rw [hcons c [] (by simp), hnil]
  | case3 c d r h ih =>
    obtain ⟨rfl, rfl⟩ := h
    rw [hpair, ih]
  | case4 c d r h ih => rw [hcons c (d :: r) (by simpa using h), ih]

/-- Opening quotes are pairs of backticks. -/
theorem openQuotes_eq (t : Text) : openQuotes t = joinPairs '\x60' '“' t :=
  eq_joinPairs rfl (fun _ => rfl) (fun c r h => by
    rw [openQuotes]
    rintro r' rfl rfl
    exact h ⟨rfl, rfl⟩) t

/-- Closing quotes are pairs of apostrophes. -/
theorem closeQuotes_eq (t : Text) : closeQuotes t = joinPairs '\'' '”' t :=
  eq_joinPairs rfl (fun _ => rfl) (fun c r h => by
    rw [closeQuotes]
    rintro r' rfl rfl
    exact h ⟨rfl, rfl⟩) t

/-! ### What is left over -/

/-- A pair further on is a pair. -/
theorem hasPair_cons : HasPair q (c :: t) ↔ c = q ∧ t.head? = some q ∨ HasPair q t := by
  rw [HasPair, List.infix_cons_iff, List.cons_prefix_cons]
  refine or_congr_left (and_congr eq_comm ?_)
  cases t with
  | nil => simp
  | cons d r => simp [eq_comm]

/-- The first character of a text with marks is a mark or that of the text. -/
theorem head?_joinPairs (q mark : Char) (t : Text) :
    (joinPairs q mark t).head? = some mark ∨ (joinPairs q mark t).head? = t.head? := by
  fun_cases joinPairs q mark t with
  | case1 => exact .inr rfl
  | case2 => exact .inr rfl
  | case3 => exact .inl rfl
  | case4 => exact .inr rfl

/-- **No two of the character are left next to each other**, as a mark is another one. -/
theorem not_hasPair_joinPairs (hmark : mark ≠ q) (t : Text) : ¬HasPair q (joinPairs q mark t) := by
  fun_induction joinPairs q mark t with
  | case1 => simp [HasPair]
  | case2 c =>
    rw [hasPair_cons]
    simp [HasPair]
  | case3 c d r h ih =>
    rw [hasPair_cons]
    rintro (⟨hq, -⟩ | hpair)
    · exact hmark hq
    · exact ih hpair
  | case4 c d r h ih =>
    rw [hasPair_cons]
    rintro (⟨rfl, hhead⟩ | hpair)
    · rcases head?_joinPairs c mark (d :: r) with hfirst | hfirst
      · exact hmark (Option.some.inj (hfirst.symm.trans hhead))
      · exact h ⟨rfl, Option.some.inj (hfirst.symm.trans hhead)⟩
    · exact ih hpair

/-- A text without pairs is kept. -/
theorem joinPairs_eq_self (h : ¬HasPair q t) : joinPairs q mark t = t := by
  induction t with
  | nil => rfl
  | cons c t ih =>
    rw [hasPair_cons, not_or] at h
    rw [joinPairs_cons h.1, ih h.2]

/-- Marks bring no two of another character together. -/
theorem HasPair.of_joinPairs {p : Char} (hmark : mark ≠ p) (h : HasPair p (joinPairs q mark t)) :
    HasPair p t := by
  fun_induction joinPairs q mark t with
  | case1 => exact h
  | case2 => exact h
  | case3 c d r _ ih =>
    rcases hasPair_cons.mp h with ⟨hp, -⟩ | hpair
    · exact absurd hp hmark
    · exact hasPair_cons.mpr (.inr (hasPair_cons.mpr (.inr (ih hpair))))
  | case4 c d r _ ih =>
    refine hasPair_cons.mpr ?_
    rcases hasPair_cons.mp h with ⟨rfl, hhead⟩ | hpair
    · rcases head?_joinPairs q mark (d :: r) with hfirst | hfirst
      · exact absurd (Option.some.inj (hfirst.symm.trans hhead)) hmark
      · exact .inl ⟨rfl, hfirst.symm.trans hhead⟩
    · exact .inr (ih hpair)

/-! ### Converted texts -/

/-- Opening quotes are converted before closing ones. -/
theorem convertQuotes_eq (t : Text) :
    convertQuotes t = joinPairs '\'' '”' (joinPairs '\x60' '“' t) := by
  rw [convertQuotes, closeQuotes_eq, openQuotes_eq]

/-- No two backticks are left: the marks for apostrophes keep those apart that stand apart. -/
theorem not_hasPair_backtick_convertQuotes (t : Text) : ¬HasPair '\x60' (convertQuotes t) := by
  rw [convertQuotes_eq]
  exact fun h => not_hasPair_joinPairs (by decide) t (h.of_joinPairs (by decide))

/-- No pair of apostrophes is left. -/
theorem not_hasPair_apostrophe_convertQuotes (t : Text) : ¬HasPair '\'' (convertQuotes t) := by
  rw [convertQuotes_eq]
  exact not_hasPair_joinPairs (by decide) _

/-- A text without pairs of either kind is converted to itself. -/
theorem convertQuotes_eq_self (hopen : ¬HasPair '\x60' t) (hclose : ¬HasPair '\'' t) :
    convertQuotes t = t := by
  rw [convertQuotes_eq, joinPairs_eq_self hopen, joinPairs_eq_self hclose]

/-- Converting twice is converting once. -/
theorem convertQuotes_convertQuotes (t : Text) : convertQuotes (convertQuotes t) = convertQuotes t :=
  convertQuotes_eq_self (not_hasPair_backtick_convertQuotes t)
    (not_hasPair_apostrophe_convertQuotes t)

/-- **Converted quotes settle a text**: no two backticks and no two apostrophes are next to each
other in it, it is converted to itself, and it is formatted as the text is that it was converted
from, whatever becomes of the names, and with the same names offered. -/
theorem convertQuotes_settles (t : Text) :
    ¬HasPair '\x60' (convertQuotes t) ∧ ¬HasPair '\'' (convertQuotes t) ∧
      convertQuotes (convertQuotes t) = convertQuotes t ∧
      offeredNames (convertQuotes t) = offeredNames t ∧
      ∀ (resolver : Option (Text → Text)) (hotlinks : Bool),
        formatLine (if hotlinks then resolver else none) (convertQuotes t) =
          formatLine (if hotlinks then resolver else none) t := by
  have hsame := convertQuotes_convertQuotes t
  refine ⟨not_hasPair_backtick_convertQuotes t, not_hasPair_apostrophe_convertQuotes t, hsame, ?_,
    fun resolver hotlinks => ?_⟩
  · rw [offeredNames, hsame, offeredNames]
  · rw [formatLine, hsame, formatLine]

/-- Of three backticks one is left over, and the apostrophes between it and another do not bring the
two together. -/
example : convertQuotes (Text.of "\x60\x60\x60''\x60 '''") = Text.of "“\x60”\x60 ”'" := by decide

end ApiPage.Prose
