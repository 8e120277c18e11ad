import Mathlib
import ApiPage.Prose.Block

/-!
# Indentation that lines share

Unindenting takes from every line that is not blank the longest white space that all of them begin
with, and empties the blank lines. So what a line says is kept, and where some line is not blank the
lines that are left begin with no space or tab in common.

## Main definitions

* `Prose.IsShared`: a text that every line with something on it is indented by.
* `Prose.LosesIndent`: lines lose as many characters of an indentation that they share.
* `Prose.said`: what lines say, without their indentation.

## Main results

* `Prose.exists_unindent`: what unindenting takes away.
* `Prose.not_shared_unindent`: no indentation is left that all lines share.
* `Prose.unindent_unindent`: unindenting twice is unindenting once.
* `Prose.unindent_losesLongest`: lines lose the most characters of indentation that they can lose.
* `Prose.said_unindent`: unindenting keeps what lines say.
-/

namespace ApiPage

/-! ### Blank texts -/

/-- A blank is white space. -/
theorem Text.isSpaceChar_of_isBlankChar {c : Char} (h : isBlankChar c) : isSpaceChar c = true := by
  rw [isBlankChar, Bool.or_eq_true, beq_iff_eq, beq_iff_eq] at h
  rcases h with rfl | rfl
  · decide
  · decide

/-- White space in front does not make a text blank, nor does it keep one from being blank. -/
theorem Text.isBlank_append {p : Text} (hp : ∀ c ∈ p, isSpaceChar c) (t : Text) :
    isBlank (p ++ t) = isBlank t := by
  rw [isBlank, List.all_append, List.all_eq_true.mpr hp, Bool.true_and]
  rfl

/-- White space in front is stripped. -/
theorem Text.strip_append {p : Text} (hp : ∀ c ∈ p, isSpaceChar c) (t : Text) :
    strip (p ++ t) = strip t := by
  rw [strip, stripOf, List.dropWhile_append_of_pos hp]
  rfl

namespace Prose

/-! ### Indentation of a line -/

/-- An indent is made of blanks. -/
theorem isBlankChar_of_mem_indentOf {l : Text} {c : Char} (h : c ∈ indentOf l) :
    Text.isBlankChar c := List.mem_takeWhile_imp h

/-- A line begins with its indent. -/
theorem indentOf_isPrefix (l : Text) : indentOf l <+: l := List.takeWhile_prefix _

/-- Every run of spaces and tabs at the start of a line belongs to its indentation. -/
theorem isPrefix_indentOf {p l : Text} (hp : ∀ c ∈ p, Text.isBlankChar c) (h : p <+: l) :
    p <+: indentOf l := by
  obtain ⟨r, rfl⟩ := h
  rw [indentOf, List.takeWhile_append_of_pos hp]
  exact List.prefix_append p _

/-! ### The longest common start -/

/-- Two texts begin with what they have in common. -/
theorem commonStart_isPrefix (s t : Text) : commonStart s t <+: s ∧ commonStart s t <+: t := by
  induction s generalizing t with
  | nil => exact ⟨List.nil_prefix, List.nil_prefix⟩
  | cons c s ih =>
    cases t with
    | nil => exact ⟨List.nil_prefix, List.nil_prefix⟩
    | cons d t =>
      rw [commonStart]
      split
      · next h =>
        obtain rfl := eq_of_beq h
        exact ⟨(List.prefix_cons_inj c).mpr (ih t).1, (List.prefix_cons_inj c).mpr (ih t).2⟩
      · exact ⟨List.nil_prefix, List.nil_prefix⟩

/-- **Whatever two texts both begin with** is a start of their longest common start. -/
theorem isPrefix_commonStart {p s t : Text} (hs : p <+: s) (ht : p <+: t) :
    p <+: commonStart s t := by
  induction p generalizing s t with
  | nil => exact List.nil_prefix
  | cons c p ih =>
    obtain ⟨u, rfl⟩ := hs
    obtain ⟨v, rfl⟩ := ht
    rw [List.cons_append, List.cons_append, commonStart, if_pos (beq_self_eq_true c),
      List.prefix_cons_inj]
    exact ih (List.prefix_append p u) (List.prefix_append p v)

/-! ### Shared indentation -/

/-- **Shared indentation**: every line that is not blank is indented by `p` at least. -/
def IsShared (ls : List Text) (p : Text) : Prop :=
  ∀ l ∈ ls, Text.isBlank l = false → p <+: indentOf l

/-- There is no common indentation where all lines are blank. -/
theorem commonIndent?_eq_none_iff (ls : List Text) :
    commonIndent? ls = none ↔ ∀ l ∈ ls, Text.isBlank l = true := by
  induction ls with
  | nil => simp [commonIndent?]
  | cons l ls ih =>
    rw [commonIndent?, List.forall_mem_cons]
    split
    · next hl => rw [ih, and_iff_right hl]
    · next hl =>
      refine iff_of_false ?_ fun h => hl h.1
      split
      · exact Option.some_ne_none _
      · exact Option.some_ne_none _

/-- **The common indentation of lines is the longest that they share.** -/
theorem isShared_commonIndent? {ls : List Text} {p : Text} (h : commonIndent? ls = some p) :
    IsShared ls p ∧ ∀ q, IsShared ls q → q <+: p := by
  induction ls generalizing p with
  | nil => cases h
  | cons l ls ih =>
    rw [commonIndent?] at h
    split at h
    · next hl =>
      have hcons (q : Text) : IsShared (l :: ls) q ↔ IsShared ls q := by
        simp [IsShared, hl]
      obtain ⟨hshared, hlongest⟩ := ih h
      exact ⟨(hcons p).mpr hshared, fun q hq => hlongest q ((hcons q).mp hq)⟩
    · next hl =>
      have hcons (q : Text) : IsShared (l :: ls) q ↔ q <+: indentOf l ∧ IsShared ls q := by
        simp [IsShared, hl]
      split at h
      · next hnone =>
        obtain rfl := Option.some.inj h
        refine ⟨(hcons _).mpr ⟨List.prefix_rfl, fun m hm hblank => ?_⟩,
          fun q hq => ((hcons q).mp hq).1⟩
        rw [(commonIndent?_eq_none_iff ls).mp hnone m hm] at hblank
        cases hblank
      · next p' hp =>
        obtain rfl := Option.some.inj h
        obtain ⟨hshared, hlongest⟩ := ih hp
        have hstart := commonStart_isPrefix (indentOf l) p'
        refine ⟨(hcons _).mpr ⟨hstart.1, fun m hm hblank => ?_⟩, fun q hq => ?_⟩
        · exact hstart.2.trans (hshared m hm hblank)
        · exact isPrefix_commonStart ((hcons q).mp hq).1 (hlongest q ((hcons q).mp hq).2)

/-- **A line and what unindenting makes of it**: a blank line becomes empty, and another loses the
indentation `p`. -/
def Unindented (p l m : Text) : Prop := if Text.isBlank l then m = [] else l = p ++ m

/-- **What unindenting takes away**: the longest indentation that the lines share, and all of a
blank line. -/
theorem exists_unindent (ls : List Text) : ∃ p f, (∀ c ∈ p, Text.isBlankChar c) ∧
    unindent ls = ls.map f ∧ (∀ l ∈ ls, Unindented p l (f l)) ∧
    ((∃ l ∈ ls, Text.isBlank l = false) → ∀ q, IsShared ls q → q <+: p) := by
  have hunindented {p : Text} (hp : IsShared ls p) :
      ∀ l ∈ ls, Unindented p l (if Text.isBlank l then [] else l.drop p.length) := by
    intro l hl
    rw [Unindented]
    split
    · rfl
    · next hblank =>
      rw [Bool.not_eq_true] at hblank
      obtain ⟨r, hr⟩ := (hp l hl hblank).trans (indentOf_isPrefix l)
      rw [← hr, List.drop_left]
  cases h : commonIndent? ls with
  | none =>
    have hblank := (commonIndent?_eq_none_iff ls).mp h
    refine ⟨[], _, List.forall_mem_nil _, by rw [unindent, h]; rfl,
      hunindented fun _ _ _ => List.nil_prefix, ?_⟩
    rintro ⟨l, hl, hnot⟩
    rw [hblank l hl] at hnot
    cases hnot
  | some p =>
    obtain ⟨hshared, hlongest⟩ := isShared_commonIndent? h
    refine ⟨p, _, fun c hc => ?_, by rw [unindent, h]; rfl, hunindented hshared, fun _ => hlongest⟩
    have hsome : ¬∀ l ∈ ls, Text.isBlank l = true := by
      rw [← commonIndent?_eq_none_iff, h]
      exact Option.some_ne_none p
    simp only [not_forall, Bool.not_eq_true] at hsome
    obtain ⟨l, hl, hblank⟩ := hsome
    exact isBlankChar_of_mem_indentOf ((hshared l hl hblank).subset hc)

/-! ### What is left -/

section Unindented

variable {p l m : Text} (hp : ∀ c ∈ p, Text.isBlankChar c)

include hp

/-- A line is blank before and after. -/
theorem Unindented.isBlank_eq (h : Unindented p l m) : Text.isBlank m = Text.isBlank l := by
  rw [Unindented] at h
  split at h
  · next hl => rw [h, hl]; rfl
  · rw [h, Text.isBlank_append fun c hc => Text.isSpaceChar_of_isBlankChar (hp c hc)]

/-- Stripped, a line that is not blank is the same before and after. -/
theorem Unindented.strip_eq (h : Unindented p l m) (hl : Text.isBlank l = false) :
    Text.strip m = Text.strip l := by
  rw [Unindented, if_neg (by simp [hl])] at h
  rw [h, Text.strip_append fun c hc => Text.isSpaceChar_of_isBlankChar (hp c hc)]

end Unindented

/-- **What lines say**: those that are not blank, stripped. -/
def said (ls : List Text) : List Text := (ls.filter fun l => !Text.isBlank l).map Text.strip

/-- What some lines say comes before what the next ones do. -/
theorem said_append (ls ms : List Text) : said (ls ++ ms) = said ls ++ said ms := by
  rw [said, List.filter_append, List.map_append]
  rfl

/-- A blank line says nothing, and another one what is left when it is stripped. -/
theorem said_cons (l : Text) (ls : List Text) :
    said (l :: ls) = if Text.isBlank l then said ls else Text.strip l :: said ls := by
  rw [said, List.filter_cons]
  cases Text.isBlank l with
  | true => rfl
  | false => rfl

/-- What lines of several parts say, in order. -/
theorem said_flatMap {α : Type} (f : α → List Text) (as : List α) :
    said (as.flatMap f) = as.flatMap fun a => said (f a) := by
  induction as with
  | nil => rfl
  | cons a as ih => rw [List.flatMap_cons, said_append, ih, List.flatMap_cons]

/-- **Unindenting keeps what lines say.** -/
theorem said_unindent (ls : List Text) : said (unindent ls) = said ls := by
  obtain ⟨p, f, hp, hmap, hlines, -⟩ := exists_unindent ls
  rw [hmap]
  clear hmap
  induction ls with
  | nil => rfl
  | cons l ls ih =>
    obtain ⟨hl, hlines⟩ := List.forall_mem_cons.mp hlines
    rw [List.map_cons, said_cons, said_cons, ih hlines, hl.isBlank_eq hp]
    split
    · rfl
    · next hblank => rw [hl.strip_eq hp (by simpa using hblank)]

/-- **No indentation is left that all lines share**, as a character of it would belong to what is
taken away. -/
theorem not_shared_unindent {ls : List Text} (h : ∃ l ∈ ls, Text.isBlank l = false) {c : Char}
    (hc : Text.isBlankChar c) :
    ¬∀ m ∈ unindent ls, Text.isBlank m = false → m.head? = some c := by
  intro hall
  obtain ⟨p, f, hp, hmap, hlines, hlongest⟩ := exists_unindent ls
  have hshared : IsShared ls (p ++ [c]) := by
    intro l hl hblank
    have hline := hlines l hl
    obtain ⟨r, hr⟩ := List.head?_eq_some_iff.mp
      (hall (f l) (hmap ▸ List.mem_map_of_mem hl) (by rw [hline.isBlank_eq hp, hblank]))
    rw [Unindented, if_neg (by simp [hblank]), hr] at hline
    rw [hline]
    refine isPrefix_indentOf ?_ ⟨r, by simp⟩
    rw [List.forall_mem_append, List.forall_mem_singleton]
    exact ⟨hp, hc⟩
  have hlength := (hlongest h _ hshared).length_le
  rw [List.length_append, List.length_singleton] at hlength
  omega

/-! ### Unindented lines stay as they are -/

/-- Each line that unindenting leaves is made of a line by taking indentation away. -/
theorem exists_of_mem_unindent {ls : List Text} {m : Text} (h : m ∈ unindent ls) :
    ∃ l ∈ ls, ∃ p, (∀ c ∈ p, Text.isBlankChar c) ∧ Unindented p l m := by
  obtain ⟨p, f, hp, hmap, hlines, -⟩ := exists_unindent ls
  rw [hmap] at h
  obtain ⟨l, hl, rfl⟩ := List.mem_map.mp h
  exact ⟨l, hl, p, hp, hlines l hl⟩

/-- Lines stay as they are where those that are blank are empty and no indentation is shared. -/
theorem unindent_eq_self {ls : List Text} (hempty : ∀ l ∈ ls, Text.isBlank l → l = [])
    (hnone : ∀ c, Text.isBlankChar c → (∃ l ∈ ls, Text.isBlank l = false) →
      ¬∀ l ∈ ls, Text.isBlank l = false → l.head? = some c) : unindent ls = ls := by
  obtain ⟨p, f, hp, hmap, hlines, -⟩ := exists_unindent ls
  rw [hmap]
  refine (List.map_congr_left fun l hl => ?_).trans (List.map_id ls)
  have hline := hlines l hl
  rw [Unindented] at hline
  split at hline
  · next hblank => rw [hline, hempty l hl hblank, id]
  · next hblank =>
    rw [Bool.not_eq_true] at hblank
    cases p with
    | nil => exact hline.symm
    | cons c p =>
      refine absurd (fun m hm hm' => ?_) (hnone c (hp c List.mem_cons_self) ⟨l, hl, hblank⟩)
      have hmline := hlines m hm
      rw [Unindented, if_neg (by simp [hm'])] at hmline
      rw [hmline]
      rfl

/-- **Unindenting twice is unindenting once.** -/
theorem unindent_unindent (ls : List Text) : unindent (unindent ls) = unindent ls := by
  refine unindent_eq_self (fun m hm hblank => ?_) fun c hc ⟨m, hm, hblank⟩ => ?_
  · obtain ⟨l, -, p, hp, hline⟩ := exists_of_mem_unindent hm
    have hl : Text.isBlank l := hline.isBlank_eq hp ▸ hblank
    rwa [Unindented, if_pos hl] at hline
  · obtain ⟨l, hl, p, hp, hline⟩ := exists_of_mem_unindent hm
    exact not_shared_unindent ⟨l, hl, hline.isBlank_eq hp ▸ hblank⟩ hc

/-! ### How much is taken away -/

/-- **Lines that lose `n` characters of indentation**: those that are not blank begin with the same
`n` spaces and tabs and lose just these, and a blank line becomes empty. -/
def LosesIndent (n : Nat) (ls ms : List Text) : Prop :=
  ∃ p : Text, p.length = n ∧ (∀ c ∈ p, Text.isBlankChar c) ∧ List.Forall₂ (Unindented p) ls ms

/-- What lines lose of an indentation, they share. -/
theorem isShared_of_forall₂ {p : Text} (hp : ∀ c ∈ p, Text.isBlankChar c) {ls ms : List Text}
    (h : List.Forall₂ (Unindented p) ls ms) : IsShared ls p := by
  induction h with
  | nil => exact fun l hl => by cases hl
  | @cons l m ls ms hline _ ih =>
    refine List.forall_mem_cons.mpr ⟨fun hblank => ?_, ih⟩
    rw [Unindented, if_neg (by simp [hblank])] at hline
    exact isPrefix_indentOf hp ⟨m, hline.symm⟩

/-- **Lines lose the most indentation that they can lose, and then have none to lose.** For some
`n`, the lines that are not blank lose the same `n` spaces and tabs that they begin with, and blank
lines become empty. No more can be lost in that way unless all lines are blank, and unindenting once
more changes nothing. -/
theorem unindent_losesLongest (ls : List Text) :
    ∃ n, LosesIndent n ls (unindent ls) ∧
      (∀ k ms, n < k → LosesIndent k ls ms → ∀ l ∈ ls, Text.isBlank l) ∧
      unindent (unindent ls) = unindent ls := by
  obtain ⟨p, f, hp, hmap, hlines, hlongest⟩ := exists_unindent ls
  have hloses : LosesIndent p.length ls (unindent ls) := by
    refine ⟨p, rfl, hp, ?_⟩
    rwa [hmap, List.forall₂_map_right_iff, List.forall₂_same]
  refine ⟨p.length, hloses, ?_, unindent_unindent ls⟩
  rintro _ ms hk ⟨q, rfl, hq, hqlines⟩ l hl
  by_contra hblank
  have hle := (hlongest ⟨l, hl, by simpa using hblank⟩ q (isShared_of_forall₂ hq hqlines)).length_le
  omega

/-- A tab after two spaces is not shared, and a line of no-break spaces is blank. -/
example : unindent [Text.of "  \tif x:", Text.of "\u00a0\u00a0", Text.of "   y", []] =
    [Text.of "\tif x:", [], Text.of " y", []] := by decide

end Prose
end ApiPage
