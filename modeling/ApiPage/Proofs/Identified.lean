import Mathlib
import ApiPage.Page.Rendering

/-!
# Names and occurrences

The annotator looks up an occurrence at the start of every name of a displayed text. Occurrences
*identify* the names of a text if one stands at every name that is no keyword, none stands anywhere
else, and each is called as it is written there.

## Main definitions

* `identifiers`: the names of a text that are no keywords.
* `Identifies`: the occurrences of a text are those of its identifiers.

## Main results

* `not_identifies_mixedTargets`: a target beside one that binds a name may have no occurrence.
-/

namespace ApiPage

open Syntax

/-- The **identifiers** of a text: its names that are no keywords. -/
def identifiers (ls : List Lexeme) : List Lexeme :=
  ls.filter fun l => l.kind = .name && (Word.ofText? l.text).isNone

/-- The text from a place on to the end of its line. -/
def textFrom (t : Text) (row col : Nat) : Text := ((Text.lines t)[row - 1]?.getD []).drop col

/-- **Occurrences of the identifiers of a text**, one at each, that are called as it is written. -/
structure Identifies (t : Text) (ls : List Lexeme) (os : List Occurrence) : Prop where
  once : (os.map fun o => (o.row, o.col)).Nodup
  places : ∀ row col, (∃ o ∈ os, o.row = row ∧ o.col = col) ↔
    ∃ l ∈ identifiers ls, l.row = row ∧ l.col = col
  spelled : ∀ o ∈ os, o.name <+: textFrom t o.row o.col

/-- An outcome that is kept is no error. -/
theorem eq_ok_of_toOption {ε α : Type} {x : Except ε α} {a : α} (h : x.toOption = some a) :
    x = .ok a := by
  cases x with
  | error e => cases h
  | ok b => exact congrArg _ (Option.some.inj h)

/-- Targets of which one binds a name and one is a member. -/
def mixedTargets : Text := Text.of "a, b.c = 1, 2\n"

/-- **Targets beside a name have no occurrences**, though they are identifiers of the text. -/
theorem not_identifies_mixedTargets :
    ∃ p d t ss os ls, Package.ofSource (Text.of "m") mixedTargets = .ok p ∧
      d ∈ p.allDeclarations ∧ d.display p.comments = .ok t ∧ parseModule t = .ok ss ∧
      occurrencesOf p.lookup Resolver.empty d.receiver t ss = .ok os ∧ lexemes t = .ok ls ∧
      ¬ Identifies t ls os := by
  have hcheck : ((Package.ofSource (Text.of "m") mixedTargets).toOption.bind fun p =>
      p.allDeclarations.head?.bind fun d => (d.display p.comments).toOption.bind fun t =>
      (parseModule t).toOption.bind fun ss =>
      (occurrencesOf p.lookup Resolver.empty d.receiver t ss).toOption.bind fun os =>
      (lexemes t).toOption.bind fun ls =>
      (identifiers ls).find? fun l => os.all fun o => !(o.row = l.row && o.col = l.col)).isSome =
        true := by
    decide +kernel
  obtain ⟨l, hl⟩ := Option.isSome_iff_exists.mp hcheck
  obtain ⟨p, hp, hl⟩ := Option.bind_eq_some_iff.mp hl
  obtain ⟨d, hd, hl⟩ := Option.bind_eq_some_iff.mp hl
  obtain ⟨t, ht, hl⟩ := Option.bind_eq_some_iff.mp hl
  obtain ⟨ss, hss, hl⟩ := Option.bind_eq_some_iff.mp hl
  obtain ⟨os, hos, hl⟩ := Option.bind_eq_some_iff.mp hl
  obtain ⟨ls, hls, hfind⟩ := Option.bind_eq_some_iff.mp hl
  refine ⟨p, d, t, ss, os, ls, eq_ok_of_toOption hp, List.mem_of_mem_head? hd,
    eq_ok_of_toOption ht, eq_ok_of_toOption hss, eq_ok_of_toOption hos, eq_ok_of_toOption hls,
    fun h => ?_⟩
  obtain ⟨o, ho, hrow, hcol⟩ :=
    (h.places l.row l.col).mpr ⟨l, List.mem_of_find?_eq_some hfind, rfl, rfl⟩
  have hall := List.find?_some hfind
  have hno := List.all_eq_true.mp hall o ho
  simp [hrow, hcol] at hno

end ApiPage
